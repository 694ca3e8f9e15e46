import RollingBudget.Refresh.Steps

namespace RollingBudget

open Sorting ConfigService RefreshService

/-! What publishing the staged rows of a run leaves in the live tables. A full rebuild
starts from empty tables and an incremental run from the live ones; apart from that both
store the same rows. -/

variable {now : Datetime} {tables : RefreshTables} {run : RefreshRun} {ledger after : LedgerTables}
  {staged : StagedTransaction} {targets : List Identity}

/-- The live tables keep one row for each identity and no link without its row. -/
structure LedgerSound (ledger : LedgerTables) : Prop where
  identities : (ledger.transactions.map Transaction.identity).Nodup
  linked : ∀ link ∈ ledger.transactionCategories, ∃ transaction ∈ ledger.transactions,
    transaction.identity = link.identity

theorem LedgerSound.empty : LedgerSound ⟨[], []⟩ := by
  constructor <;> simp

theorem LedgerSound.find (sound : LedgerSound ledger) {transaction : Transaction} :
    ledger.transaction transaction.identity = some transaction ↔
      transaction ∈ ledger.transactions := by
  rw [LedgerTables.transaction, Table.get_eq_some_iff sound.identities]
  simp

/-! ## Removing an identity -/

theorem LedgerSound.deleteLiveIdentity (sound : LedgerSound ledger) (identity : Identity) :
    LedgerSound (deleteLiveIdentity ledger identity) where
  identities := sound.identities.sublist (List.filter_sublist.map _)
  linked := by
    intro link member
    rcases List.mem_filter.mp member with ⟨linkMember, other⟩
    rcases sound.linked link linkMember with ⟨transaction, transactionMember, same⟩
    refine ⟨transaction, List.mem_filter.mpr ⟨transactionMember, ?_⟩, same⟩
    rw [same]
    exact other

theorem mem_deleteLiveIdentity_transactions {identity : Identity} {transaction : Transaction} :
    transaction ∈ (deleteLiveIdentity ledger identity).transactions ↔
      transaction ∈ ledger.transactions ∧ transaction.identity ≠ identity := by
  simp [deleteLiveIdentity]

theorem mem_deleteLiveIdentity_links {identity : Identity} {link : TransactionCategory} :
    link ∈ (deleteLiveIdentity ledger identity).transactionCategories ↔
      link ∈ ledger.transactionCategories ∧ link.identity ≠ identity := by
  simp [deleteLiveIdentity]

/-! ## Storing a row -/

/-- Removing an identity that has no row changes nothing. -/
theorem LedgerSound.deleteLiveIdentity_of_absent (sound : LedgerSound ledger) {identity : Identity}
    (absent : ∀ transaction ∈ ledger.transactions, transaction.identity ≠ identity) :
    RefreshService.deleteLiveIdentity ledger identity = ledger := by
  cases ledger with
  | mk transactions links =>
      refine (LedgerTables.mk.injEq ..).mpr ⟨?_, ?_⟩
      · rw [List.filter_eq_self]
        intro transaction member
        exact decide_eq_true (absent transaction member)
      · rw [List.filter_eq_self]
        intro link member
        rcases sound.linked link member with ⟨transaction, transactionMember, same⟩
        rw [← same]
        exact decide_eq_true (absent transaction transactionMember)

private theorem clear_eq (sound : LedgerSound ledger) (identity : Identity) :
    (if (ledger.transaction identity).isSome then RefreshService.deleteLiveIdentity ledger identity
      else ledger) = RefreshService.deleteLiveIdentity ledger identity := by
  split
  · rfl
  · next missing =>
    rw [Option.not_isSome_iff_eq_none] at missing
    exact (sound.deleteLiveIdentity_of_absent (Table.get_eq_none_iff.mp missing)).symm

/-- The effect of `_store_staged` on sound tables. -/
structure Stored (now : Datetime) (tables : RefreshTables) (run : RefreshRun)
    (ledger : LedgerTables) (staged : StagedTransaction) (after : LedgerTables) : Prop where
  sound : LedgerSound after
  transactions : ∀ transaction, transaction ∈ after.transactions ↔
    (transaction ∈ ledger.transactions ∧ transaction.identity ≠ staged.identity) ∨
      transaction = liveTransaction now run staged (ledger.transaction staged.identity)
  links : ∀ link, link ∈ after.transactionCategories ↔
    (link ∈ ledger.transactionCategories ∧ link.identity ≠ staged.identity) ∨
      ∃ source ∈ tables.stagedCategoriesOf run.id staged.identity, link = liveCategory run source

theorem storeStaged_spec (sound : LedgerSound ledger)
    (completed : storeStaged now tables run ledger staged (ledger.transaction staged.identity) =
      .ok after) :
    Stored now tables run ledger staged after := by
  unfold storeStaged at completed
  rcases Outcome.bind_eq_ok.mp completed with ⟨_, _, finished⟩
  rw [Outcome.pure_eq_ok, clear_eq sound] at finished
  have cleared := sound.deleteLiveIdentity staged.identity
  have sourceIdentity : ∀ source ∈ tables.stagedCategoriesOf run.id staged.identity,
      (liveCategory run source).identity = staged.identity := by
    intro source member
    have owns := (List.mem_filter.mp member).2
    rw [decide_eq_true_eq] at owns
    exact owns.2
  subst finished
  refine ⟨⟨?_, ?_⟩, ?_, ?_⟩
  · refine Table.nodup_map_concat cleared.identities fun old member => ?_
    exact (mem_deleteLiveIdentity_transactions.mp member).2
  · intro link member
    rcases List.mem_append.mp member with old | new
    · rcases cleared.linked link old with ⟨transaction, transactionMember, same⟩
      exact ⟨transaction, List.mem_append_left _ transactionMember, same⟩
    · rcases List.mem_map.mp new with ⟨source, sourceMember, rfl⟩
      exact ⟨_, List.mem_append_right _ (List.mem_singleton.mpr rfl),
        (sourceIdentity source sourceMember).symm⟩
  · intro transaction
    rw [List.mem_append, List.mem_singleton, mem_deleteLiveIdentity_transactions]
  · intro link
    rw [List.mem_append, mem_deleteLiveIdentity_links, List.mem_map]
    simp only [eq_comm]

/-! ## Replacement targets -/

/-- The live identity that a staged row replaces. -/
def namedTarget (staged : StagedTransaction) : Option Identity :=
  staged.pendingSourceId.map fun source => (staged.accountId, source)

/-- What `_validate_pending_replacements` requires of one row. -/
structure ReplacementChecked (ledger : LedgerTables) (items : List StagedTransaction)
    (staged : StagedTransaction) (target : Identity) : Prop where
  posted : staged.pending = false
  other : target ≠ staged.identity
  stagedTarget : ∀ row, Table.get StagedTransaction.identity items target = some row →
    row.pending = true
  liveTarget : ∀ row, ledger.transaction target = some row → row.pending = true

private theorem addReplacement_eq_ok_iff {items : List StagedTransaction}
    {found found' : List Identity} :
    addReplacement ledger items found staged = .ok found' ↔
      found' = found ++ (namedTarget staged).toList ∧ ∀ target, namedTarget staged = some target →
        target ∉ found ∧ ReplacementChecked ledger items staged target := by
  unfold addReplacement namedTarget
  cases staged.pendingSourceId with
  | none => simp [pure, Except.pure, eq_comm]
  | some source =>
      simp only [Outcome.bind_eq_ok, Outcome.require_eq_ok, Outcome.pure_eq_ok, exists_const,
        Option.map_some, Option.some.injEq, forall_eq', Option.toList_some]
      constructor
      · rintro ⟨valid, fresh, stagedTarget, liveTarget, rfl⟩
        rw [not_or, Bool.not_eq_true] at valid
        refine ⟨rfl, fresh, valid.1, valid.2, fun row isFound => ?_, fun row isFound => ?_⟩
        · rw [isFound] at stagedTarget
          exact stagedTarget
        · rw [isFound] at liveTarget
          exact liveTarget
      · rintro ⟨rfl, fresh, posted, other, stagedTarget, liveTarget⟩
        refine ⟨?_, fresh, (Option.all_eq_true _ _).mpr stagedTarget,
          (Option.all_eq_true _ _).mpr liveTarget, rfl⟩
        rw [not_or, Bool.not_eq_true]
        exact ⟨posted, other⟩

private theorem addReplacements_eq_ok_iff {items rest : List StagedTransaction}
    {found result : List Identity} :
    rest.foldlM (addReplacement ledger items) found = .ok result ↔
      result = found ++ rest.filterMap namedTarget ∧ (rest.filterMap namedTarget).Nodup ∧
        (∀ target ∈ rest.filterMap namedTarget, target ∉ found) ∧
        ∀ staged ∈ rest, ∀ target, namedTarget staged = some target →
          ReplacementChecked ledger items staged target := by
  induction rest generalizing found with
  | nil => simp [pure, Except.pure, eq_comm]
  | cons staged rest induction =>
      rw [List.foldlM_cons, Outcome.bind_eq_ok]
      simp only [addReplacement_eq_ok_iff, and_assoc, exists_eq_left, induction,
        List.forall_mem_cons, List.filterMap_cons]
      cases namedTarget staged with
      | none => simp
      | some target =>
          simp only [Option.toList_some, Option.some.injEq, forall_eq', List.append_assoc,
            List.singleton_append, List.nodup_cons, List.forall_mem_cons, List.mem_append,
            List.mem_singleton, not_or]
          constructor
          · rintro ⟨⟨fresh, checked⟩, same, nodup, apart, others⟩
            exact ⟨same, ⟨fun member => (apart target member).2 rfl, nodup⟩,
              ⟨fresh, fun other member => (apart other member).1⟩, checked, others⟩
          · rintro ⟨same, ⟨unnamed, nodup⟩, ⟨fresh, apart⟩, checked, others⟩
            refine ⟨⟨fresh, checked⟩, same, nodup, fun other member => ⟨apart other member, ?_⟩, others⟩
            rintro rfl
            exact unnamed member

/-- The links of the staged rows are accepted when they are sound and no two of them name
one target. -/
theorem validatePendingReplacements_eq_ok_iff {items : List StagedTransaction} :
    validatePendingReplacements ledger items = .ok targets ↔
      targets = items.filterMap namedTarget ∧ (items.filterMap namedTarget).Nodup ∧
        ∀ staged ∈ items, ∀ target, namedTarget staged = some target →
          ReplacementChecked ledger items staged target := by
  unfold validatePendingReplacements
  rw [addReplacements_eq_ok_iff]
  simp

theorem validatePendingReplacements_spec {items : List StagedTransaction}
    (completed : validatePendingReplacements ledger items = .ok targets) :
    targets = items.filterMap namedTarget ∧
      ∀ staged ∈ items, ∀ target, namedTarget staged = some target →
        ReplacementChecked ledger items staged target := by
  rcases validatePendingReplacements_eq_ok_iff.mp completed with ⟨named, _, checked⟩
  exact ⟨named, checked⟩

/-! ## The publishing loops -/

/-- The staged rows that are stored: those no other staged row replaces. -/
def keptRows (targets : List Identity) (items : List StagedTransaction) : List StagedTransaction :=
  items.filter fun staged => staged.identity ∉ targets

/-- The live tables once the kept rows of some staged rows are stored over older tables. -/
structure PublishedFrom (now : Datetime) (tables : RefreshTables) (run : RefreshRun)
    (older : LedgerTables) (kept : List StagedTransaction) (ledger : LedgerTables) : Prop where
  sound : LedgerSound ledger
  transactions : ∀ transaction, transaction ∈ ledger.transactions ↔
    (transaction ∈ older.transactions ∧ transaction.identity ∉ kept.filterMap namedTarget ∧
        transaction.identity ∉ kept.map StagedTransaction.identity) ∨
      ∃ staged ∈ kept, transaction =
        liveTransaction now run staged (older.transaction staged.identity)
  links : ∀ link, link ∈ ledger.transactionCategories ↔
    (link ∈ older.transactionCategories ∧ link.identity ∉ kept.filterMap namedTarget ∧
        link.identity ∉ kept.map StagedTransaction.identity) ∨
      ∃ staged ∈ kept, ∃ source ∈ tables.stagedCategoriesOf run.id staged.identity,
        link = liveCategory run source

/-- The links of a staged row have its identity. -/
theorem identity_stagedCategory {runId : Nat} {identity : Identity}
    {link : StagedTransactionCategory} (member : link ∈ tables.stagedCategoriesOf runId identity) :
    link.identity = identity := by
  have owns := (List.mem_filter.mp member).2
  rw [decide_eq_true_eq] at owns
  exact owns.2

theorem PublishedFrom.start {older : LedgerTables} (sound : LedgerSound older) :
    PublishedFrom now tables run older [] older :=
  ⟨sound, by simp, by simp⟩

/-- The tables in which a round stores its row. -/
def clearTarget (ledger : LedgerTables) (staged : StagedTransaction) : LedgerTables :=
  match namedTarget staged with
  | none => ledger
  | some target => deleteLiveIdentity ledger target

theorem mem_clearTarget_transactions {transaction : Transaction} :
    transaction ∈ (clearTarget ledger staged).transactions ↔
      transaction ∈ ledger.transactions ∧ namedTarget staged ≠ some transaction.identity := by
  unfold clearTarget
  split
  · next none => simp [none]
  · next target found => simp [mem_deleteLiveIdentity_transactions, found, eq_comm]

theorem mem_clearTarget_links {link : TransactionCategory} :
    link ∈ (clearTarget ledger staged).transactionCategories ↔
      link ∈ ledger.transactionCategories ∧ namedTarget staged ≠ some link.identity := by
  unfold clearTarget
  split
  · next none => simp [none]
  · next target found => simp [mem_deleteLiveIdentity_links, found, eq_comm]

theorem LedgerSound.clearTarget (sound : LedgerSound ledger) (staged : StagedTransaction) :
    LedgerSound (clearTarget ledger staged) := by
  unfold RollingBudget.clearTarget
  split
  · exact sound
  · exact sound.deleteLiveIdentity _

/-- One round: the row is new to the kept ones, and what it replaces is not kept. -/
theorem PublishedFrom.step {older : LedgerTables} {kept : List StagedTransaction}
    (published : PublishedFrom now tables run older kept ledger)
    (olderSound : LedgerSound older)
    (newIdentity : staged.identity ∉ kept.map StagedTransaction.identity)
    (notReplaced : staged.identity ∉ kept.filterMap namedTarget)
    (otherTarget : ∀ target, namedTarget staged = some target →
      target ≠ staged.identity ∧ target ∉ kept.map StagedTransaction.identity)
    (completed : storeStaged now tables run (clearTarget ledger staged) staged
      ((clearTarget ledger staged).transaction staged.identity) = .ok after) :
    PublishedFrom now tables run older (kept ++ [staged]) after := by
  have clearedSound := published.sound.clearTarget staged
  have stored := storeStaged_spec clearedSound completed
  have ownTarget : namedTarget staged ≠ some staged.identity :=
    fun same => (otherTarget _ same).1 rfl
  -- The row found under the identity is the one the older tables hold.
  have existing : (clearTarget ledger staged).transaction staged.identity =
      older.transaction staged.identity := by
    apply Option.ext
    intro transaction
    rw [LedgerTables.transaction, LedgerTables.transaction,
      Table.get_eq_some_iff clearedSound.identities, Table.get_eq_some_iff olderSound.identities,
      mem_clearTarget_transactions, published.transactions]
    constructor
    · rintro ⟨⟨⟨member, _⟩ | ⟨other, otherMember, rfl⟩, _⟩, same⟩
      · exact ⟨member, same⟩
      · exact absurd (List.mem_map.mpr ⟨other, otherMember, same⟩) newIdentity
    · rintro ⟨member, same⟩
      rw [same]
      exact ⟨⟨Or.inl ⟨member, notReplaced, newIdentity⟩, ownTarget⟩, rfl⟩
  refine ⟨stored.sound, ?_, ?_⟩
  · intro transaction
    rw [stored.transactions, mem_clearTarget_transactions, published.transactions, existing]
    simp only [List.filterMap_append, List.map_append, List.mem_append, List.mem_filterMap,
      List.mem_map, List.mem_singleton, exists_eq_left, not_or, ne_eq]
    constructor
    · rintro (⟨⟨⟨member, unnamed, unkept⟩ | ⟨other, otherMember, rfl⟩, untargeted⟩, different⟩ | rfl)
      · exact Or.inl ⟨member, ⟨unnamed, untargeted⟩, unkept, fun same => different same.symm⟩
      · exact Or.inr ⟨other, Or.inl otherMember, rfl⟩
      · exact Or.inr ⟨staged, Or.inr rfl, rfl⟩
    · rintro (⟨member, ⟨unnamed, untargeted⟩, unkept, different⟩ | ⟨other, otherMember | rfl, rfl⟩)
      · exact Or.inl ⟨⟨Or.inl ⟨member, unnamed, unkept⟩, untargeted⟩, fun same => different same.symm⟩
      · refine Or.inl ⟨⟨Or.inr ⟨other, otherMember, rfl⟩, fun named => ?_⟩, fun same => ?_⟩
        · exact (otherTarget _ named).2 (List.mem_map_of_mem otherMember)
        · exact newIdentity (List.mem_map.mpr ⟨other, otherMember, same⟩)
      · exact Or.inr rfl
  · intro link
    rw [stored.links, mem_clearTarget_links, published.links]
    have sourceIdentity : ∀ other source,
        source ∈ tables.stagedCategoriesOf run.id (StagedTransaction.identity other) →
          (liveCategory run source).identity = StagedTransaction.identity other := by
      intro other source member
      have owns := (List.mem_filter.mp member).2
      rw [decide_eq_true_eq] at owns
      exact owns.2
    simp only [List.filterMap_append, List.map_append, List.mem_append, List.mem_filterMap,
      List.mem_map, List.mem_singleton, exists_eq_left, not_or, ne_eq]
    constructor
    · rintro (⟨⟨⟨member, unnamed, unkept⟩ | ⟨other, otherMember, rest⟩, untargeted⟩, different⟩ | new)
      · exact Or.inl ⟨member, ⟨unnamed, untargeted⟩, unkept, fun same => different same.symm⟩
      · exact Or.inr ⟨other, Or.inl otherMember, rest⟩
      · exact Or.inr ⟨staged, Or.inr rfl, new⟩
    · rintro (⟨member, ⟨unnamed, untargeted⟩, unkept, different⟩ |
        ⟨other, otherMember | rfl, source, sourceMember, rfl⟩)
      · exact Or.inl ⟨⟨Or.inl ⟨member, unnamed, unkept⟩, untargeted⟩, fun same => different same.symm⟩
      · have same := sourceIdentity other source sourceMember
        refine Or.inl ⟨⟨Or.inr ⟨other, otherMember, source, sourceMember, rfl⟩, ?_⟩, ?_⟩
        · rw [same]
          exact fun named => (otherTarget _ named).2 (List.mem_map_of_mem otherMember)
        · rw [same]
          exact fun equal => newIdentity (List.mem_map.mpr ⟨other, otherMember, equal⟩)
      · exact Or.inr ⟨source, sourceMember, rfl⟩

/-- A row that is replaced names no target of its own. -/
theorem filterMap_keptRows {items : List StagedTransaction}
    (nodup : (items.map StagedTransaction.identity).Nodup)
    (checked : ∀ staged ∈ items, ∀ target, namedTarget staged = some target →
      ReplacementChecked ledger items staged target) :
    (keptRows (items.filterMap namedTarget) items).filterMap namedTarget =
      items.filterMap namedTarget := by
  have general : ∀ part, part <:+ items →
      (keptRows (items.filterMap namedTarget) part).filterMap namedTarget =
        part.filterMap namedTarget := by
    intro part
    induction part with
    | nil => exact fun _ => rfl
    | cons staged rest induction =>
        intro suffix
        have tail := induction ((List.suffix_cons staged rest).trans suffix)
        have member : staged ∈ items := suffix.subset (by simp)
        unfold keptRows at tail ⊢
        rw [List.filter_cons]
        split
        · rw [List.filterMap_cons, List.filterMap_cons, tail]
        · next replaced =>
          simp only [decide_eq_true_eq, not_not, List.mem_filterMap] at replaced
          rcases replaced with ⟨replacing, replacingMember, names⟩
          have isPending := (checked replacing replacingMember _ names).stagedTarget staged
            (Table.get_of_mem nodup member)
          have silent : namedTarget staged = none := by
            cases own : namedTarget staged with
            | none => rfl
            | some target =>
                have posted := (checked staged member target own).posted
                rw [isPending] at posted
                cases posted
          rw [tail, List.filterMap_cons_none silent]
  exact general items (List.suffix_refl items)

/-- One round of either loop, for the rows processed so far. -/
private theorem publish_round {older : LedgerTables} {items done : List StagedTransaction}
    (olderSound : LedgerSound older) (nodup : (items.map StagedTransaction.identity).Nodup)
    (checked : ∀ staged ∈ items, ∀ target, namedTarget staged = some target →
      ReplacementChecked ledger items staged target)
    (processed : done ++ [staged] <+: items) {current after : LedgerTables}
    (published : PublishedFrom now tables run older
      (keptRows (items.filterMap namedTarget) done) current)
    (stored : staged.identity ∉ items.filterMap namedTarget →
      storeStaged now tables run (clearTarget current staged) staged
        ((clearTarget current staged).transaction staged.identity) = .ok after)
    (skipped : staged.identity ∈ items.filterMap namedTarget → after = current) :
    PublishedFrom now tables run older
      (keptRows (items.filterMap namedTarget) (done ++ [staged])) after := by
  have member : staged ∈ items := processed.subset (by simp)
  have doneSubset : ∀ other ∈ done, other ∈ items :=
    fun other otherMember => processed.subset (List.mem_append_left _ otherMember)
  unfold keptRows at published ⊢
  rw [List.filter_append]
  by_cases replaced : staged.identity ∈ items.filterMap namedTarget
  · rw [skipped replaced, List.filter_cons, List.filter_nil,
      if_neg (by rwa [decide_eq_true_eq, not_not]), List.append_nil]
    exact published
  · rw [List.filter_cons, List.filter_nil, if_pos (decide_eq_true replaced)]
    refine published.step olderSound ?_ ?_ ?_ (stored replaced)
    · intro again
      rcases List.mem_map.mp again with ⟨other, otherMember, same⟩
      have distinct := nodup.sublist (processed.sublist.map StagedTransaction.identity)
      rw [List.map_append, List.nodup_append] at distinct
      exact distinct.2.2 other.identity
        (List.mem_map_of_mem (List.mem_of_mem_filter otherMember)) staged.identity (by simp) same
    · intro named
      rcases List.mem_filterMap.mp named with ⟨other, otherMember, names⟩
      exact replaced (List.mem_filterMap.mpr
        ⟨other, doneSubset other (List.mem_of_mem_filter otherMember), names⟩)
    · intro target names
      refine ⟨(checked staged member target names).other, fun again => ?_⟩
      rcases List.mem_map.mp again with ⟨other, otherMember, rfl⟩
      have notTarget := (List.mem_filter.mp otherMember).2
      rw [decide_eq_true_eq] at notTarget
      exact notTarget (List.mem_filterMap.mpr ⟨staged, member, names⟩)

/-- The tables a run publishes over. -/
def publicationBase (run : RefreshRun) (ledger : LedgerTables) : LedgerTables :=
  match run.mode with
  | .full => ⟨[], []⟩
  | .incremental => ledger

theorem mem_publicationBase_transactions {transaction : Transaction} :
    transaction ∈ (publicationBase run ledger).transactions ↔
      run.mode = .incremental ∧ transaction ∈ ledger.transactions := by
  unfold publicationBase
  split
  · next full => simp [full]
  · next incremental => simp [incremental]

theorem mem_publicationBase_links {link : TransactionCategory} :
    link ∈ (publicationBase run ledger).transactionCategories ↔
      run.mode = .incremental ∧ link ∈ ledger.transactionCategories := by
  unfold publicationBase
  split
  · next full => simp [full]
  · next incremental => simp [incremental]

theorem LedgerSound.publicationBase (sound : LedgerSound ledger) (run : RefreshRun) :
    LedgerSound (publicationBase run ledger) := by
  unfold RollingBudget.publicationBase
  split
  · exact LedgerSound.empty
  · exact sound

/-- The rows of a run that its commit stores. -/
def storedRows (tables : RefreshTables) (runId : Nat) : List StagedTransaction :=
  keptRows ((tables.stagedOf runId).filterMap namedTarget) (tables.stagedOf runId)

private theorem replaceAll_spec
    (nodup : ((tables.stagedOf run.id).map StagedTransaction.identity).Nodup)
    (checked : ∀ staged ∈ tables.stagedOf run.id, ∀ target, namedTarget staged = some target →
      ReplacementChecked ledger (tables.stagedOf run.id) staged target)
    (completed : replaceAllTransactions now tables run
      ((tables.stagedOf run.id).filterMap namedTarget) = .ok after) :
    PublishedFrom now tables run ⟨[], []⟩ (storedRows tables run.id) after := by
  refine Outcome.foldlM_induction
    (motive := fun done current => PublishedFrom now tables run ⟨[], []⟩
      (keptRows ((tables.stagedOf run.id).filterMap namedTarget) done) current)
    completed (PublishedFrom.start LedgerSound.empty) ?_
  intro done staged current next processed published stepped
  have onlyKept : ∀ transaction ∈ current.transactions, ∃ row ∈ done,
      row.identity ∉ (tables.stagedOf run.id).filterMap namedTarget ∧
        row.identity = transaction.identity := by
    intro transaction member
    rcases (published.transactions transaction).mp member with ⟨none, _⟩ | ⟨row, rowMember, rfl⟩
    · cases none
    · rcases List.mem_filter.mp rowMember with ⟨inDone, notTarget⟩
      exact ⟨row, inDone, of_decide_eq_true notTarget, rfl⟩
  refine publish_round LedgerSound.empty nodup checked processed published ?_ ?_
  · intro kept
    rw [if_neg kept] at stepped
    have uncleared : clearTarget current staged = current := by
      unfold clearTarget
      split
      · rfl
      · next target names =>
        refine published.sound.deleteLiveIdentity_of_absent fun transaction member same => ?_
        rcases onlyKept transaction member with ⟨row, _, notTarget, rowIdentity⟩
        rw [rowIdentity, same] at notTarget
        exact notTarget (List.mem_filterMap.mpr ⟨staged, processed.subset (by simp), names⟩)
    have missing : current.transaction staged.identity = none := by
      refine Table.get_eq_none_iff.mpr fun transaction member same => ?_
      rcases onlyKept transaction member with ⟨row, rowMember, _, rowIdentity⟩
      have distinct := nodup.sublist (processed.sublist.map StagedTransaction.identity)
      rw [List.map_append, List.nodup_append] at distinct
      exact distinct.2.2 row.identity (List.mem_map_of_mem rowMember) staged.identity (by simp)
        (rowIdentity.trans same)
    rw [uncleared, missing]
    exact stepped
  · intro replaced
    rw [if_pos replaced, Outcome.pure_eq_ok] at stepped
    exact stepped.symm

private theorem mergeIncremental_spec (sound : LedgerSound ledger)
    (nodup : ((tables.stagedOf run.id).map StagedTransaction.identity).Nodup)
    (checked : ∀ staged ∈ tables.stagedOf run.id, ∀ target, namedTarget staged = some target →
      ReplacementChecked ledger (tables.stagedOf run.id) staged target)
    (completed : mergeIncremental now tables run
      ((tables.stagedOf run.id).filterMap namedTarget) ledger = .ok after) :
    PublishedFrom now tables run ledger (storedRows tables run.id) after := by
  refine Outcome.foldlM_induction
    (motive := fun done current => PublishedFrom now tables run ledger
      (keptRows ((tables.stagedOf run.id).filterMap namedTarget) done) current)
    completed (PublishedFrom.start sound) ?_
  intro done staged current next processed published stepped
  refine publish_round sound nodup checked processed published ?_ ?_
  · intro kept
    rw [if_neg kept] at stepped
    unfold clearTarget namedTarget
    cases replaces : staged.pendingSourceId with
    | none =>
        rw [replaces] at stepped
        exact stepped
    | some pendingSourceId =>
        rw [replaces] at stepped
        exact stepped
  · intro replaced
    rw [if_pos replaced, Outcome.pure_eq_ok] at stepped
    exact stepped.symm

/-- Both kinds of run publish the rows they store over their base. -/
theorem publishedLedger_spec {database : Database} (sound : LedgerSound database.ledger)
    (nodup : ((database.refresh.stagedOf run.id).map StagedTransaction.identity).Nodup)
    (completed : publishedLedger now database run = .ok after) :
    PublishedFrom now database.refresh run (publicationBase run database.ledger)
        (storedRows database.refresh run.id) after ∧
      (storedRows database.refresh run.id).filterMap namedTarget =
        (database.refresh.stagedOf run.id).filterMap namedTarget := by
  rcases Outcome.bind_eq_ok.mp completed with ⟨targets, validated, published⟩
  rcases validatePendingReplacements_spec validated with ⟨rfl, checked⟩
  refine ⟨?_, filterMap_keptRows nodup checked⟩
  unfold publicationBase
  cases kind : run.mode with
  | full =>
      rw [kind] at published
      exact replaceAll_spec nodup checked published
  | incremental =>
      rw [kind] at published
      exact mergeIncremental_spec sound nodup checked published

/-! ## Pruning -/

/-- A link that every rule of its category still covers. -/
def Covered (config : ConfigTables) (run : RefreshRun) (ledger : LedgerTables)
    (link : TransactionCategory) : Prop :=
  ∀ row ∈ rulesForConfig config run.configVersionId, row.category.id = link.categoryId →
    ∀ transaction ∈ ledger.transactions, transaction.identity = link.identity →
      run.sourceToDate.ordinal ≤
        transaction.transactionDate.ordinal + (row.rule.lookbackDays - 1)

/-- A date that every rule of a category covers at the end of a run. -/
def InWindow (config : ConfigTables) (run : RefreshRun) (categoryId : Nat) (date : Date) : Prop :=
  ∀ row ∈ rulesForConfig config run.configVersionId, row.category.id = categoryId →
    run.sourceToDate.ordinal ≤ date.ordinal + (row.rule.lookbackDays - 1)

/-- The effect of `_prune_outside_windows`. -/
structure Pruned (config : ConfigTables) (run : RefreshRun) (ledger after : LedgerTables) :
    Prop where
  sound : LedgerSound after
  links : ∀ link, link ∈ after.transactionCategories ↔
    link ∈ ledger.transactionCategories ∧ Covered config run ledger link
  transactions : ∀ transaction, transaction ∈ after.transactions ↔
    transaction ∈ ledger.transactions ∧ ∃ link ∈ after.transactionCategories,
      link.identity = transaction.identity

private theorem pruneCategory_spec {current next : LedgerTables} {row : LinkedRule}
    (sound : LedgerSound current) (completed : pruneCategory run current row = .ok next) :
    next.transactions = current.transactions ∧
      ∀ link, link ∈ next.transactionCategories ↔ link ∈ current.transactionCategories ∧
        (row.category.id = link.categoryId → ∀ transaction ∈ current.transactions,
          transaction.identity = link.identity → run.sourceToDate.ordinal ≤
            transaction.transactionDate.ordinal + (row.rule.lookbackDays - 1)) := by
  rcases Outcome.bind_eq_ok.mp completed with ⟨cutoff, subtracted, finished⟩
  rw [Outcome.orRaise_eq_ok, Date.minusDays_eq_some_iff] at subtracted
  rw [Outcome.pure_eq_ok] at finished
  subst finished
  refine ⟨rfl, fun link => ?_⟩
  rw [List.mem_filter, decide_eq_true_eq]
  refine and_congr_right fun _ => ?_
  constructor
  · intro kept owner transaction member same
    have found : current.transaction link.identity = some transaction := by
      rw [← same]
      exact sound.find.mpr member
    have notBefore : ¬transaction.transactionDate < cutoff := by
      intro before
      refine kept ⟨owner.symm, ?_⟩
      rw [found]
      exact decide_eq_true before
    rw [Date.lt_iff] at notBefore
    omega
  · rintro covered ⟨owner, old⟩
    cases found : current.transaction link.identity with
    | none =>
        rw [found] at old
        cases old
    | some transaction =>
        rw [found] at old
        have before : transaction.transactionDate < cutoff := of_decide_eq_true old
        have bound := covered owner.symm transaction (Table.mem_of_get found)
          (Table.key_of_get found)
        rw [Date.lt_iff] at before
        omega

theorem pruneOutsideWindows_spec {config : ConfigTables} (sound : LedgerSound ledger)
    (completed : pruneOutsideWindows config run ledger = .ok after) :
    Pruned config run ledger after := by
  rcases Outcome.bind_eq_ok.mp completed with ⟨pruned, loop, finished⟩
  have looped := Outcome.foldlM_induction
    (motive := fun done current => current.transactions = ledger.transactions ∧
      ∀ link, link ∈ current.transactionCategories ↔ link ∈ ledger.transactionCategories ∧
        ∀ row ∈ done, row.category.id = link.categoryId →
          ∀ transaction ∈ ledger.transactions, transaction.identity = link.identity →
            run.sourceToDate.ordinal ≤
              transaction.transactionDate.ordinal + (row.rule.lookbackDays - 1))
    loop ⟨rfl, by simp⟩
    (by
      rintro done row current next _ ⟨sameRows, linksIff⟩ stepped
      have currentSound : LedgerSound current := by
        refine ⟨sameRows ▸ sound.identities, fun link member => ?_⟩
        rw [sameRows]
        exact sound.linked link ((linksIff link).mp member).1
      rcases pruneCategory_spec currentSound stepped with ⟨keptRows, keptLinks⟩
      refine ⟨keptRows.trans sameRows, fun link => ?_⟩
      rw [keptLinks, linksIff, sameRows, and_assoc]
      refine and_congr_right fun _ => ?_
      simp only [List.mem_append, List.mem_singleton, or_imp, forall_and, forall_eq])
  rcases looped with ⟨sameRows, linksIff⟩
  rw [Outcome.pure_eq_ok] at finished
  subst finished
  have kept : ∀ transaction, transaction ∈ pruned.transactions.filter (fun transaction =>
      transaction.identity ∈ pruned.transactionCategories.map TransactionCategory.identity) ↔
        transaction ∈ ledger.transactions ∧ ∃ link ∈ pruned.transactionCategories,
          link.identity = transaction.identity := by
    intro transaction
    rw [List.mem_filter, sameRows, decide_eq_true_eq, List.mem_map]
  refine ⟨⟨?_, ?_⟩, linksIff, kept⟩
  · refine List.Nodup.sublist (List.filter_sublist.map _) ?_
    rw [sameRows]
    exact sound.identities
  · intro link member
    rcases sound.linked link ((linksIff link).mp member).1 with ⟨transaction, rowMember, same⟩
    exact ⟨transaction, (kept transaction).mpr ⟨rowMember, link, member, same.symm⟩, same⟩

theorem covered_iff {config : ConfigTables} (sound : LedgerSound ledger)
    {link : TransactionCategory} {transaction : Transaction}
    (member : transaction ∈ ledger.transactions) (same : link.identity = transaction.identity) :
    Covered config run ledger link ↔
      InWindow config run link.categoryId transaction.transactionDate := by
  constructor
  · intro covered row rowMember owner
    exact covered row rowMember owner transaction member same.symm
  · intro inWindow row rowMember owner other otherMember otherSame
    rw [List.inj_on_of_nodup_map sound.identities otherMember member (otherSame.trans same)]
    exact inWindow row rowMember owner

/-- A row stays live for as long as the window of one of its categories covers it. -/
theorem Pruned.mem_transactions_iff {config : ConfigTables}
    (pruned : Pruned config run ledger after) (sound : LedgerSound ledger)
    {transaction : Transaction} :
    transaction ∈ after.transactions ↔ transaction ∈ ledger.transactions ∧
      ∃ link ∈ ledger.transactionCategories, link.identity = transaction.identity ∧
        InWindow config run link.categoryId transaction.transactionDate := by
  rw [pruned.transactions]
  refine and_congr_right fun member => ?_
  constructor
  · rintro ⟨link, linkMember, same⟩
    rcases (pruned.links link).mp linkMember with ⟨inLedger, covered⟩
    exact ⟨link, inLedger, same, (covered_iff sound member same).mp covered⟩
  · rintro ⟨link, linkMember, same, inWindow⟩
    exact ⟨link, (pruned.links link).mpr ⟨linkMember, (covered_iff sound member same).mpr inWindow⟩,
      same⟩

end RollingBudget
