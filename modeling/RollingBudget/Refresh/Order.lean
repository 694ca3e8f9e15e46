import RollingBudget.Refresh.Errors
import RollingBudget.Refresh.Growth
import RollingBudget.Refresh.Rebuild

namespace RollingBudget

open Sorting ConfigService RefreshService ServiceError Outcome

/-! Publishing does not depend on the order of the staged rows or on the batches that
brought them: what the two loops leave is a set described row by row, and what the links
are checked for is a property of the set of staged rows. -/

/-! ## The same rows -/

/-- A staged row without the number of its batch. -/
def StagedTransaction.content (staged : StagedTransaction) : StagedTransaction :=
  { staged with batchIndex := 0 }

theorem identity_of_content {staged other : StagedTransaction}
    (equal : other.content = staged.content) : other.identity = staged.identity :=
  (congrArg StagedTransaction.identity equal :)

theorem pending_of_content {staged other : StagedTransaction}
    (equal : other.content = staged.content) : other.pending = staged.pending :=
  (congrArg StagedTransaction.pending equal :)

theorem namedTarget_of_content {staged other : StagedTransaction}
    (equal : other.content = staged.content) : namedTarget other = namedTarget staged :=
  (congrArg namedTarget equal :)

/-- Two lists of staged rows that differ in order and in batch numbers. -/
def SameItems (items items' : List StagedTransaction) : Prop :=
  (items'.map StagedTransaction.content).Perm (items.map StagedTransaction.content)

/-- The same live rows in any order. -/
structure SameLive (ledger ledger' : LedgerTables) : Prop where
  transactions : ledger'.transactions.Perm ledger.transactions
  links : ledger'.transactionCategories.Perm ledger.transactionCategories

/-- The same live rows apart from their timestamps. -/
structure Alike (ledger ledger' : LedgerTables) : Prop where
  transactions : ∀ transaction ∈ ledger.transactions, ∃ other ∈ ledger'.transactions,
    ∀ moment, other.stamped moment = transaction.stamped moment
  transactions' : ∀ transaction ∈ ledger'.transactions, ∃ other ∈ ledger.transactions,
    ∀ moment, other.stamped moment = transaction.stamped moment
  links : ∀ link, link ∈ ledger'.transactionCategories ↔ link ∈ ledger.transactionCategories

variable {items items' : List StagedTransaction} {ledger ledger' after after' : LedgerTables}
  {tables tables' : RefreshTables} {run run' : RefreshRun} {now now' : Datetime}
  {config : ConfigTables}

namespace SameItems

theorem symm (same : SameItems items items') : SameItems items' items := List.Perm.symm same

theorem exists_mem (same : SameItems items items') {staged : StagedTransaction}
    (member : staged ∈ items) : ∃ other ∈ items', other.content = staged.content := by
  have inContents : staged.content ∈ items'.map StagedTransaction.content :=
    same.symm.subset (List.mem_map_of_mem member)
  exact List.mem_map.mp inContents

theorem identities (same : SameItems items items') :
    (items'.map StagedTransaction.identity).Perm (items.map StagedTransaction.identity) := by
  have mapped := List.Perm.map StagedTransaction.identity same
  rw [List.map_map, List.map_map] at mapped
  exact mapped

theorem targets (same : SameItems items items') :
    (items'.filterMap namedTarget).Perm (items.filterMap namedTarget) := by
  have mapped := List.Perm.filterMap namedTarget same
  rw [List.filterMap_map, List.filterMap_map] at mapped
  exact mapped

/-- Both lists hold the same row under an identity. -/
theorem get_eq (same : SameItems items items')
    (nodup : (items.map StagedTransaction.identity).Nodup) {target : Identity}
    {row : StagedTransaction}
    (found : Table.get StagedTransaction.identity items' target = some row) :
    ∃ other, Table.get StagedTransaction.identity items target = some other ∧
      other.content = row.content := by
  rcases same.symm.exists_mem (Table.mem_of_get found) with ⟨other, member, equal⟩
  have identity : other.identity = target := by
    rw [← Table.key_of_get found]
    exact identity_of_content equal
  rw [← identity]
  exact ⟨other, Table.get_of_mem nodup member, equal⟩

end SameItems

namespace SameLive

theorem symm (same : SameLive ledger ledger') : SameLive ledger' ledger :=
  ⟨same.transactions.symm, same.links.symm⟩

theorem sound (same : SameLive ledger ledger') (ledgerSound : LedgerSound ledger) :
    LedgerSound ledger' where
  identities := (same.transactions.map Transaction.identity).nodup_iff.mpr ledgerSound.identities
  linked := by
    intro link member
    rcases ledgerSound.linked link (same.links.subset member) with ⟨transaction, inside, equal⟩
    exact ⟨transaction, same.transactions.symm.subset inside, equal⟩

theorem transaction_eq (same : SameLive ledger ledger') (ledgerSound : LedgerSound ledger)
    (identity : Identity) : ledger'.transaction identity = ledger.transaction identity := by
  apply Option.ext
  intro transaction
  rw [LedgerTables.transaction, LedgerTables.transaction,
    Table.get_eq_some_iff (same.sound ledgerSound).identities,
    Table.get_eq_some_iff ledgerSound.identities, same.transactions.mem_iff]

theorem publicationBase (same : SameLive ledger ledger') (mode : run'.mode = run.mode) :
    SameLive (publicationBase run ledger) (publicationBase run' ledger') := by
  unfold RollingBudget.publicationBase
  rw [mode]
  split
  · exact ⟨List.Perm.refl _, List.Perm.refl _⟩
  · exact same

end SameLive

/-! ## Replacement links -/

theorem LinksSound.of_same (links : LinksSound items) (same : SameItems items items')
    (nodup : (items.map StagedTransaction.identity).Nodup) : LinksSound items' where
  targets := same.targets.nodup_iff.mpr links.targets
  links := by
    intro staged member target names
    rcases same.symm.exists_mem member with ⟨other, otherMember, equal⟩
    have otherNames := (namedTarget_of_content equal).trans names
    have checked := links.links other otherMember target otherNames
    have identity : other.identity = staged.identity := identity_of_content equal
    constructor
    · exact (pending_of_content equal).symm.trans checked.posted
    · rw [← identity]
      exact checked.other
    · intro row found
      rcases same.get_eq nodup found with ⟨before, beforeFound, sameRow⟩
      exact (pending_of_content sameRow).symm.trans
        (checked.stagedTarget before beforeFound)
    · intro row found
      cases found

theorem NamesPosted.of_same (names : NamesPosted ledger items) (same : SameItems items items')
    (live : SameLive ledger ledger') (sound : LedgerSound ledger) :
    NamesPosted ledger' items' := by
  rcases names with ⟨staged, member, target, row, named, found, posted⟩
  rcases same.exists_mem member with ⟨other, otherMember, equal⟩
  refine ⟨other, otherMember, target, row, ?_, ?_, posted⟩
  · exact (namedTarget_of_content equal).trans named
  · rw [live.transaction_eq sound]
    exact found

/-- The links of both lists are accepted or both are refused. -/
theorem accepted_iff (same : SameItems items items')
    (nodup : (items.map StagedTransaction.identity).Nodup) (live : SameLive ledger ledger')
    (sound : LedgerSound ledger) :
    (LinksSound items' ∧ ¬NamesPosted ledger' items') ↔
      (LinksSound items ∧ ¬NamesPosted ledger items) := by
  have nodup' := same.identities.nodup_iff.mpr nodup
  have sound' := live.sound sound
  constructor
  · intro accepted
    refine ⟨accepted.1.of_same same.symm nodup', fun names => ?_⟩
    exact accepted.2 (names.of_same same live sound)
  · intro accepted
    refine ⟨accepted.1.of_same same nodup, fun names => ?_⟩
    exact accepted.2 (names.of_same same.symm live.symm sound')

/-! ## The rows that are stored -/

theorem mem_keptRows {targets : List Identity} {staged : StagedTransaction} :
    staged ∈ keptRows targets items ↔ staged ∈ items ∧ staged.identity ∉ targets := by
  unfold keptRows
  rw [List.mem_filter, decide_eq_true_eq]

theorem SameItems.exists_kept (same : SameItems items items') {staged : StagedTransaction}
    (member : staged ∈ keptRows (items.filterMap namedTarget) items) :
    ∃ other ∈ keptRows (items'.filterMap namedTarget) items', other.content = staged.content := by
  rw [mem_keptRows] at member
  rcases same.exists_mem member.1 with ⟨other, otherMember, equal⟩
  refine ⟨other, mem_keptRows.mpr ⟨otherMember, ?_⟩, equal⟩
  have identity : other.identity = staged.identity := identity_of_content equal
  rw [identity, same.targets.mem_iff]
  exact member.2

/-- The staged rows and links of one run in two states. -/
structure SameStaged (tables tables' : RefreshTables) (runId : Nat) : Prop where
  items : SameItems (tables.stagedOf runId) (tables'.stagedOf runId)
  links : (tables'.rowsOf runId).links.Perm (tables.rowsOf runId).links

namespace SameStaged

variable {runId : Nat}

theorem symm (same : SameStaged tables tables' runId) : SameStaged tables' tables runId :=
  ⟨same.items.symm, same.links.symm⟩

theorem mem_categories (same : SameStaged tables tables' runId) {identity : Identity}
    {link : StagedTransactionCategory} :
    link ∈ tables'.stagedCategoriesOf runId identity ↔
      link ∈ tables.stagedCategoriesOf runId identity := by
  rw [stagedCategoriesOf_eq, stagedCategoriesOf_eq, List.mem_filter, List.mem_filter,
    same.links.mem_iff]

theorem exists_stored (same : SameStaged tables tables' runId) {staged : StagedTransaction}
    (member : staged ∈ storedRows tables runId) :
    ∃ other ∈ storedRows tables' runId, other.content = staged.content :=
  same.items.exists_kept member

theorem storedIdentities (same : SameStaged tables tables' runId) {identity : Identity} :
    identity ∈ (storedRows tables' runId).map StagedTransaction.identity ↔
      identity ∈ (storedRows tables runId).map StagedTransaction.identity := by
  have oneWay : ∀ {tables tables' : RefreshTables}, SameStaged tables tables' runId →
      identity ∈ (storedRows tables runId).map StagedTransaction.identity →
        identity ∈ (storedRows tables' runId).map StagedTransaction.identity := by
    intro tables tables' same member
    rcases List.mem_map.mp member with ⟨staged, stored, rfl⟩
    rcases same.exists_stored stored with ⟨other, otherStored, equal⟩
    exact List.mem_map.mpr ⟨other, otherStored, identity_of_content equal⟩
  exact ⟨oneWay same.symm, oneWay same⟩

theorem storedTargets (same : SameStaged tables tables' runId) {identity : Identity} :
    identity ∈ (storedRows tables' runId).filterMap namedTarget ↔
      identity ∈ (storedRows tables runId).filterMap namedTarget := by
  have oneWay : ∀ {tables tables' : RefreshTables}, SameStaged tables tables' runId →
      identity ∈ (storedRows tables runId).filterMap namedTarget →
        identity ∈ (storedRows tables' runId).filterMap namedTarget := by
    intro tables tables' same member
    rcases List.mem_filterMap.mp member with ⟨staged, stored, named⟩
    rcases same.exists_stored stored with ⟨other, otherStored, equal⟩
    exact List.mem_filterMap.mpr ⟨other, otherStored, (namedTarget_of_content equal).trans named⟩
  exact ⟨oneWay same.symm, oneWay same⟩

end SameStaged

/-! ## What is left -/

private theorem liveTransaction_stamped (same : run'.frozen = run.frozen)
    {staged other : StagedTransaction} (equal : other.content = staged.content)
    (existing : Option Transaction) (moment : Datetime) :
    (liveTransaction now' run' other existing).stamped moment =
      (liveTransaction now run staged existing).stamped moment := by
  have runId := RefreshRun.id_of_frozen same
  have version := RefreshRun.configVersionId_of_frozen same
  have content : liveTransaction now' run' other.content existing =
      liveTransaction now' run' staged.content existing := by rw [equal]
  have unnumbered : liveTransaction now' run' other existing =
      liveTransaction now' run' staged existing := content
  rw [unnumbered]
  unfold liveTransaction Transaction.stamped
  simp only [runId, version]

/-- What one of the two ledgers holds the other holds as well. -/
private theorem published_transactions (same : SameStaged tables tables' run.id)
    (frozen : run'.frozen = run.frozen) (live : SameLive ledger ledger')
    (sound : LedgerSound ledger)
    (published : PublishedFrom now tables run ledger (storedRows tables run.id) after)
    (published' : PublishedFrom now' tables' run' ledger' (storedRows tables' run.id) after') :
    ∀ transaction ∈ after.transactions, ∃ other ∈ after'.transactions,
      ∀ moment, other.stamped moment = transaction.stamped moment := by
  intro transaction member
  rcases (published.transactions transaction).mp member with ⟨old, untargeted, unkept⟩ |
    ⟨staged, stored, rfl⟩
  · refine ⟨transaction, (published'.transactions transaction).mpr (Or.inl ⟨?_, ?_, ?_⟩),
      fun _ => rfl⟩
    · exact live.transactions.symm.subset old
    · rw [same.storedTargets]
      exact untargeted
    · rw [same.storedIdentities]
      exact unkept
  · rcases same.exists_stored stored with ⟨other, otherStored, equal⟩
    have identity : other.identity = staged.identity := identity_of_content equal
    refine ⟨_, (published'.transactions _).mpr (Or.inr ⟨other, otherStored, rfl⟩), ?_⟩
    intro moment
    rw [identity, live.transaction_eq sound]
    exact liveTransaction_stamped frozen equal _ moment

private theorem published_links (same : SameStaged tables tables' run.id)
    (frozen : run'.frozen = run.frozen) (live : SameLive ledger ledger')
    (published : PublishedFrom now tables run ledger (storedRows tables run.id) after)
    (published' : PublishedFrom now' tables' run' ledger' (storedRows tables' run.id) after') :
    ∀ link ∈ after.transactionCategories, link ∈ after'.transactionCategories := by
  have runId := RefreshRun.id_of_frozen frozen
  intro link member
  rcases (published.links link).mp member with ⟨old, untargeted, unkept⟩ |
    ⟨staged, stored, source, sourceMember, rfl⟩
  · refine (published'.links link).mpr (Or.inl ⟨live.links.symm.subset old, ?_, ?_⟩)
    · rw [same.storedTargets]
      exact untargeted
    · rw [same.storedIdentities]
      exact unkept
  · rcases same.exists_stored stored with ⟨other, otherStored, equal⟩
    have identity : other.identity = staged.identity := identity_of_content equal
    refine (published'.links _).mpr (Or.inr ⟨other, otherStored, source, ?_, ?_⟩)
    · rw [runId, identity]
      exact same.mem_categories.mpr sourceMember
    · unfold liveCategory
      rw [RefreshRun.configVersionId_of_frozen frozen]

theorem PublishedFrom.alike (same : SameStaged tables tables' run.id)
    (frozen : run'.frozen = run.frozen) (live : SameLive ledger ledger')
    (sound : LedgerSound ledger)
    (published : PublishedFrom now tables run ledger (storedRows tables run.id) after)
    (published' : PublishedFrom now' tables' run' ledger' (storedRows tables' run'.id) after') :
    Alike after after' := by
  have runId := RefreshRun.id_of_frozen frozen
  rw [runId] at published'
  have backwards : SameStaged tables' tables run'.id := runId ▸ same.symm
  have publishedBack : PublishedFrom now' tables' run' ledger' (storedRows tables' run'.id) after' :=
    runId ▸ published'
  have publishedHere : PublishedFrom now tables run ledger (storedRows tables run'.id) after :=
    runId ▸ published
  constructor
  · exact published_transactions same frozen live sound published published'
  · exact published_transactions backwards frozen.symm live.symm (live.sound sound) publishedBack
      publishedHere
  · intro link
    constructor
    · exact published_links backwards frozen.symm live.symm publishedBack publishedHere link
    · exact published_links same frozen live published published' link

/-! ## Pruning -/

theorem identity_of_stamped {transaction other : Transaction}
    (equal : ∀ moment, other.stamped moment = transaction.stamped moment) :
    other.identity = transaction.identity :=
  (congrArg Transaction.identity (equal other.firstSeenAt) :)

theorem date_of_stamped {transaction other : Transaction}
    (equal : ∀ moment, other.stamped moment = transaction.stamped moment) :
    other.transactionDate = transaction.transactionDate :=
  (congrArg Transaction.transactionDate (equal other.firstSeenAt) :)

namespace Alike

theorem symm (alike : Alike ledger ledger') : Alike ledger' ledger :=
  ⟨alike.transactions', alike.transactions, fun link => (alike.links link).symm⟩

theorem covered (alike : Alike ledger ledger') (version : run'.configVersionId = run.configVersionId)
    (lastDay : run'.sourceToDate = run.sourceToDate) {link : TransactionCategory}
    (covered : Covered config run ledger link) : Covered config run' ledger' link := by
  intro row rowMember owner transaction member identity
  rcases alike.transactions' transaction member with ⟨other, otherMember, equal⟩
  rw [version] at rowMember
  rw [lastDay, ← date_of_stamped equal]
  exact covered row rowMember owner other otherMember ((identity_of_stamped equal).trans identity)

private theorem pruned_links (alike : Alike ledger ledger')
    (version : run'.configVersionId = run.configVersionId)
    (lastDay : run'.sourceToDate = run.sourceToDate) (pruned : Pruned config run ledger after)
    (pruned' : Pruned config run' ledger' after') :
    ∀ link ∈ after.transactionCategories, link ∈ after'.transactionCategories := by
  intro link member
  rcases (pruned.links link).mp member with ⟨inLedger, covers⟩
  exact (pruned'.links link).mpr ⟨(alike.links link).mpr inLedger,
    alike.covered version lastDay covers⟩

private theorem pruned_transactions (alike : Alike ledger ledger')
    (version : run'.configVersionId = run.configVersionId)
    (lastDay : run'.sourceToDate = run.sourceToDate) (pruned : Pruned config run ledger after)
    (pruned' : Pruned config run' ledger' after') :
    ∀ transaction ∈ after.transactions, ∃ other ∈ after'.transactions,
      ∀ moment, other.stamped moment = transaction.stamped moment := by
  intro transaction member
  rcases (pruned.transactions transaction).mp member with ⟨inLedger, link, linkMember, identity⟩
  rcases alike.transactions transaction inLedger with ⟨other, otherMember, equal⟩
  refine ⟨other, (pruned'.transactions other).mpr ⟨otherMember, link, ?_, ?_⟩, equal⟩
  · exact alike.pruned_links version lastDay pruned pruned' link linkMember
  · exact identity.trans (identity_of_stamped equal).symm

theorem pruned (alike : Alike ledger ledger')
    (version : run'.configVersionId = run.configVersionId)
    (lastDay : run'.sourceToDate = run.sourceToDate) (pruned : Pruned config run ledger after)
    (pruned' : Pruned config run' ledger' after') : Alike after after' where
  transactions := alike.pruned_transactions version lastDay pruned pruned'
  transactions' := alike.symm.pruned_transactions version.symm lastDay.symm pruned' pruned
  links := fun link => ⟨alike.symm.pruned_links version.symm lastDay.symm pruned' pruned link,
    alike.pruned_links version lastDay pruned pruned' link⟩

end Alike

end RollingBudget
