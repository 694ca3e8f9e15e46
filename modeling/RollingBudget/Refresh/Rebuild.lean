import RollingBudget.Refresh.Invariant
import RollingBudget.Refresh.Publication

namespace RollingBudget

open Sorting ConfigService RefreshService ServiceError Outcome

/-! Which rows the commit of a full run reads. Its checks read the configuration, the
revision and the rows of the run, and what it stores depends on the clock only through the
timestamps. The live rows are read in one place: a replacement link may not name a live
row that is already posted. -/

variable {environment : Environment} {database : Database} {run : RefreshRun}
  {tables tables' : RefreshTables} {ledger : LedgerTables}

/-! ## Timestamps -/

def Transaction.stamped (moment : Datetime) (transaction : Transaction) : Transaction :=
  { transaction with firstSeenAt := moment, lastSeenAt := moment }

/-- The live tables with one moment for every timestamp. -/
def LedgerTables.stamped (moment : Datetime) (ledger : LedgerTables) : LedgerTables :=
  { ledger with transactions := ledger.transactions.map (Transaction.stamped moment) }

@[simp] theorem identity_stamped (moment : Datetime) (transaction : Transaction) :
    (transaction.stamped moment).identity = transaction.identity := rfl

theorem storeStaged_stamped (moment now : Datetime) (tables : RefreshTables) (run : RefreshRun)
    (ledger : LedgerTables) (staged : StagedTransaction) :
    (storeStaged now tables run ledger staged none).map (LedgerTables.stamped moment) =
      storeStaged moment tables run (ledger.stamped moment) staged none := by
  unfold storeStaged
  rw [relabel_bind]
  refine congrArg (_ >>= ·) (funext fun _ => ?_)
  simp [LedgerTables.stamped, Transaction.stamped, liveTransaction, pure, Except.pure, Except.map]

/-- One round of `_replace_all_transactions`. -/
def replaceRound (now : Datetime) (tables : RefreshTables) (run : RefreshRun)
    (targets : List Identity) (ledger : LedgerTables) (staged : StagedTransaction) :
    Except ServiceError LedgerTables :=
  if staged.identity ∈ targets then pure ledger
  else storeStaged now tables run ledger staged none

theorem replaceRound_stamped (moment now : Datetime) (tables : RefreshTables) (run : RefreshRun)
    (targets : List Identity) (ledger : LedgerTables) (staged : StagedTransaction) :
    (replaceRound now tables run targets ledger staged).map (LedgerTables.stamped moment) =
      replaceRound moment tables run targets (ledger.stamped moment) staged := by
  unfold replaceRound
  split
  · rfl
  · exact storeStaged_stamped moment now tables run ledger staged

theorem replaceAll_stamped (moment now : Datetime) (tables : RefreshTables) (run : RefreshRun)
    (targets : List Identity) :
    (replaceAllTransactions now tables run targets).map (LedgerTables.stamped moment) =
      replaceAllTransactions moment tables run targets :=
  relabel_foldlM (replaceRound_stamped moment now tables run targets) (tables.stagedOf run.id)
    ⟨[], []⟩

theorem prune_stamped (moment : Datetime) (config : ConfigTables) (run : RefreshRun)
    (ledger : LedgerTables) :
    (pruneOutsideWindows config run ledger).map (LedgerTables.stamped moment) =
      pruneOutsideWindows config run (ledger.stamped moment) := by
  have round : ∀ ledger row, (pruneCategory run ledger row).map (LedgerTables.stamped moment) =
      pruneCategory run (ledger.stamped moment) row := by
    intro ledger row
    have found : ∀ identity, (ledger.stamped moment).transaction identity =
        (ledger.transaction identity).map (Transaction.stamped moment) := by
      intro identity
      exact Table.get_map (identity_stamped moment) identity
    unfold pruneCategory
    rw [relabel_bind]
    refine congrArg (_ >>= ·) (funext fun cutoff => ?_)
    simp only [found, Option.any_map]
    rfl
  unfold pruneOutsideWindows
  rw [relabel_bind, ← relabel_foldlM round, bind_relabel]
  refine congrArg (_ >>= ·) (funext fun pruned => ?_)
  simp only [LedgerTables.stamped, pure, Except.pure, Except.map, List.filter_map]
  rfl

/-! ## The rows of the run -/

theorem stagedCategoriesOf_eq (tables : RefreshTables) (runId : Nat) (identity : Identity) :
    tables.stagedCategoriesOf runId identity =
      (tables.rowsOf runId).links.filter fun link => link.identity = identity := by
  unfold RefreshTables.stagedCategoriesOf RefreshTables.rowsOf
  rw [List.filter_filter]
  refine List.filter_congr fun link _ => ?_
  rw [Bool.and_comm, ← Bool.decide_and]

theorem replaceAll_congr (same : tables'.rowsOf run.id = tables.rowsOf run.id) (now : Datetime)
    (targets : List Identity) :
    replaceAllTransactions now tables' run targets = replaceAllTransactions now tables run targets := by
  have staged : tables'.stagedOf run.id = tables.stagedOf run.id := congrArg RunRows.staged same
  have round : replaceRound now tables' run targets = replaceRound now tables run targets := by
    funext ledger row
    unfold replaceRound storeStaged
    rw [stagedCategoriesOf_eq, stagedCategoriesOf_eq, same]
  show List.foldlM (replaceRound now tables' run targets) _ (tables'.stagedOf run.id) =
    List.foldlM (replaceRound now tables run targets) _ (tables.stagedOf run.id)
  rw [round, staged]

/-! ## Replacement links -/

/-- The replacement links of the staged rows are sound among themselves. -/
structure LinksSound (items : List StagedTransaction) : Prop where
  targets : (items.filterMap namedTarget).Nodup
  links : ∀ staged ∈ items, ∀ target, namedTarget staged = some target →
    ReplacementChecked ⟨[], []⟩ items staged target

/-- Some staged row names a live row that is already posted. -/
def NamesPosted (ledger : LedgerTables) (items : List StagedTransaction) : Prop :=
  ∃ staged ∈ items, ∃ target row, namedTarget staged = some target ∧
    ledger.transaction target = some row ∧ row.pending = false

instance (ledger : LedgerTables) (items : List StagedTransaction) :
    Decidable (NamesPosted ledger items) :=
  decidable_of_iff
    (∃ staged ∈ items, (namedTarget staged).any (fun target =>
      (ledger.transaction target).any fun row => !row.pending) = true)
    (by simp [NamesPosted, Option.any_eq_true])

theorem validate_eq_ok_iff {items : List StagedTransaction} :
    validatePendingReplacements ledger items = .ok (items.filterMap namedTarget) ↔
      LinksSound items ∧ ¬NamesPosted ledger items := by
  rw [validatePendingReplacements_eq_ok_iff]
  constructor
  · rintro ⟨_, nodup, checked⟩
    refine ⟨⟨nodup, fun staged member target names => ?_⟩, ?_⟩
    · rcases checked staged member target names with ⟨posted, other, stagedTarget, _⟩
      exact ⟨posted, other, stagedTarget, fun row found => by cases found⟩
    · rintro ⟨staged, member, target, row, names, found, isPosted⟩
      rw [(checked staged member target names).liveTarget row found] at isPosted
      cases isPosted
  · rintro ⟨⟨nodup, links⟩, unnamed⟩
    refine ⟨rfl, nodup, fun staged member target names => ?_⟩
    rcases links staged member target names with ⟨posted, other, stagedTarget, _⟩
    refine ⟨posted, other, stagedTarget, fun row found => ?_⟩
    rw [← Bool.not_eq_false]
    exact fun isPosted => unnamed ⟨staged, member, target, row, names, found, isPosted⟩

def ServiceError.IsReplacementConflict (error : ServiceError) : Prop :=
  ∃ message, error = conflictError .pendingReplacementConflict message

/-- Every refused link is refused alike. -/
theorem validate_raises {items : List StagedTransaction} :
    Avoids (fun error => ¬ServiceError.IsReplacementConflict error)
      (validatePendingReplacements ledger items) := by
  have conflict : ∀ message, ¬¬ServiceError.IsReplacementConflict
      (conflictError .pendingReplacementConflict message) := fun message other =>
    other ⟨message, rfl⟩
  refine avoids_foldlM (fun targets staged => ?_) _ _
  unfold addReplacement
  split
  · exact avoids_pure _
  · refine avoids_bind (avoids_require (conflict _)) fun _ _ => ?_
    refine avoids_bind (avoids_require (conflict _)) fun _ _ => ?_
    refine avoids_bind (avoids_require (conflict _)) fun _ _ => ?_
    exact avoids_bind (avoids_require (conflict _)) fun _ _ => avoids_pure _

/-- The links are accepted, or refused in the one way they can be. -/
theorem validate_cases (ledger : LedgerTables) (items : List StagedTransaction) :
    (LinksSound items ∧ ¬NamesPosted ledger items ∧
        validatePendingReplacements ledger items = .ok (items.filterMap namedTarget)) ∨
      (¬(LinksSound items ∧ ¬NamesPosted ledger items) ∧ ∃ message,
        validatePendingReplacements ledger items =
          .error (conflictError .pendingReplacementConflict message)) := by
  by_cases accepted : LinksSound items ∧ ¬NamesPosted ledger items
  · exact Or.inl ⟨accepted.1, accepted.2, validate_eq_ok_iff.mpr accepted⟩
  · refine Or.inr ⟨accepted, ?_⟩
    cases validated : validatePendingReplacements ledger items with
    | error error =>
        rcases not_not.mp (validate_raises error validated) with ⟨message, rfl⟩
        exact ⟨message, rfl⟩
    | ok targets =>
        have named := (validatePendingReplacements_eq_ok_iff.mp validated).1
        rw [named] at validated
        exact absurd (validate_eq_ok_iff.mp validated) accepted

/-! ## The rest of the commit -/

/-- What a full run publishes, once its checks and its links have passed. -/
def rebuilt (now : Datetime) (config : ConfigTables) (tables : RefreshTables) (run : RefreshRun)
    (target : ConfigVersion) : Except ServiceError LedgerTables := do
  let published ← replaceAllTransactions now tables run ((tables.stagedOf run.id).filterMap namedTarget)
  let ledger ← pruneOutsideWindows config run published
  let _ ← activate now config target
  pure ledger

theorem activate_discarded (now moment : Datetime) (config : ConfigTables) (target : ConfigVersion)
    (ledger : LedgerTables) :
    (activate now config target >>= fun _ => pure ledger) =
      (activate moment config target >>= fun _ => pure ledger) := by
  unfold activate
  split
  · cases applyConfigPresentation config target <;> rfl
  · rfl

theorem rebuilt_stamped (moment now : Datetime) (config : ConfigTables) (tables : RefreshTables)
    (run : RefreshRun) (target : ConfigVersion) :
    (rebuilt now config tables run target).map (LedgerTables.stamped moment) =
      rebuilt moment config tables run target := by
  unfold rebuilt
  rw [← replaceAll_stamped moment now, relabel_bind, bind_relabel]
  congr 1
  funext published
  rw [← prune_stamped, relabel_bind, bind_relabel]
  congr 1
  funext ledger
  have discarded := activate_discarded now moment config target ledger
  cases activated : activate now config target <;> cases restamped : activate moment config target
  all_goals
    rw [activated, restamped] at discarded
    exact congrArg (Except.map (LedgerTables.stamped moment)) discarded

theorem rebuilt_congr (same : tables'.rowsOf run.id = tables.rowsOf run.id) (now : Datetime)
    (config : ConfigTables) (target : ConfigVersion) :
    rebuilt now config tables' run target = rebuilt now config tables run target := by
  have staged : tables'.stagedOf run.id = tables.stagedOf run.id := congrArg RunRows.staged same
  unfold rebuilt
  rw [replaceAll_congr same, staged]

/-- No later step refuses with the code of the links. -/
theorem avoids_rebuilt (now : Datetime) (config : ConfigTables) (tables : RefreshTables)
    (run : RefreshRun) (target : ConfigVersion) :
    Avoids ServiceError.IsReplacementConflict (rebuilt now config tables run target) := by
  have other : ∀ {error : ServiceError}, error.code ≠ some .pendingReplacementConflict →
      ¬error.IsReplacementConflict := by
    rintro error different ⟨message, rfl⟩
    exact different rfl
  refine avoids_bind (avoids_foldlM (fun ledger staged => ?_) _ _) fun published _ => ?_
  · split
    · exact avoids_pure _
    · exact avoids_bind (avoids_require (other (by simp [conflictError, code]))) fun _ _ =>
        avoids_pure _
  refine avoids_bind ?_ fun ledger _ => avoids_bind ?_ fun _ _ => avoids_pure _
  · refine avoids_bind (avoids_foldlM (fun ledger row => ?_) _ _) fun _ _ => avoids_pure _
    exact avoids_bind (avoids_orRaise (other (by simp [code])) _) fun _ _ => avoids_pure _
  · unfold activate
    split
    · refine avoids_bind (avoids_bind ?_ fun snapshot _ => ?_) fun _ _ => avoids_pure _
      · unfold editableSnapshotForConfig activeSnapshot
        split <;> exact avoids_orRaise (other (by simp [code])) _
      · refine avoids_foldlM (fun _ _ => avoids_bind (avoids_orRaise ?_ _) fun _ _ => avoids_pure _) _ _
        exact other (by simp [domainError, code])
    · exact avoids_pure _

end RollingBudget
