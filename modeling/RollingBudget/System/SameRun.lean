import RollingBudget.Refresh.Order
import RollingBudget.System.Invariant
import RollingBudget.System.Rebuild

namespace RollingBudget

open Sorting ConfigService RefreshService ServiceError Outcome

/-! The commit of a run in two states that hold the same staged transactions. Neither the
order in which the database returns the staged rows nor the batches they came in have any
influence on it: both commits raise the same error, or leave the same live rows. -/

variable {environment : Environment} {left right database : Database} {run run' : RefreshRun}
  {clock clock' : Clock} {request request' : RefreshCommitRequest}

/-- Errors that differ at most in their text. -/
abbrev SameKind (error error' : ServiceError) : Prop := error'.unworded = error.unworded

private theorem sameKind_refl (error : ServiceError) : SameKind error error := rfl

private theorem require_agree {condition condition' : Prop} [Decidable condition]
    [Decidable condition'] {error error' : ServiceError} (same : condition' ↔ condition)
    (kind : SameKind error error') :
    Agree SameKind Eq (require condition error) (require condition' error') :=
  Agree.require same kind

/-! ## Two states -/

/-- Two states that hold one run over the same live data. -/
structure SameRun (left right : Database) (run run' : RefreshRun) : Prop where
  config : right.config = left.config
  syncState : right.syncState = left.syncState
  previous : ∀ syncState, left.syncState = some syncState →
    (right.refresh.run syncState.lastRefreshRunId).map RefreshRun.expectedAccounts =
      (left.refresh.run syncState.lastRefreshRunId).map RefreshRun.expectedAccounts
  ledger : SameLive left.ledger right.ledger
  found : left.refresh.run run.id = some run
  found' : right.refresh.run run'.id = some run'
  frozen : run'.frozen = run.frozen
  committed : run'.state = .committed ↔ run.state = .committed
  staged : SameStaged left.refresh right.refresh run.id

/-- Two commit requests that the checks on batch counts treat alike. -/
structure SameGates (left right : Database) (run run' : RefreshRun)
    (request request' : RefreshCommitRequest) : Prop where
  accounts : request'.completedAccounts = request.completedAccounts
  ready : (run'.state = .uploaded ∨ (run'.state = .created ∧ request'.expectedBatchCount = 0)) ↔
    (run.state = .uploaded ∨ (run.state = .created ∧ request.expectedBatchCount = 0))
  contiguous : (orderedBatches right.refresh run'.id).map RefreshBatch.batchIndex =
      List.range request'.expectedBatchCount ↔
    (orderedBatches left.refresh run.id).map RefreshBatch.batchIndex =
      List.range request.expectedBatchCount
  replayed : run.state = .committed →
    ((run'.expectedBatchCount = some request'.expectedBatchCount ∧
        sorted (run'.completedAccounts.getD []) = request'.completedAccounts) ↔
      (run.expectedBatchCount = some request.expectedBatchCount ∧
        sorted (run.completedAccounts.getD []) = request.completedAccounts))

/-- What the publication of a run relies on. -/
structure StagedSound (database : Database) (run : RefreshRun) : Prop where
  ledger : LedgerSound database.ledger
  identities : ((database.refresh.stagedOf run.id).map StagedTransaction.identity).Nodup
  linked : ∀ staged ∈ database.refresh.stagedOf run.id,
    database.refresh.stagedCategoriesOf run.id staged.identity ≠ []

theorem SystemInvariant.stagedSound (invariant : SystemInvariant environment database)
    (found : database.refresh.run run.id = some run) : StagedSound database run := by
  have sound := invariant.refresh.runs run (Table.mem_of_get found)
  rcases sound.bound with ⟨target, bound, whileOpen⟩
  have noRows : run.state = .committed → database.refresh.stagedOf run.id = [] :=
    fun committed => (sound.committed committed).staged
  refine ⟨invariant.ledger, ?_, ?_⟩
  · by_cases committed : run.state = .committed
    · rw [noRows committed]
      exact List.nodup_nil
    · exact (whileOpen committed).identities
  · intro staged member
    by_cases committed : run.state = .committed
    · rw [noRows committed] at member
      cases member
    · rcases ((whileOpen committed).staged staged member).categories with ⟨link, linkMember, same⟩
      rw [stagedCategoriesOf_eq]
      exact List.ne_nil_of_mem (List.mem_filter.mpr ⟨linkMember, decide_eq_true same⟩)

/-! ## The checks -/

private theorem commitTarget_congr {tables : ConfigTables} (frozen : run'.frozen = run.frozen) :
    commitTarget tables run' = commitTarget tables run := by
  unfold commitTarget
  rw [RefreshRun.configVersionId_of_frozen frozen, RefreshRun.mode_of_frozen frozen]

namespace SameRun

theorem checkRevision_eq (same : SameRun left right run run') :
    checkRevision right run' = checkRevision left run := by
  have previous : (left.syncState.bind fun syncState =>
        right.refresh.run syncState.lastRefreshRunId).map RefreshRun.expectedAccounts =
      (left.syncState.bind fun syncState =>
        left.refresh.run syncState.lastRefreshRunId).map RefreshRun.expectedAccounts := by
    cases sync : left.syncState with
    | none => rfl
    | some syncState => exact same.previous syncState sync
  have accounts : ∀ (before : Option RefreshRun) (expected : List Text),
      (before.any fun previous => decide (previous.expectedAccounts.toFinset = expected.toFinset)) =
        (before.map RefreshRun.expectedAccounts).any fun found =>
          decide (found.toFinset = expected.toFinset) := by
    intro before expected
    cases before <;> rfl
  unfold checkRevision
  simp only [accounts, previous, same.syncState, RefreshRun.syncRevisionBefore_of_frozen same.frozen,
    RefreshRun.mode_of_frozen same.frozen, RefreshRun.expectedAccounts_of_frozen same.frozen]

private theorem batches_agree (same : SameRun left right run run')
    (gates : SameGates left right run run' request request') :
    Agree SameKind (fun _ _ => True) (commitBatches left.refresh run request)
      (commitBatches right.refresh run' request') := by
  unfold commitBatches
  apply Agree.bind (require_agree gates.contiguous rfl)
  intro _ _ _
  rw [gates.accounts, RefreshRun.expectedAccounts_of_frozen same.frozen]
  apply Agree.bind_same sameKind_refl
  intro _
  exact Agree.gives trivial

theorem checks_agree (same : SameRun left right run run')
    (gates : SameGates left right run run' request request') :
    Agree SameKind (fun checked checked' => checked'.1 = checked.1)
      (commitChecks left run request) (commitChecks right run' request') := by
  have stateText : SameKind
      (conflictError .refreshRunNotCommittable
        ("Cannot commit a ".toList ++ run.state.value ++ " refresh run".toList))
      (conflictError .refreshRunNotCommittable
        ("Cannot commit a ".toList ++ run'.state.value ++ " refresh run".toList)) := rfl
  unfold commitChecks
  apply Agree.bind (require_agree gates.ready stateText)
  intro _ _ _
  rw [commitTarget_congr same.frozen, same.config]
  apply Agree.bind_same sameKind_refl
  intro config
  apply Agree.bind (same.batches_agree gates)
  intro batches batches' _
  rw [same.checkRevision_eq]
  apply Agree.bind_same sameKind_refl
  intro _
  exact Agree.gives rfl

/-! ## The publication -/

private theorem publishedLedger_ok (now : Datetime) {targets : List Identity}
    (linked : ∀ staged ∈ database.refresh.stagedOf run.id,
      database.refresh.stagedCategoriesOf run.id staged.identity ≠ [])
    (validated : validatePendingReplacements database.ledger
      (database.refresh.stagedOf run.id) = .ok targets) :
    ∃ after, publishedLedger now database run = .ok after := by
  have passes : Avoids (fun _ => True) (publishedLedger now database run) := by
    have stored : ∀ ledger, ∀ staged ∈ database.refresh.stagedOf run.id, ∀ existing,
        Avoids (fun _ => True) (storeStaged now database.refresh run ledger staged existing) := by
      intro ledger staged member existing
      unfold storeStaged
      dsimp only
      rw [require_of (linked staged member), ok_bind]
      exact avoids_pure _
    unfold publishedLedger
    rw [validated, ok_bind]
    split
    · apply avoids_foldlM_of_mem
      intro ledger staged member
      split
      · exact avoids_pure _
      · exact stored _ staged member _
    · apply avoids_foldlM_of_mem
      intro ledger staged member
      split
      · exact avoids_pure _
      · exact stored _ staged member _
  cases outcome : publishedLedger now database run with
  | error error => exact absurd trivial (passes error outcome)
  | ok after => exact ⟨after, rfl⟩

private theorem publishedLedger_error {now : Datetime} {error : ServiceError}
    (refused : validatePendingReplacements database.ledger
      (database.refresh.stagedOf run.id) = .error error) :
    publishedLedger now database run = .error error := by
  unfold publishedLedger
  rw [refused]
  rfl

theorem published_agree (same : SameRun left right run run')
    (sound : StagedSound left run) (sound' : StagedSound right run')
    (now now' : Datetime) :
    Agree SameKind Alike (publishedLedger now left run) (publishedLedger now' right run') := by
  have runId := RefreshRun.id_of_frozen same.frozen
  have items : SameItems (left.refresh.stagedOf run.id) (right.refresh.stagedOf run'.id) := by
    rw [runId]
    exact same.staged.items
  have accepted := accepted_iff items sound.identities same.ledger sound.ledger
  rcases validate_cases left.ledger (left.refresh.stagedOf run.id) with
    ⟨links, free, validated⟩ | ⟨refused, message, raised⟩
  · rcases validate_cases right.ledger (right.refresh.stagedOf run'.id) with
      ⟨_, _, validated'⟩ | ⟨refused, _, _⟩
    · rcases publishedLedger_ok now sound.linked validated with ⟨after, published⟩
      rcases publishedLedger_ok now' sound'.linked validated' with ⟨after', published'⟩
      rw [published, published']
      apply Agree.gives
      have base := same.ledger.publicationBase (RefreshRun.mode_of_frozen same.frozen)
      exact PublishedFrom.alike same.staged same.frozen base
        (sound.ledger.publicationBase run)
        (publishedLedger_spec sound.ledger sound.identities published).1
        (publishedLedger_spec sound'.ledger sound'.identities published').1
    · exact absurd (accepted.mpr ⟨links, free⟩) refused
  · rcases validate_cases right.ledger (right.refresh.stagedOf run'.id) with
      ⟨links, free, _⟩ | ⟨_, message', raised'⟩
    · exact absurd (accepted.mp ⟨links, free⟩) refused
    · rw [publishedLedger_error raised, publishedLedger_error raised']
      exact Agree.raises rfl

private theorem prune_agree {tables : ConfigTables} {ledger ledger' : LedgerTables}
    (alike : Alike ledger ledger') (sound : LedgerSound ledger) (sound' : LedgerSound ledger')
    (version : run'.configVersionId = run.configVersionId)
    (lastDay : run'.sourceToDate = run.sourceToDate) :
    Agree SameKind Alike (pruneOutsideWindows tables run ledger)
      (pruneOutsideWindows tables run' ledger') := by
  have sameFit : RunFits tables run' ↔ RunFits tables run := by
    unfold RunFits
    rw [version, lastDay]
  by_cases fits : RunFits tables run
  · rcases exists_prune_of_fits fits ledger with ⟨after, pruned⟩
    rcases exists_prune_of_fits (sameFit.mpr fits) ledger' with ⟨after', pruned'⟩
    rw [pruned, pruned']
    apply Agree.gives
    exact alike.pruned version lastDay (pruneOutsideWindows_spec sound pruned)
      (pruneOutsideWindows_spec sound' pruned')
  · rw [prune_error_of_not_fits fits, prune_error_of_not_fits fun other => fits (sameFit.mp other)]
    exact Agree.raises rfl

private theorem activate_agree (now now' : Datetime) (tables : ConfigTables)
    (config : ConfigVersion) :
    Agree SameKind (fun _ _ => True) (activate now tables config) (activate now' tables config) := by
  unfold activate
  split
  · apply Agree.bind_same sameKind_refl
    intro presented
    exact Agree.gives trivial
  · exact Agree.gives trivial

theorem publish_agree (same : SameRun left right run run')
    (sound : StagedSound left run) (sound' : StagedSound right run')
    (config : ConfigVersion) (batches batches' : List RefreshBatch) :
    Agree SameKind (fun result result' => Alike result.1.ledger result'.1.ledger)
      (publishRun environment clock left run config request batches)
      (publishRun environment clock' right run' config request' batches') := by
  have version := RefreshRun.configVersionId_of_frozen same.frozen
  have lastDay : run'.sourceToDate = run.sourceToDate :=
    (congrArg RefreshRun.sourceToDate same.frozen :)
  unfold publishRun
  have published : Agree SameKind (fun after after' => Alike after after' ∧ LedgerSound after ∧
        LedgerSound after')
      (publishedLedger clock.now left (validatedRun environment clock.now run request batches))
      (publishedLedger clock'.now right
        (validatedRun environment clock'.now run' request' batches')) := by
    have plain := same.published_agree sound sound' clock.now clock'.now
    have unvalidated : publishedLedger clock.now left
        (validatedRun environment clock.now run request batches) =
          publishedLedger clock.now left run := rfl
    have unvalidated' : publishedLedger clock'.now right
        (validatedRun environment clock'.now run' request' batches') =
          publishedLedger clock'.now right run' := rfl
    rw [unvalidated, unvalidated']
    generalize outcome : publishedLedger clock.now left run = outcome at plain ⊢
    generalize outcome' : publishedLedger clock'.now right run' = outcome' at plain ⊢
    cases plain with
    | raises kind => exact Agree.raises kind
    | gives alike =>
        exact Agree.gives ⟨alike,
          (publishedLedger_spec sound.ledger sound.identities outcome).1.sound,
          (publishedLedger_spec sound'.ledger sound'.identities outcome').1.sound⟩
  apply Agree.bind published
  rintro after after' ⟨alike, afterSound, afterSound'⟩
  rw [same.config]
  apply Agree.bind (prune_agree alike afterSound afterSound' version lastDay)
  intro pruned pruned' prunedAlike
  apply Agree.bind (activate_agree clock.now clock'.now left.config config)
  intro tables tables' _
  exact Agree.gives prunedAlike

/-- One commit in both states. -/
theorem commit_agree (same : SameRun left right run run')
    (sound : StagedSound left run) (sound' : StagedSound right run')
    (gates : SameGates left right run run' request request') :
    Agree SameKind (fun result result' => Alike result.1.ledger result'.1.ledger)
      (commitRefresh environment clock left run.id request)
      (commitRefresh environment clock' right run'.id request') := by
  have unchanged : Alike left.ledger right.ledger := by
    constructor
    · intro transaction member
      exact ⟨transaction, same.ledger.transactions.symm.subset member, fun _ => rfl⟩
    · intro transaction member
      exact ⟨transaction, same.ledger.transactions.subset member, fun _ => rfl⟩
    · exact fun link => same.ledger.links.mem_iff
  unfold commitRefresh
  rw [same.found, same.found', orRaise_some, orRaise_some, ok_bind, ok_bind]
  by_cases isCommitted : run.state = .committed
  · rw [if_pos isCommitted, if_pos (same.committed.mpr isCommitted)]
    apply Agree.bind (require_agree (gates.replayed isCommitted) rfl)
    intro _ _ _
    exact Agree.gives unchanged
  · have isOpen' : run'.state ≠ .committed := fun other => isCommitted (same.committed.mp other)
    rw [if_neg isCommitted, if_neg isOpen', commitOpenRun_eq, commitOpenRun_eq, bind_assoc,
      bind_assoc]
    apply Agree.bind (same.checks_agree gates)
    intro checked checked' sameConfig
    rw [sameConfig]
    apply Agree.bind (same.publish_agree sound sound' checked.1 checked.2 checked'.2)
    intro result result' alike
    exact Agree.gives alike

end SameRun

end RollingBudget
