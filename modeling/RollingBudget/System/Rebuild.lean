import RollingBudget.Refresh.Rebuild
import RollingBudget.Services.Calls

namespace RollingBudget

open Sorting ConfigService RefreshService ServiceError Outcome

/-! A full rebuild replaces all live rows. Two states that differ only in these and in the
runs that left them commit it alike, except that its replacement links are checked against
the rows it is about to delete. -/

variable {environment : Environment}

/-! ## What a commit is observed to do -/

/-- An error without its text. -/
def ServiceError.unworded : ServiceError → ServiceError
  | .domain error => .domain { error with message := [] }
  | error => error

/-- Live rows with one moment for every timestamp, or the code of an error. -/
def observed (moment : Datetime) (outcome : Except ServiceError LedgerTables) :
    Except ServiceError LedgerTables :=
  (outcome.map (LedgerTables.stamped moment)).mapError ServiceError.unworded

/-- The live rows that a call leaves. -/
def resultingLedger (outcome : Except ServiceError (Database × Response)) :
    Except ServiceError LedgerTables :=
  outcome.map fun result => result.1.ledger

/-- What the commit of a run reads, apart from the live rows. -/
structure SameBasis (left right : Database) (run : RefreshRun) : Prop where
  config : right.config = left.config
  revision : right.syncState.map SyncState.revision = left.syncState.map SyncState.revision
  leftRun : left.refresh.run run.id = some run
  rightRun : right.refresh.run run.id = some run
  rows : right.refresh.rowsOf run.id = left.refresh.rowsOf run.id

/-- The run passes every check that reads no live rows. -/
def Publishable (database : Database) (run : RefreshRun) (raw : RefreshCommitRequest) : Prop :=
  ∃ request config, raw.validate = some request ∧ Committable database run config request ∧
    LinksSound (database.refresh.stagedOf run.id)

/-! ## One commit -/

section Commit

variable {database left right : Database} {run : RefreshRun} {clock : Clock}

/-- The rows that the commit of an open full run leaves. -/
theorem commit_ledger (full : run.mode = .full) (isOpen : run.state ≠ .committed)
    (runFound : database.refresh.run run.id = some run) (raw : RefreshCommitRequest) :
    resultingLedger (Event.outcome environment database ⟨.commitRefresh run.id raw, clock⟩) = (do
      let request ← orRaise validationError raw.validate
      let checked ← commitChecks database run request
      let _ ← validatePendingReplacements database.ledger (database.refresh.stagedOf run.id)
      rebuilt clock.now database.config database.refresh run checked.1) := by
  unfold resultingLedger Event.outcome commitRefresh
  dsimp only
  rw [relabel_bind, runFound, orRaise_some]
  congr 1
  funext request
  rw [ok_bind, if_neg isOpen, commitOpenRun_eq]
  cases commitChecks database run request with
  | error error => rfl
  | ok checked =>
      rw [ok_bind, ok_bind]
      have sameMode : (validatedRun environment clock.now run request checked.2).mode = .full := full
      have sameStore : ∀ targets, replaceAllTransactions clock.now database.refresh
          (validatedRun environment clock.now run request checked.2) targets =
            replaceAllTransactions clock.now database.refresh run targets := fun _ => rfl
      have samePrune : ∀ ledger, pruneOutsideWindows database.config
          (validatedRun environment clock.now run request checked.2) ledger =
            pruneOutsideWindows database.config run ledger := fun _ => rfl
      unfold publishRun publishedLedger rebuilt
      simp only [sameMode, sameStore, samePrune]
      cases validated : validatePendingReplacements database.ledger
          (database.refresh.stagedOf run.id) with
      | error error =>
          have same : validatePendingReplacements database.ledger (database.refresh.stagedOf
            (validatedRun environment clock.now run request checked.2).id) = .error error := validated
          rw [same]
          rfl
      | ok targets =>
          have same : validatePendingReplacements database.ledger (database.refresh.stagedOf
            (validatedRun environment clock.now run request checked.2).id) = .ok targets := validated
          rw [same, (validatePendingReplacements_spec validated).1, ok_bind, ok_bind]
          cases replaceAllTransactions clock.now database.refresh run
              ((database.refresh.stagedOf run.id).filterMap namedTarget) with
          | error error => rfl
          | ok published =>
              rw [ok_bind, ok_bind]
              cases pruneOutsideWindows database.config run published with
              | error error => rfl
              | ok ledger =>
                  rw [ok_bind, ok_bind]
                  cases activate clock.now database.config checked.1 <;> rfl

theorem SameBasis.commitChecks_eq (basis : SameBasis left right run) (full : run.mode = .full)
    (request : RefreshCommitRequest) :
    commitChecks right run request = commitChecks left run request := by
  have batches : commitBatches right.refresh run request = commitBatches left.refresh run request := by
    have same : right.refresh.batchesOf run.id = left.refresh.batchesOf run.id :=
      congrArg RunRows.batches basis.rows
    unfold commitBatches
    rw [same]
  have revision : checkRevision right run = checkRevision left run := by
    have vacuous : ∀ other : Prop, (run.mode = .incremental → other) ↔ True := by
      intro other
      rw [full]
      simp
    unfold checkRevision
    simp only [basis.revision, vacuous]
  unfold commitChecks
  rw [basis.config, batches, revision]

theorem observed_ne_conflict {outcome : Except ServiceError LedgerTables}
    (avoids : Avoids ServiceError.IsReplacementConflict outcome) (moment : Datetime)
    (message : Text) :
    observed moment outcome ≠
      observed moment (.error (conflictError .pendingReplacementConflict message)) := by
  intro same
  cases found : outcome with
  | ok ledger =>
      rw [found] at same
      cases same
  | error error =>
      rw [found] at same
      have unworded : error.unworded =
          (conflictError .pendingReplacementConflict message).unworded := Except.error.inj same
      refine avoids error found ?_
      cases error with
      | domain domainError =>
          rcases domainError with ⟨text, code, statusCode⟩
          cases unworded
          exact ⟨text, rfl⟩
      | _ => cases unworded

/-- The commits differ exactly when the run is refused for a live row that one of the two
states has and the other has not. -/
theorem SameBasis.observed_eq_iff (environment : Environment) (basis : SameBasis left right run)
    (full : run.mode = .full) (isOpen : run.state ≠ .committed) (raw : RefreshCommitRequest)
    (leftClock rightClock : Clock) (moment : Datetime) :
    observed moment (resultingLedger
        (Event.outcome environment left ⟨.commitRefresh run.id raw, leftClock⟩)) =
      observed moment (resultingLedger
        (Event.outcome environment right ⟨.commitRefresh run.id raw, rightClock⟩)) ↔
      (Publishable left run raw →
        (NamesPosted left.ledger (left.refresh.stagedOf run.id) ↔
          NamesPosted right.ledger (left.refresh.stagedOf run.id))) := by
  have staged : right.refresh.stagedOf run.id = left.refresh.stagedOf run.id :=
    congrArg RunRows.staged basis.rows
  rw [commit_ledger full isOpen basis.leftRun, commit_ledger full isOpen basis.rightRun]
  cases validated : raw.validate with
  | none =>
      refine iff_of_true rfl ?_
      rintro ⟨request, config, accepted, _⟩
      rw [validated] at accepted
      cases accepted
  | some request =>
      rw [orRaise_some, ok_bind, ok_bind, basis.commitChecks_eq full]
      cases checks : commitChecks left run request with
      | error error =>
          refine iff_of_true rfl ?_
          rintro ⟨request', config, accepted, committable, _⟩
          rw [validated, Option.some.injEq] at accepted
          rw [← accepted] at committable
          rw [(commitChecks_eq_ok_iff basis.leftRun).mpr ⟨committable, rfl⟩] at checks
          cases checks
      | ok checked =>
          have publishable : LinksSound (left.refresh.stagedOf run.id) → Publishable left run raw :=
            fun sound => ⟨request, checked.1, validated,
              ((commitChecks_eq_ok_iff basis.leftRun).mp checks).1, sound⟩
          rw [ok_bind, ok_bind, staged, basis.config]
          have sameRebuilt : observed moment
              (rebuilt rightClock.now left.config right.refresh run checked.1) =
                observed moment (rebuilt leftClock.now left.config left.refresh run checked.1) := by
            unfold observed
            rw [rebuilt_stamped, rebuilt_stamped, rebuilt_congr basis.rows]
          rcases validate_cases left.ledger (left.refresh.stagedOf run.id) with
            ⟨sound, leftFree, leftOk⟩ | ⟨leftRefused, leftText, leftError⟩
          · rcases validate_cases right.ledger (left.refresh.stagedOf run.id) with
              ⟨_, rightFree, rightOk⟩ | ⟨rightRefused, rightText, rightError⟩
            · rw [leftOk, rightOk, ok_bind, ok_bind]
              exact iff_of_true sameRebuilt.symm fun _ => iff_of_false leftFree rightFree
            · rw [leftOk, rightError, ok_bind]
              refine iff_of_false (observed_ne_conflict (avoids_rebuilt _ _ _ _ _) _ _) ?_
              intro agree
              exact rightRefused ⟨sound, fun names => leftFree ((agree (publishable sound)).mpr names)⟩
          · rcases validate_cases right.ledger (left.refresh.stagedOf run.id) with
              ⟨sound, rightFree, rightOk⟩ | ⟨rightRefused, rightText, rightError⟩
            · rw [leftError, rightOk, ok_bind]
              refine iff_of_false
                (fun same => observed_ne_conflict (avoids_rebuilt _ _ _ _ _) _ _ same.symm) ?_
              intro agree
              exact leftRefused ⟨sound, fun names => rightFree ((agree (publishable sound)).mp names)⟩
            · rw [leftError, rightError]
              refine iff_of_true rfl ?_
              rintro ⟨_, _, _, _, sound⟩
              exact iff_of_true (not_not.mp fun free => leftRefused ⟨sound, free⟩)
                (not_not.mp fun free => rightRefused ⟨sound, free⟩)

end Commit

/-! ## Every two histories -/

/-- The commit of a full run has one outcome in two states that agree on everything but the
earlier runs and the rows they left, unless the run, fit to be published otherwise, names a
posted live row in one of them only. -/
theorem full_commit_independent_iff (environment : Environment)
    (leftHistory rightHistory : List Event) (leftClock rightClock : Clock) (run : RefreshRun)
    (raw : RefreshCommitRequest)
    (basis : SameBasis ((service environment).run leftHistory)
      ((service environment).run rightHistory) run)
    (full : run.mode = .full) (isOpen : run.state ≠ .committed) :
    (∀ moment,
      observed moment (resultingLedger (Event.outcome environment
          ((service environment).run leftHistory) ⟨.commitRefresh run.id raw, leftClock⟩)) =
        observed moment (resultingLedger (Event.outcome environment
          ((service environment).run rightHistory) ⟨.commitRefresh run.id raw, rightClock⟩))) ↔
      (Publishable ((service environment).run leftHistory) run raw →
        (NamesPosted ((service environment).run leftHistory).ledger
            (((service environment).run leftHistory).refresh.stagedOf run.id) ↔
          NamesPosted ((service environment).run rightHistory).ledger
            (((service environment).run leftHistory).refresh.stagedOf run.id))) := by
  have each := basis.observed_eq_iff environment full isOpen raw leftClock rightClock
  constructor
  · intro same
    exact (each leftClock.now).mp (same leftClock.now)
  · intro agree moment
    exact (each moment).mpr agree

/-- A shared basis of concrete states, checked by evaluation. -/
theorem exists_sameBasis (left right : Database) (runId : Nat)
    (agree : right.config = left.config ∧
      right.syncState.map SyncState.revision = left.syncState.map SyncState.revision ∧
      (left.refresh.run runId).any
        (fun run => decide (run.mode = .full ∧ run.state ≠ .committed)) = true ∧
      right.refresh.run runId = left.refresh.run runId ∧
      right.refresh.batchesOf runId = left.refresh.batchesOf runId ∧
      right.refresh.stagedOf runId = left.refresh.stagedOf runId ∧
      (right.refresh.rowsOf runId).links = (left.refresh.rowsOf runId).links) :
    ∃ run, run.id = runId ∧ SameBasis left right run ∧ run.mode = .full ∧
      run.state ≠ .committed := by
  rcases agree with ⟨config, revision, openRun, runs, batches, staged, links⟩
  rcases (Option.any_eq_true _ _).mp openRun with ⟨run, found, isOpen⟩
  have holds := of_decide_eq_true isOpen
  have runId_eq : run.id = runId := Table.key_of_get found
  have rows : right.refresh.rowsOf runId = left.refresh.rowsOf runId :=
    RunRows.mk.injEq .. ▸ ⟨batches, staged, links⟩
  rw [← runId_eq] at found runs rows
  exact ⟨run, runId_eq, ⟨config, revision, found, runs.trans found, rows⟩, holds⟩

theorem full_commit_independent_rebuilding : ∃ run : RefreshRun, ∀ moment,
    observed moment (resultingLedger (Event.outcome .transparent
        ((service .transparent).run (Sample.rebuilding Sample.authorized Sample.posted))
        ⟨.commitRefresh run.id Sample.rebuildCommit, Sample.clock⟩)) =
      observed moment (resultingLedger (Event.outcome .transparent
        ((service .transparent).run (Sample.rebuilding Sample.posted Sample.posted))
        ⟨.commitRefresh run.id Sample.rebuildCommit, Sample.clock⟩)) := by
  rcases exists_sameBasis
      ((service .transparent).run (Sample.rebuilding Sample.authorized Sample.posted))
      ((service .transparent).run (Sample.rebuilding Sample.posted Sample.posted)) 2
      (by decide +kernel) with
    ⟨run, runId_eq, basis, full, isOpen⟩
  have free : ¬NamesPosted
      ((service .transparent).run (Sample.rebuilding Sample.authorized Sample.posted)).ledger
      (((service .transparent).run (Sample.rebuilding Sample.authorized Sample.posted)).refresh.stagedOf
        2) := by decide +kernel
  have free' : ¬NamesPosted
      ((service .transparent).run (Sample.rebuilding Sample.posted Sample.posted)).ledger
      (((service .transparent).run (Sample.rebuilding Sample.authorized Sample.posted)).refresh.stagedOf
        2) := by decide +kernel
  refine ⟨run, (full_commit_independent_iff .transparent _ _ Sample.clock Sample.clock run
    Sample.rebuildCommit basis full isOpen).mpr fun _ => ?_⟩
  rw [runId_eq]
  exact iff_of_false free free'

/-- One purchase is posted and live in one of the states only, and the full run stages a
transaction that names it as pending. -/
theorem full_commit_depends_on_live_rows : ∃ run : RefreshRun,
    SameBasis ((service .transparent).run (Sample.rebuilding Sample.purchase Sample.posted))
        ((service .transparent).run (Sample.rebuilding Sample.posted Sample.posted)) run ∧
      run.mode = .full ∧ run.state ≠ .committed ∧
      (∃ error, Event.outcome .transparent
          ((service .transparent).run (Sample.rebuilding Sample.purchase Sample.posted))
          ⟨.commitRefresh run.id Sample.rebuildCommit, Sample.clock⟩ = .error error ∧
        error.code = some .pendingReplacementConflict) ∧
      (Event.outcome .transparent
        ((service .transparent).run (Sample.rebuilding Sample.posted Sample.posted))
        ⟨.commitRefresh run.id Sample.rebuildCommit, Sample.clock⟩).isOk = true := by
  rcases exists_sameBasis
      ((service .transparent).run (Sample.rebuilding Sample.purchase Sample.posted))
      ((service .transparent).run (Sample.rebuilding Sample.posted Sample.posted)) 2
      (by decide +kernel) with
    ⟨run, runId_eq, basis, full, isOpen⟩
  have refused : (match Event.outcome .transparent
        ((service .transparent).run (Sample.rebuilding Sample.purchase Sample.posted))
        ⟨.commitRefresh 2 Sample.rebuildCommit, Sample.clock⟩ with
      | .error error => decide (error.code = some .pendingReplacementConflict)
      | .ok _ => false) = true := by decide +kernel
  refine ⟨run, basis, full, isOpen, ?_, ?_⟩
  · rw [runId_eq]
    split at refused
    · next error raised => exact ⟨error, raised, of_decide_eq_true refused⟩
    · cases refused
  · rw [runId_eq]
    decide +kernel

end RollingBudget
