import RollingBudget.Refresh.Steps

namespace RollingBudget

open RefreshService

/-! What stays of a run once it is written: a run keeps everything `begin_refresh` froze,
a committed run keeps every column, and batches are never changed. -/

/-- A run with the fields that later calls assign blanked out. -/
def RefreshRun.frozen (run : RefreshRun) : RefreshRun :=
  { run with
    state := .created, completedAccounts := none, expectedBatchCount := none,
    computedChecksum := none, receivedBatchCount := 0, actualItemCount := 0, uploadedAt := none,
    validatedAt := none, committedAt := none, errorCode := none }

namespace RefreshRun

variable {before after : RefreshRun}

theorem id_of_frozen (same : after.frozen = before.frozen) : after.id = before.id :=
  (congrArg RefreshRun.id same :)

theorem idempotencyKey_of_frozen (same : after.frozen = before.frozen) :
    after.idempotencyKey = before.idempotencyKey :=
  (congrArg RefreshRun.idempotencyKey same :)

theorem requestHash_of_frozen (same : after.frozen = before.frozen) :
    after.requestHash = before.requestHash :=
  (congrArg RefreshRun.requestHash same :)

theorem configVersionId_of_frozen (same : after.frozen = before.frozen) :
    after.configVersionId = before.configVersionId :=
  (congrArg RefreshRun.configVersionId same :)

theorem syncRevisionBefore_of_frozen (same : after.frozen = before.frozen) :
    after.syncRevisionBefore = before.syncRevisionBefore :=
  (congrArg RefreshRun.syncRevisionBefore same :)

theorem mode_of_frozen (same : after.frozen = before.frozen) : after.mode = before.mode :=
  (congrArg RefreshRun.mode same :)

theorem expectedAccounts_of_frozen (same : after.frozen = before.frozen) :
    after.expectedAccounts = before.expectedAccounts :=
  (congrArg RefreshRun.expectedAccounts same :)

end RefreshRun

namespace RefreshTables

structure Extends (before after : RefreshTables) : Prop where
  run : ∀ {id : Nat} {run : RefreshRun}, before.run id = some run →
    ∃ run', after.run id = some run' ∧ run'.frozen = run.frozen ∧
      (run.state = .committed → run' = run)
  runByKey : ∀ {key : Text} {run : RefreshRun},
    Table.get RefreshRun.idempotencyKey before.refreshRuns key = some run →
      ∃ run', Table.get RefreshRun.idempotencyKey after.refreshRuns key = some run' ∧
        run'.frozen = run.frozen
  batch : ∀ {runId index : Nat} {batch : RefreshBatch}, before.batch runId index = some batch →
    after.batch runId index = some batch

namespace Extends

variable {first second third : RefreshTables}

theorem refl (tables : RefreshTables) : tables.Extends tables where
  run := fun found => ⟨_, found, rfl, fun _ => rfl⟩
  runByKey := fun found => ⟨_, found, rfl⟩
  batch := fun found => found

theorem trans (earlier : first.Extends second) (later : second.Extends third) :
    first.Extends third where
  run := by
    intro id run found
    rcases earlier.run found with ⟨run', found', same, keeps⟩
    rcases later.run found' with ⟨run'', found'', same', keeps'⟩
    refine ⟨run'', found'', same'.trans same, fun committed => ?_⟩
    have kept := keeps committed
    rw [← kept] at committed
    exact (keeps' committed).trans kept
  runByKey := by
    intro key run found
    rcases earlier.runByKey found with ⟨run', found', same⟩
    rcases later.runByKey found' with ⟨run'', found'', same'⟩
    exact ⟨run'', found'', same'.trans same⟩
  batch := fun found => later.batch (earlier.batch found)

end Extends

variable {tables after : RefreshTables}

/-- Assigning unfrozen fields of one open run and adding batches extends the tables. -/
theorem extends_modify {run : RefreshRun} (change : RefreshRun → RefreshRun)
    {batches : List RefreshBatch} (frozen : ∀ row, (change row).frozen = row.frozen)
    (found : tables.run run.id = some run) (isOpen : run.state ≠ .committed)
    (runs : after.refreshRuns = Table.modify RefreshRun.id run.id change tables.refreshRuns)
    (added : after.refreshBatches = tables.refreshBatches ++ batches) : tables.Extends after where
  run := by
    intro id other otherFound
    have otherId : other.id = id := Table.key_of_get otherFound
    unfold RefreshTables.run at otherFound ⊢
    rw [runs, Table.get_modify fun row => RefreshRun.id_of_frozen (frozen row), otherFound]
    refine ⟨_, rfl, ?_, fun committed => ?_⟩
    · split
      · exact frozen other
      · rfl
    · refine if_neg fun same => ?_
      rw [same] at otherFound
      have sameRun := otherFound.symm.trans found
      cases sameRun
      exact isOpen committed
  runByKey := by
    intro key other otherFound
    rw [runs, Table.modify_eq_map, Table.get_map, otherFound]
    · refine ⟨_, rfl, ?_⟩
      dsimp only
      split
      · exact frozen other
      · rfl
    · intro row
      split
      · exact RefreshRun.idempotencyKey_of_frozen (frozen row)
      · rfl
  batch := by
    intro runId index batch batchFound
    unfold RefreshTables.batch at batchFound ⊢
    rw [added]
    exact Table.get_append_of_some _ batchFound

end RefreshTables

/-! ## Calls -/

variable {environment : Environment} {clock : Clock} {database committed : Database}

theorem extends_insertRun (database : Database) (run : RefreshRun) :
    database.refresh.Extends (insertRun database run).refresh where
  run := fun found => ⟨_, Table.get_append_of_some _ found, rfl, fun _ => rfl⟩
  runByKey := fun found => ⟨_, Table.get_append_of_some _ found, rfl⟩
  batch := fun found => found

theorem Uploaded.isOpen {run : RefreshRun} {config : ConfigVersion} {index : Nat}
    {request : RefreshBatchRequest} (uploaded : Uploaded database run config index request) :
    run.state ≠ .committed := by
  rcases uploaded.state with created | uploaded
  · simp [created]
  · simp [uploaded]

theorem Committable.isOpen {run : RefreshRun} {config : ConfigVersion}
    {request : RefreshCommitRequest} (committable : Committable database run config request) :
    run.state ≠ .committed := by
  rcases committable.state with uploaded | ⟨created, _⟩
  · simp [uploaded]
  · simp [created]

theorem BeginCase.grows {request : RefreshBeginRequest} {idempotencyKey : Text}
    {maxBatchItems maxRequestBytes : Nat} {response : RefreshBeginResponse}
    (begun : BeginCase environment clock database request idempotencyKey maxBatchItems
      maxRequestBytes committed response) : database.refresh.Extends committed.refresh := by
  cases begun with
  | replay existing config found hash configFound result answer =>
      rw [result]
      exact RefreshTables.Extends.refl _
  | new target missing begun result answer =>
      rw [result]
      exact extends_insertRun database _

theorem UploadCase.grows {runId index : Nat} {request : RefreshBatchRequest}
    {response : RefreshBatchResponse}
    (uploadCase : UploadCase environment clock database runId index request committed response) :
    database.refresh.Extends committed.refresh := by
  cases uploadCase with
  | replay run existing runFound found hash checksum result answer =>
      rw [result]
      exact RefreshTables.Extends.refl _
  | new run config runId_eq uploaded result answer =>
      rw [result]
      exact RefreshTables.extends_modify (receiveBatch clock.now
        (newBatch environment run index request).itemCount) (fun _ => rfl) uploaded.runFound
        uploaded.isOpen rfl rfl

theorem Published.refreshGrows {request : RefreshCommitRequest} {run : RefreshRun}
    {config : ConfigVersion} {tables : ConfigTables} {published : LedgerTables}
    (result : Published environment clock database run config request committed tables published) :
    database.refresh.Extends committed.refresh := by
  rw [result.refreshEq]
  exact RefreshTables.extends_modify (completeRun environment clock.now request
    (orderedBatches database.refresh run.id)) (fun _ => rfl) result.committable.runFound
    result.committable.isOpen rfl (List.append_nil _).symm

end RollingBudget
