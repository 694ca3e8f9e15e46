import RollingBudget.Guards.Flushes

namespace RollingBudget.Flushes

open Sorting ServiceError ConfigService RefreshService

/-! With its writes left out, a call is the call of the service. -/

variable {environment : Environment} {clock : Clock} {tables : ConfigTables}

/-! ## `put_config` -/

theorem ensureCategory_result (item : CategoryConfigInput) :
    (ensureCategory environment tables item).result =
      .ok (ConfigService.ensureCategory tables item) := by
  unfold ensureCategory
  split <;> rfl

theorem ensureRule_result (categoryId : Nat) (item : CategoryConfigInput) :
    (ensureRule environment tables categoryId item).result =
      .ok (ConfigService.ensureRule environment tables categoryId item) := by
  unfold ensureRule
  split <;> rfl

theorem selectRule_result (progress : ConfigTables × List (Nat × Nat))
    (item : CategoryConfigInput) :
    (selectRule environment progress item).result =
      .ok (ConfigService.selectRule environment progress item) := by
  unfold selectRule
  rw [Logged.result_bind, ensureCategory_result, Outcome.ok_bind, Logged.result_bind,
    ensureRule_result, Outcome.ok_bind, Logged.result_pure]
  rfl

theorem selectRules_result (request : ConfigPutRequest) :
    (selectRules environment tables request).result =
      .ok (ConfigService.selectRules environment tables request) := by
  have loop := Logged.result_foldlM id
    (fun progress item =>
      (.ok (ConfigService.selectRule environment progress item) : Except ServiceError _))
    (fun progress item => by rw [id_map, selectRule_result, id])
    request.categories ((tables, []) : ConfigTables × List (Nat × Nat))
  rw [id_map] at loop
  exact loop.trans List.foldlM_pure

theorem createVersion_result (request : ConfigPutRequest) :
    (createVersion environment clock tables request).result =
      ConfigService.createVersion environment clock tables request := by
  unfold createVersion ConfigService.createVersion
  rw [Logged.result_bind, selectRules_result, Outcome.ok_bind]
  simp only [Logged.result_bind, Logged.result_emit, Outcome.ok_bind]
  split
  · simp only [Logged.result_bind, Logged.result_lift, Logged.result_emit, Outcome.ok_bind,
      Logged.result_pure]
    exact bind_pure _
  · rfl

theorem publishEdits_result (now : Datetime) (active : ConfigVersion)
    (request : ConfigPutRequest) :
    (publishEdits environment now tables active request).result =
      ConfigService.publishEdits now tables active request := by
  unfold publishEdits
  simp only [Logged.result_bind, Logged.result_lift, Logged.result_emit, Outcome.ok_bind,
    Logged.result_pure]
  exact bind_pure _

theorem writeConfig_result (request : ConfigPutRequest) :
    (writeConfig environment clock tables request).result =
      ConfigService.writeConfig environment clock tables request := by
  unfold writeConfig ConfigService.writeConfig
  cases tables.active.filter _ with
  | some active => exact publishEdits_result clock.now active request
  | none =>
      dsimp only
      rw [Logged.result_bind, Logged.result_lift]
      congr 1
      funext unchanged
      cases unchanged with
      | true => rfl
      | false => exact createVersion_result request

theorem putConfigLocked_result (database : Database) (request : ConfigPutRequest)
    (ifMatch : Option Text) (checkExpected : Bool) (expectedBaseHash : Option Text) :
    (putConfigLocked environment clock database request ifMatch checkExpected
        expectedBaseHash).result =
      ConfigService.putConfigLocked environment clock database request ifMatch checkExpected
        expectedBaseHash := by
  unfold putConfigLocked ConfigService.putConfigLocked
  simp only [Logged.result_bind, Logged.result_lift, Logged.result_pure, writeConfig_result]
  rfl

/-! ## Refresh runs -/

theorem beginRefresh_result (database : Database) (request : RefreshBeginRequest)
    (idempotencyKey : Text) (maxBatchItems maxRequestBytes : Nat) :
    (beginRefresh environment clock database request idempotencyKey maxBatchItems
        maxRequestBytes).result =
      RefreshService.beginRefresh environment clock database request idempotencyKey maxBatchItems
        maxRequestBytes := by
  unfold beginRefresh
  simp only [Logged.result_bind, Logged.result_lift, Logged.result_emit, Outcome.ok_bind,
    Logged.result_pure]
  exact bind_pure _

theorem uploadBatch_result (database : Database) (runId : Nat) (batchIndex : Int)
    (request : RefreshBatchRequest) (maxBatchItems maxRequestBytes : Nat) :
    (uploadBatch environment clock database runId batchIndex request maxBatchItems
        maxRequestBytes).result =
      RefreshService.uploadBatch environment clock database runId batchIndex request
        maxBatchItems maxRequestBytes := by
  unfold uploadBatch
  rw [Logged.result_bind, Logged.result_lift]
  cases RefreshService.uploadBatch environment clock database runId batchIndex request
      maxBatchItems maxRequestBytes with
  | error error => rfl
  | ok uploaded =>
      rw [Outcome.ok_bind]
      split <;> rfl

section Publish

variable {now : Datetime} {refresh : RefreshTables} {run : RefreshRun} {ledger : LedgerTables}
  {targets : List Identity}

theorem storeStaged_result (progress : Progress) (staged : StagedTransaction)
    (existing : Option Transaction) :
    Prod.fst <$> (storeStaged now refresh run progress staged existing).result =
      RefreshService.storeStaged now refresh run progress.1 staged existing := by
  unfold storeStaged
  dsimp only
  cases existing with
  | none =>
      simp only [Option.isSome_none, Bool.false_eq_true, if_false, Logged.result_bind,
        Logged.result_emit, Logged.result_lift, Outcome.ok_bind, Logged.result_pure]
      cases RefreshService.storeStaged now refresh run progress.1 staged none with
      | error error => rfl
      | ok stored => rfl
  | some existing =>
      simp only [Option.isSome_some, if_true, Logged.result_bind,
        Logged.result_emit, Logged.result_lift, Outcome.ok_bind, Logged.result_pure]
      cases RefreshService.storeStaged now refresh run progress.1 staged (some existing) with
      | error error => rfl
      | ok stored => rfl

theorem replaceAllTransactions_result :
    Prod.fst <$> (replaceAllTransactions now ledger refresh run targets).result =
      RefreshService.replaceAllTransactions now refresh run targets := by
  unfold replaceAllTransactions RefreshService.replaceAllTransactions
  rw [Logged.result_bind, Logged.result_emit, Outcome.ok_bind]
  apply Logged.result_foldlM Prod.fst
  intro progress staged
  split
  · rfl
  · exact storeStaged_result progress staged none

theorem mergeIncremental_result :
    Prod.fst <$> (mergeIncremental now refresh run targets ledger).result =
      RefreshService.mergeIncremental now refresh run targets ledger := by
  unfold mergeIncremental RefreshService.mergeIncremental
  apply Logged.result_foldlM Prod.fst
  intro progress staged
  split
  · rfl
  · unfold clearPending clearTarget namedTarget
    cases staged.pendingSourceId with
    | none => exact storeStaged_result progress staged _
    | some pendingSourceId => exact storeStaged_result _ staged _

theorem publishedLedger_result (database : Database) :
    Prod.fst <$> (publishedLedger now database run).result =
      RefreshService.publishedLedger now database run := by
  unfold publishedLedger RefreshService.publishedLedger
  rw [Logged.result_bind, Logged.result_lift]
  cases validatePendingReplacements database.ledger (database.refresh.stagedOf run.id) with
  | error error => rfl
  | ok targets =>
      rw [Outcome.ok_bind, Outcome.ok_bind]
      cases run.mode with
      | full => exact replaceAllTransactions_result
      | incremental => exact mergeIncremental_result

theorem pruneOutsideWindows_result (progress : Progress) :
    (pruneOutsideWindows tables run progress).result =
      RefreshService.pruneOutsideWindows tables run progress.1 := by
  unfold pruneOutsideWindows
  simp only [Logged.result_bind, Logged.result_lift, Logged.result_emit, Outcome.ok_bind,
    Logged.result_pure]
  exact bind_pure _

theorem activate_result (config : ConfigVersion) :
    (activate environment now tables config).result =
      RefreshService.activate now tables config := by
  unfold activate RefreshService.activate
  split
  · simp only [Logged.result_bind, Logged.result_lift, Logged.result_emit, Outcome.ok_bind,
      Logged.result_pure]
    rfl
  · rfl

theorem publishRun_result (database : Database) (config : ConfigVersion)
    (request : RefreshCommitRequest) (batches : List RefreshBatch) :
    (publishRun environment clock database run config request batches).result =
      RefreshService.publishRun environment clock database run config request batches := by
  unfold publishRun RefreshService.publishRun
  simp only [Logged.result_bind, Logged.result_emit, Outcome.ok_bind, Logged.result_pure,
    pruneOutsideWindows_result, activate_result]
  rw [← publishedLedger_result]
  cases (publishedLedger clock.now database
      (validatedRun environment clock.now run request batches)).result with
  | error error => rfl
  | ok published => rfl

theorem commitRefresh_result (database : Database) (runId : Nat)
    (request : RefreshCommitRequest) :
    (commitRefresh environment clock database runId request).result =
      RefreshService.commitRefresh environment clock database runId request := by
  have unfolded : RefreshService.commitRefresh environment clock database runId request =
      (orRaise (notFoundError .refreshRunNotFound "Refresh run not found".toList)
        (database.refresh.run runId) >>= fun run =>
          if run.state = .committed then
            RefreshService.commitRefresh environment clock database runId request
          else
            commitOpenRun environment clock database run request >>= fun published =>
              pure (published.1, runView environment published.2)) := by
    unfold RefreshService.commitRefresh
    cases database.refresh.run runId with
    | none => rfl
    | some run =>
        rw [Outcome.orRaise_some, Outcome.ok_bind, Outcome.ok_bind]
        by_cases committed : run.state = .committed
        · rw [if_pos committed, if_pos committed]
        · rw [if_neg committed, if_neg committed]
  rw [unfolded]
  unfold commitRefresh
  rw [Logged.result_bind, Logged.result_lift]
  congr 1
  funext run
  split
  · rfl
  · simp only [Logged.result_bind, Logged.result_lift, Logged.result_pure, publishRun_result,
      commitOpenRun_eq, bind_assoc]
    rfl

end Publish

end RollingBudget.Flushes

namespace RollingBudget

/-- A call with its writes ends as the call does. -/
theorem Event.program_result (environment : Environment) (database : Database) (event : Event) :
    (event.program environment database).result = event.outcome environment database := by
  unfold Event.program Event.outcome
  cases event.call with
  | putConfig raw ifMatch =>
      simp only [Logged.result_bind, Logged.result_lift, Logged.result_pure,
        Flushes.putConfigLocked_result]
      rfl
  | putConfigChecked raw expectedConfigHash =>
      simp only [Logged.result_bind, Logged.result_lift, Logged.result_pure,
        Flushes.putConfigLocked_result]
      rfl
  | beginRefresh raw idempotencyKey maxBatchItems maxRequestBytes =>
      simp only [Logged.result_bind, Logged.result_lift, Logged.result_pure,
        Flushes.beginRefresh_result]
      rfl
  | uploadBatch runId batchIndex raw maxBatchItems maxRequestBytes =>
      simp only [Logged.result_bind, Logged.result_lift, Logged.result_pure,
        Flushes.uploadBatch_result]
      rfl
  | commitRefresh runId raw =>
      simp only [Logged.result_bind, Logged.result_lift, Logged.result_pure,
        Flushes.commitRefresh_result]
      rfl

end RollingBudget
