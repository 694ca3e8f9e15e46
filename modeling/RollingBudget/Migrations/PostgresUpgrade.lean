import RollingBudget.Migrations.SqliteUpgrade

namespace RollingBudget.SingleUser

open Sorting

/-! The upgrade to `0003_single_user` on PostgreSQL, which changes the tables in place, and its
agreement with the upgrade on SQLite. -/

variable {context : MigrationContext} {now : Datetime} {legacy : LegacyDatabase}

/-! ## Triggers -/

/-- The row triggers of `0001_initial`. -/
inductive PostgresTrigger where
  | ruleVersionsImmutable
  | configVersionRulesImmutable
  | configVersionsGuard
  | configActivationRequiresRebuild
  | syncStateCommittedRun
  | refreshRunsGuard
  | refreshRunsActiveIncremental
  | refreshBatchesImmutable
  | refreshBatchesOpenRun
  | stagedCategoriesStoreOnly
deriving DecidableEq

def postgresTriggers : List PostgresTrigger :=
  [.ruleVersionsImmutable, .configVersionRulesImmutable, .configVersionsGuard,
    .configActivationRequiresRebuild, .syncStateCommittedRun, .refreshRunsGuard,
    .refreshRunsActiveIncremental, .refreshBatchesImmutable, .refreshBatchesOpenRun,
    .stagedCategoriesStoreOnly]

/-- `_drop_postgres_guards` -/
def dropPostgresGuards (installed : List PostgresTrigger) : List PostgresTrigger :=
  installed.filter fun trigger => trigger ∉ [PostgresTrigger.configVersionsGuard,
    .refreshRunsGuard, .syncStateCommittedRun, .stagedCategoriesStoreOnly]

inductive UpdatedTable where
  | configVersions
  | refreshRuns
  | refreshBatches
  | transactions
deriving DecidableEq

/-- The triggers that run for each row of an `UPDATE` that assigns no status. -/
def UpdatedTable.triggers : UpdatedTable → List PostgresTrigger
  | .configVersions => [.configVersionsGuard]
  | .refreshRuns => [.refreshRunsGuard]
  | .refreshBatches => [.refreshBatchesImmutable]
  | .transactions => []

/-- An `UPDATE` of the rows while the triggers are installed. The only trigger it can meet in
the upgrade, `reject_refresh_batch_mutation`, raises for every row. -/
def fireTriggers {Row : Type} (installed : List PostgresTrigger) (table : UpdatedTable)
    (rows : List Row) : Except MigrationError Unit :=
  require (rows.isEmpty = true ∨ ∀ trigger ∈ table.triggers, trigger ∉ installed) .triggerRaised

/-! ## Statements -/

/-- `UPDATE refresh_runs SET state = 'failed', ...` -/
def invalidate (now : Datetime) (run : LegacyRun) : LegacyRun :=
  if nonterminal run.state then
    { run with
      state := .failed
      failedAt := some now
      errorCode := some "upgrade_invalidated".toList }
  else run

/-- `UPDATE refresh_runs SET completed_accounts = ...`, a column that was `account_manifest`. -/
def completeAccounts (run : LegacyRun) : LegacyRun :=
  { run with
    accountManifest := if run.state = .committed then some run.expectedAccounts else none }

/-- The checks on `refresh_runs` that are not dropped before its rows change. -/
structure LegacyRun.KeptChecks (run : LegacyRun) : Prop where
  dates : DateRange run.sourceFromDate run.sourceToDate
  computedChecksum : ∀ checksum ∈ run.computedChecksum, IsSha256 checksum
  requestHash : IsSha256 run.requestHash
  failed : run.state = .failed → run.failedAt.isSome

instance (run : LegacyRun) : Decidable run.KeptChecks :=
  decidable_of_iff
    (DateRange run.sourceFromDate run.sourceToDate ∧
      (∀ checksum ∈ run.computedChecksum, IsSha256 checksum) ∧ IsSha256 run.requestHash ∧
      (run.state = .failed → run.failedAt.isSome))
    ⟨fun ⟨a, b, c, d⟩ => ⟨a, b, c, d⟩, fun ⟨a, b, c, d⟩ => ⟨a, b, c, d⟩⟩

def LegacyRun.setRequestHash (requestHash : Text) (run : LegacyRun) : LegacyRun :=
  { run with requestHash := requestHash }

/-- `UPDATE refresh_batches SET item_count = store_count` -/
def countStored (batch : LegacyBatch) : LegacyBatch := { batch with itemCount := batch.storeCount }

/-! ## Columns that are left -/

def keptRun (run : LegacyRun) : RunRow where
  id := run.id
  idempotencyKey := run.idempotencyKey
  requestHash := run.requestHash
  mode := run.mode
  state := run.state
  configVersionId := run.configVersionId
  sourceFromDate := run.sourceFromDate
  sourceToDate := run.sourceToDate
  expectedAccounts := run.expectedAccounts
  completedAccounts := run.accountManifest
  expectedBatchCount := run.expectedBatchCount
  computedChecksum := run.computedChecksum
  syncRevisionBefore := none
  receivedBatchCount := run.receivedBatchCount
  actualItemCount := run.actualStoreCount
  createdAt := run.createdAt
  uploadedAt := run.uploadedAt
  validatedAt := run.validatedAt
  committedAt := run.committedAt
  failedAt := run.failedAt
  errorCode := run.errorCode

def keptBatch (batch : LegacyBatch) : BatchRow where
  runId := batch.runId
  batchIndex := batch.batchIndex
  idempotencyKey := batch.idempotencyKey
  requestHash := batch.requestHash
  checksum := batch.checksum
  itemCount := batch.itemCount
  createdAt := batch.createdAt

/-- `pending` is the added column, with what `status = 'pending'` assigned to it. -/
def keptTransaction (transaction : LegacyTransaction) (pending : Bool) : TransactionRow where
  accountId := transaction.accountId
  accountName := none
  sourceId := transaction.sourceTransactionId
  transactionDate := transaction.transactionDate
  amount := transaction.amount
  currency := transaction.currency
  pending := pending
  merchant := transaction.merchant
  name := transaction.description
  refunded := transaction.refunded
  refundAmount := transaction.refundAmount
  pendingSourceId := transaction.supersedesSourceTransactionId
  sourceHash := transaction.sourceHash
  configVersionId := transaction.configVersionId
  firstRefreshRunId := transaction.firstRefreshRunId
  lastRefreshRunId := transaction.lastRefreshRunId
  firstSeenAt := transaction.firstSeenAt
  lastSeenAt := transaction.lastSeenAt

def keptCategory (link : LegacyTransactionCategory) : TransactionCategory :=
  ⟨link.accountId, link.sourceTransactionId, link.categoryId, link.configVersionId,
    link.ruleVersionId⟩

def keptSyncState (state : LegacySyncState) : SyncState :=
  ⟨state.configVersionId, state.lastRefreshRunId, state.revision, state.updatedAt⟩

/-! ## The upgrade -/

/-- `_postgres_upgrade` -/
def postgresUpgrade (now : Datetime) (legacy : LegacyDatabase)
    (configRewrites : List ConfigRewrite) (requestRewrites : List RequestRewrite) :
    Except MigrationError SingleUserDatabase := do
  let installed := dropPostgresGuards postgresTriggers
  fireTriggers installed .refreshRuns legacy.refreshRuns
  let refreshRuns := legacy.refreshRuns.map (invalidate now)
  require (∀ run ∈ refreshRuns, run.KeptChecks) .integrityError
  let refreshRuns := refreshRuns.map completeAccounts
  fireTriggers installed .configVersions legacy.configVersions
  let configVersions ← applyConfigRewrites configRewrites legacy.configVersions
  let refreshRuns ←
    applyRequestHashRewrites LegacyRun.id LegacyRun.setRequestHash requestRewrites refreshRuns
  fireTriggers installed .refreshBatches legacy.refreshBatches
  let refreshBatches := legacy.refreshBatches.map countStored
  fireTriggers installed .transactions legacy.transactions
  let content : SingleUserDatabase := {
    categories := legacy.categories
    ruleVersions := legacy.ruleVersions
    configVersions := configVersions
    configVersionRules := legacy.configVersionRules
    refreshRuns := refreshRuns.map keptRun
    refreshBatches := refreshBatches.map keptBatch
    stagedTransactions := []
    stagedTransactionCategories := []
    transactions := legacy.transactions.map fun transaction =>
      keptTransaction transaction (transaction.status = .pending)
    transactionCategories := legacy.transactionCategories.map keptCategory
    syncStates := legacy.syncStates.map keptSyncState }
  -- The keys, checks and foreign keys that are created last are validated on all rows.
  require (SingleUserDatabase.AdmitsTransactions content.transactions) .integrityError
  require (SingleUserDatabase.AdmitsCategories content.transactionCategories) .integrityError
  require (SingleUserDatabase.AdmitsSyncStates content.syncStates) .integrityError
  require (SingleUserDatabase.AdmitsRuns content.refreshRuns) .integrityError
  require content.ForeignKeys .integrityError
  pure content

/-- `upgrade` -/
def upgrade (context : MigrationContext) (dialect : Dialect) (now : Datetime)
    (legacy : LegacyDatabase) : Except MigrationError SingleUserDatabase := do
  assertSingleLegacyScope context legacy
  let configRewrites ← configRewrites context legacy.toConfigContent false
  let requestRewrites ← requestHashRewrites context dialect false
    (legacy.refreshRuns.map LegacyRun.requestColumns)
  match dialect with
  | .sqlite => sqliteUpgrade now legacy configRewrites requestRewrites
  | .postgresql => postgresUpgrade now legacy configRewrites requestRewrites

/-! ## Statements that pass -/

/-- The statements leave the row that SQLite selects from the copy. -/
theorem keptRun_completeAccounts_invalidate (requestHash : Text) (run : LegacyRun) :
    keptRun ((completeAccounts (invalidate now run)).setRequestHash requestHash) =
      (upgradedRun now run).setRequestHash requestHash := by
  unfold invalidate upgradedRun
  cases state : run.state <;>
    simp [nonterminal, keptRun, completeAccounts, LegacyRun.setRequestHash, RunRow.setRequestHash,
      state]

theorem requestColumns_completeAccounts_invalidate (now : Datetime) (run : LegacyRun) :
    (completeAccounts (invalidate now run)).requestColumns = run.requestColumns := by
  unfold invalidate
  split <;> rfl

private theorem rewrites_kept (now : Datetime) (runs : List LegacyRun) :
    (runs.map LegacyRun.requestColumns).map (RequestColumns.rewriteOf context false) =
      ((runs.map (invalidate now)).map completeAccounts).map fun row =>
        row.requestColumns.rewriteOf context false := by
  rw [List.map_map, List.map_map, List.map_map]
  apply List.map_congr_left
  intro run _
  simp only [Function.comp_apply, requestColumns_completeAccounts_invalidate]

private theorem setRequestHash_kept (now : Datetime) (runs : List LegacyRun) :
    (((runs.map (invalidate now)).map completeAccounts).map fun row =>
        row.setRequestHash (row.requestColumns.newRequestHash context false)) =
      runs.map fun run => (completeAccounts (invalidate now run)).setRequestHash
        (run.requestColumns.newRequestHash context false) := by
  rw [List.map_map, List.map_map]
  apply List.map_congr_left
  intro run _
  simp only [Function.comp_apply, requestColumns_completeAccounts_invalidate]

private theorem ids_kept (now : Datetime) (runs : List LegacyRun) :
    ((runs.map (invalidate now)).map completeAccounts).map LegacyRun.id =
      runs.map LegacyRun.id := by
  rw [List.map_map, List.map_map]
  apply List.map_congr_left
  intro run _
  exact congrArg RequestColumns.id (requestColumns_completeAccounts_invalidate now run)

theorem refreshRuns_kept (runs : List LegacyRun) (requestHash : LegacyRun → Text) :
    (runs.map fun run => (completeAccounts (invalidate now run)).setRequestHash
        (requestHash run)).map keptRun =
      runs.map fun run => (upgradedRun now run).setRequestHash (requestHash run) := by
  rw [List.map_map]
  exact List.map_congr_left fun run _ => keptRun_completeAccounts_invalidate (requestHash run) run

/-- A completed upgrade has left the rows that the one on SQLite leaves. -/
theorem eq_upgraded_of_postgresUpgrade (constraints : legacy.Constraints)
    {content : SingleUserDatabase}
    (completed : postgresUpgrade now legacy
      (legacy.configVersions.map (configRewriteOf context legacy.toConfigContent false))
      ((legacy.refreshRuns.map LegacyRun.requestColumns).map
        (RequestColumns.rewriteOf context false)) = .ok content) :
    content = upgraded context now legacy := by
  rcases Outcome.bind_eq_ok.mp completed with ⟨_, _, completed⟩
  rcases Outcome.bind_eq_ok.mp completed with ⟨_, _, completed⟩
  rcases Outcome.bind_eq_ok.mp completed with ⟨_, _, completed⟩
  rcases Outcome.bind_eq_ok.mp completed with ⟨configVersions, configs, completed⟩
  rcases Outcome.bind_eq_ok.mp completed with ⟨refreshRuns, requests, completed⟩
  rcases Outcome.bind_eq_ok.mp completed with ⟨_, _, completed⟩
  rcases Outcome.bind_eq_ok.mp completed with ⟨_, _, completed⟩
  rcases Outcome.bind_eq_ok.mp completed with ⟨_, _, completed⟩
  rcases Outcome.bind_eq_ok.mp completed with ⟨_, _, completed⟩
  rcases Outcome.bind_eq_ok.mp completed with ⟨_, _, completed⟩
  rcases Outcome.bind_eq_ok.mp completed with ⟨_, _, completed⟩
  rcases Outcome.bind_eq_ok.mp completed with ⟨_, _, written⟩
  have ids := constraints.runs.1.2
  rw [← ids_kept now] at ids
  rw [rewrites_kept now] at requests
  have versions_eq := eq_of_applyConfigRewrites constraints.config.versionIds configs
  have runs_eq := eq_of_applyRequestHashRewrites LegacyRun.setRequestHash
    LegacyRun.requestColumns ids (fun _ => rfl) (fun _ _ => rfl) requests
  have batches : (legacy.refreshBatches.map countStored).map keptBatch =
      legacy.refreshBatches.map upgradedBatch := List.map_map
  rw [setRequestHash_kept] at runs_eq
  rw [Outcome.pure_eq_ok, versions_eq, runs_eq, refreshRuns_kept, batches] at written
  exact written.symm

end RollingBudget.SingleUser
