import RollingBudget.Foundation.Writes
import RollingBudget.Guards.Constraints

namespace RollingBudget

open SingleUser

/-! Row writes, and the triggers of `0001_initial` and `0003_single_user` that check them. Money
in a row is as the column returns it. -/

inductive Row where
  | category (row : Category)
  | ruleVersion (row : RuleVersion)
  | configVersion (row : ConfigVersion)
  | configVersionRule (row : ConfigVersionRule)
  | refreshRun (row : RefreshRun)
  | refreshBatch (row : RefreshBatch)
  | stagedTransaction (row : StagedTransaction)
  | stagedTransactionCategory (row : StagedTransactionCategory)
  | transaction (row : Transaction)
  | transactionCategory (row : TransactionCategory)
  | syncState (row : SyncState)

/-- An update and a deletion are about the row with the primary key of the given one. -/
inductive Write where
  | insert (row : Row)
  | update (row : Row)
  | delete (row : Row)

/-! ## What a write does -/

namespace Database

variable (database : Database)

def withConfig (config : ConfigTables) : Database := { database with config := config }

def withRefresh (refresh : RefreshTables) : Database := { database with refresh := refresh }

def withLedger (ledger : LedgerTables) : Database := { database with ledger := ledger }

def insert : Row → Database
  | .category row => database.withConfig
      { database.config with categories := database.config.categories ++ [row] }
  | .ruleVersion row => database.withConfig
      { database.config with ruleVersions := database.config.ruleVersions ++ [row] }
  | .configVersion row => database.withConfig
      { database.config with configVersions := database.config.configVersions ++ [row] }
  | .configVersionRule row => database.withConfig
      { database.config with configVersionRules := database.config.configVersionRules ++ [row] }
  | .refreshRun row => database.withRefresh
      { database.refresh with refreshRuns := database.refresh.refreshRuns ++ [row] }
  | .refreshBatch row => database.withRefresh
      { database.refresh with refreshBatches := database.refresh.refreshBatches ++ [row] }
  | .stagedTransaction row => database.withRefresh
      { database.refresh with
        stagedTransactions := database.refresh.stagedTransactions ++ [row] }
  | .stagedTransactionCategory row => database.withRefresh
      { database.refresh with
        stagedTransactionCategories := database.refresh.stagedTransactionCategories ++ [row] }
  | .transaction row => database.withLedger
      { database.ledger with transactions := database.ledger.transactions ++ [row] }
  | .transactionCategory row => database.withLedger
      { database.ledger with
        transactionCategories := database.ledger.transactionCategories ++ [row] }
  | .syncState row => { database with syncState := some row }

/-- The triggers let no write change the tables that are left out here. -/
def update : Row → Database
  | .category row => database.withConfig
      { database.config with categories := replace Category.id row database.config.categories }
  | .configVersion row => database.withConfig
      { database.config with
        configVersions := replace ConfigVersion.id row database.config.configVersions }
  | .refreshRun row => database.withRefresh
      { database.refresh with
        refreshRuns := replace RefreshRun.id row database.refresh.refreshRuns }
  | .stagedTransaction row => database.withRefresh
      { database.refresh with
        stagedTransactions := replace StagedTransaction.key row
          database.refresh.stagedTransactions }
  | .stagedTransactionCategory row => database.withRefresh
      { database.refresh with
        stagedTransactionCategories := replace StagedTransactionCategory.key row
          database.refresh.stagedTransactionCategories }
  | .transaction row => database.withLedger
      { database.ledger with
        transactions := replace Transaction.identity row database.ledger.transactions }
  | .transactionCategory row => database.withLedger
      { database.ledger with
        transactionCategories := replace TransactionCategory.key row
          database.ledger.transactionCategories }
  | .syncState row => { database with syncState := some row }
  | .ruleVersion _ | .configVersionRule _ | .refreshBatch _ => database

/-- The links of a staged or live transaction are deleted with it. The triggers let no write
delete from the tables that are left out here. -/
def delete : Row → Database
  | .category row => database.withConfig
      { database.config with
        categories := database.config.categories.filter fun old => old.id ≠ row.id }
  | .stagedTransaction row => database.withRefresh
      { database.refresh with
        stagedTransactions := database.refresh.stagedTransactions.filter fun old =>
          old.key ≠ row.key
        stagedTransactionCategories := database.refresh.stagedTransactionCategories.filter
          fun link => link.ownerKey ≠ row.configKey }
  | .stagedTransactionCategory row => database.withRefresh
      { database.refresh with
        stagedTransactionCategories := database.refresh.stagedTransactionCategories.filter
          fun old => old.key ≠ row.key }
  | .transaction row => database.withLedger
      { transactions := database.ledger.transactions.filter fun old =>
          old.identity ≠ row.identity
        transactionCategories := database.ledger.transactionCategories.filter fun link =>
          link.ownerKey ≠ row.configKey }
  | .transactionCategory row => database.withLedger
      { database.ledger with
        transactionCategories := database.ledger.transactionCategories.filter fun old =>
          old.key ≠ row.key }
  | .syncState _ => { database with syncState := none }
  | .ruleVersion _ | .configVersion _ | .configVersionRule _ | .refreshRun _ | .refreshBatch _ =>
      database

def write : Write → Database
  | .insert row => database.insert row
  | .update row => database.update row
  | .delete row => database.delete row

end Database

/-! ## Triggers -/

/-- `trg_config_versions_content_immutable` -/
structure ConfigVersion.SameContent (old new : ConfigVersion) : Prop where
  version : new.version = old.version
  timezone : new.timezone = old.timezone
  displayCurrency : new.displayCurrency = old.displayCurrency
  aggregationVersion : new.aggregationVersion = old.aggregationVersion
  configHash : new.configHash = old.configHash
  sourceConfig : new.sourceConfig = old.sourceConfig
  createdAt : new.createdAt = old.createdAt

/-- `trg_config_versions_status_guard` -/
def ConfigVersionStatus.MayBecome (old new : ConfigVersionStatus) : Prop :=
  new = old ∨ (old = .pending ∧ (new = .active ∨ new = .superseded)) ∨
    (old = .active ∧ new = .superseded)

/-- `trg_config_activation_requires_rebuild` -/
def Database.Rebuilt (database : Database) (configId : Nat) : Prop :=
  ∃ run ∈ database.refresh.refreshRuns, run.configVersionId = configId ∧ run.mode = .full ∧
    run.state = .committed

/-- `trg_refresh_runs_identity_immutable` -/
structure RefreshRun.SameManifest (old new : RefreshRun) : Prop where
  idempotencyKey : new.idempotencyKey = old.idempotencyKey
  requestHash : new.requestHash = old.requestHash
  mode : new.mode = old.mode
  configVersionId : new.configVersionId = old.configVersionId
  sourceFromDate : new.sourceFromDate = old.sourceFromDate
  sourceToDate : new.sourceToDate = old.sourceToDate
  expectedAccounts : new.expectedAccounts = old.expectedAccounts
  syncRevisionBefore : new.syncRevisionBefore = old.syncRevisionBefore
  createdAt : new.createdAt = old.createdAt

/-- What `trg_refresh_runs_state_guard` lets through on the way to `validated` without an
upload. -/
def RefreshRun.WithoutBatches (run : RefreshRun) : Prop :=
  run.expectedBatchCount = some 0 ∧ run.receivedBatchCount = 0 ∧ run.actualItemCount = 0

/-- `trg_refresh_runs_state_guard` -/
def RefreshRun.MayBecome (old new : RefreshRun) : Prop :=
  new.state = old.state ∨
    (old.state = .created ∧ (new.state = .uploaded ∨ new.state = .failed)) ∨
    (old.state = .created ∧ new.state = .validated ∧ new.WithoutBatches) ∨
    (old.state = .uploaded ∧ (new.state = .validated ∨ new.state = .failed)) ∨
    (old.state = .validated ∧ (new.state = .committed ∨ new.state = .failed))

/-- `trg_sync_state_committed_run_insert` and `trg_sync_state_committed_run_update` -/
def Database.Synced (database : Database) (state : SyncState) : Prop :=
  ∃ run ∈ database.refresh.refreshRuns, run.id = state.lastRefreshRunId ∧
    run.configVersionId = state.configVersionId ∧ run.state = .committed

/-- The triggers let the write through. An update finds its row, and the number 1 of an inserted
row of `sync_states` is free. -/
def Database.Triggers (database : Database) : Write → Prop
  | .insert (.refreshRun run) => run.mode = .incremental →
      ∃ config ∈ database.config.configVersions, config.id = run.configVersionId ∧
        config.status = .active
  | .insert (.refreshBatch batch) => ∃ run ∈ database.refresh.refreshRuns,
      run.id = batch.runId ∧ (run.state = .created ∨ run.state = .uploaded)
  | .insert (.syncState state) => database.syncState = none ∧ database.Synced state
  | .insert _ => True
  | .update (.category row) => ∃ old ∈ database.config.categories, old.id = row.id
  | .update (.configVersion row) => ∃ old ∈ database.config.configVersions, old.id = row.id ∧
      old.SameContent row ∧ old.status.MayBecome row.status ∧
      (row.status = .active → old.status ≠ .active → database.Rebuilt row.id)
  | .update (.refreshRun row) => ∃ old ∈ database.refresh.refreshRuns, old.id = row.id ∧
      old.SameManifest row ∧ (old.state ≠ .committed ∧ old.state ≠ .failed) ∧ old.MayBecome row
  | .update (.stagedTransaction row) => row.key ∈
      database.refresh.stagedTransactions.map StagedTransaction.key
  | .update (.stagedTransactionCategory row) => row.key ∈
      database.refresh.stagedTransactionCategories.map StagedTransactionCategory.key
  | .update (.transaction row) => row.identity ∈
      database.ledger.transactions.map Transaction.identity
  | .update (.transactionCategory row) => row.key ∈
      database.ledger.transactionCategories.map TransactionCategory.key
  | .update (.syncState state) => database.syncState.isSome ∧ database.Synced state
  | .update (.ruleVersion _) | .update (.configVersionRule _) | .update (.refreshBatch _) => False
  | .delete (.ruleVersion _) | .delete (.configVersion _) | .delete (.configVersionRule _)
  | .delete (.refreshRun _) | .delete (.refreshBatch _) => False
  | .delete _ => True

/-! ## The life of a run -/

/-- A run is created, receives its batches one by one, and is validated and then committed. A
run without batches is validated at once. -/
def RefreshRun.Advances (old new : RefreshRun) : Prop :=
  (old.state = .created ∧ new.state = .uploaded) ∨
    (old.state = .uploaded ∧ new.state = .uploaded) ∨
    (old.state = .created ∧ new.state = .validated ∧ new.WithoutBatches) ∨
    (old.state = .uploaded ∧ new.state = .validated) ∨
    (old.state = .validated ∧ new.state = .committed)

def Database.Advances (database : Database) : Write → Prop
  | .insert (.refreshRun run) => run.state = .created
  | .update (.refreshRun row) =>
      ∀ old ∈ database.refresh.refreshRuns, old.id = row.id → old.Advances row
  | _ => True

/-! ## The guarded database -/

structure Database.Guarded (database : Database) (write : Write) : Prop where
  triggers : database.Triggers write
  constraints : (database.write write).Constraints
  advances : database.Advances write

/-- Every statement is checked when it is executed. -/
def guardedDatabase : GuardedStore Database Write where
  Guards := Database.Guarded
  apply := Database.write

theorem Database.constraints_empty : Database.empty.Constraints := by decide

/-- The guards keep the constraints, whoever writes. -/
theorem Database.constraints_after {database : Database} {writes : List Write}
    (admits : guardedDatabase.Admits database writes) (start : database.Constraints) :
    (guardedDatabase.after database writes).Constraints :=
  admits.invariant (fun _ _ _ (guarded : Database.Guarded _ _) => guarded.constraints) start

end RollingBudget
