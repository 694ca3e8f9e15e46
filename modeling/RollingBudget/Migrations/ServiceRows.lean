import RollingBudget.Migrations.SingleUserTables

namespace RollingBudget.SingleUser

/-! How the services read the tables of `0003_single_user` on SQLite: a list of accounts is a
JSON list of strings, and an amount is a number of units. -/

def stringsJson (texts : List Text) : JsonValue := .arr (texts.map .str)

/-- The row of a version with the given document. -/
def configColumns (sourceConfig : JsonValue) (config : ConfigVersion) : ConfigVersionRow where
  id := config.id
  version := config.version
  status := config.status
  timezone := config.timezone
  displayCurrency := config.displayCurrency
  aggregationVersion := config.aggregationVersion
  configHash := config.configHash
  sourceConfig := sourceConfig
  createdAt := config.createdAt
  activatedAt := config.activatedAt
  supersededAt := config.supersededAt

/-- The row of a run; no service reads `failed_at`. -/
def runColumns (failedAt : Option Datetime) (run : RefreshRun) : RunRow where
  id := run.id
  idempotencyKey := run.idempotencyKey
  requestHash := run.requestHash
  mode := run.mode
  state := run.state
  configVersionId := run.configVersionId
  sourceFromDate := some run.sourceFromDate
  sourceToDate := some run.sourceToDate
  expectedAccounts := stringsJson run.expectedAccounts
  completedAccounts := run.completedAccounts.map stringsJson
  expectedBatchCount := run.expectedBatchCount
  computedChecksum := run.computedChecksum
  syncRevisionBefore := run.syncRevisionBefore
  receivedBatchCount := run.receivedBatchCount
  actualItemCount := run.actualItemCount
  createdAt := run.createdAt
  uploadedAt := run.uploadedAt
  validatedAt := run.validatedAt
  committedAt := run.committedAt
  failedAt := failedAt
  errorCode := run.errorCode

def batchOf (row : BatchRow) : RefreshBatch where
  runId := row.runId
  batchIndex := row.batchIndex
  idempotencyKey := row.idempotencyKey
  requestHash := row.requestHash
  checksum := row.checksum
  itemCount := row.itemCount

def amountOf (units : Nat) : Decimal := Money.processResultValue (.integer units)

def stagedTransactionOf (row : StagedTransactionRow) : StagedTransaction where
  runId := row.runId
  configVersionId := row.configVersionId
  accountId := row.accountId
  accountName := row.accountName
  sourceId := row.sourceId
  batchIndex := row.batchIndex
  transactionDate := row.transactionDate
  amount := amountOf row.amount
  currency := row.currency
  pending := row.pending
  merchant := row.merchant
  name := row.name
  refunded := row.refunded
  refundAmount := amountOf row.refundAmount
  pendingSourceId := row.pendingSourceId
  sourceHash := row.sourceHash

def transactionOf (row : TransactionRow) : Transaction where
  accountId := row.accountId
  accountName := row.accountName
  sourceId := row.sourceId
  transactionDate := row.transactionDate
  amount := amountOf row.amount
  currency := row.currency
  pending := row.pending
  merchant := row.merchant
  name := row.name
  refunded := row.refunded
  refundAmount := amountOf row.refundAmount
  pendingSourceId := row.pendingSourceId
  sourceHash := row.sourceHash
  configVersionId := row.configVersionId
  firstRefreshRunId := row.firstRefreshRunId
  lastRefreshRunId := row.lastRefreshRunId
  firstSeenAt := row.firstSeenAt
  lastSeenAt := row.lastSeenAt

/-- The configuration tables and the runs of the content are those of the database, except that
nothing is said of the configuration documents. -/
structure ReadsRequests (content : SingleUserDatabase) (database : Database) : Prop where
  categories : content.categories = database.config.categories
  ruleVersions : content.ruleVersions = database.config.ruleVersions
  configVersionRules : content.configVersionRules = database.config.configVersionRules
  configVersions : List.Forall₂ (fun row config => row = configColumns row.sourceConfig config)
    content.configVersions database.config.configVersions
  refreshRuns : List.Forall₂ (fun row run => row = runColumns row.failedAt run)
    content.refreshRuns database.refresh.refreshRuns

end RollingBudget.SingleUser
