import RollingBudget.Database.Money
import RollingBudget.Foundation.Table
import RollingBudget.Schemas.Refresh

namespace RollingBudget

/-! The rows the services read and write. Identifiers drawn with `uuid4` are numbers
not used before; columns that no service reads back are left out. A source date of a
run is `NULL` only in rows that predate the services, so the type excludes it. -/

/-- `str(uuid)` -/
def uuidText (id : Nat) : Text :=
  let hex := Text.zeroPad 32 (Nat.toDigits 16 id)
  hex.take 8 ++ '-' :: ((hex.drop 8).take 4 ++ '-' :: ((hex.drop 12).take 4 ++ '-' ::
    ((hex.drop 16).take 4 ++ '-' :: hex.drop 20)))

inductive ConfigVersionStatus where
  | pending
  | active
  | superseded
deriving DecidableEq

inductive RefreshMode where
  | incremental
  | full
deriving DecidableEq

inductive RefreshRunState where
  | created
  | uploaded
  | validated
  | committed
  | failed
deriving DecidableEq

def RefreshRunState.value : RefreshRunState → Text
  | .created => "created".toList
  | .uploaded => "uploaded".toList
  | .validated => "validated".toList
  | .committed => "committed".toList
  | .failed => "failed".toList

/-! ## Configuration -/

structure Category where
  id : Nat
  key : Text
  name : Text
  icon : Option Text
  sortOrder : Nat
  budgetLimit : Decimal
  budgetCurrency : Text
deriving DecidableEq

structure RuleVersion where
  id : Nat
  categoryId : Nat
  version : Nat
  lookbackDays : Nat
  classificationInstruction : Text
  isEnabled : Bool
  ruleHash : Text
deriving DecidableEq

/-- `sourceConfig` is the JSON document of the request the version was created from. -/
structure ConfigVersion where
  id : Nat
  version : Nat
  status : ConfigVersionStatus
  timezone : Text
  displayCurrency : Text
  aggregationVersion : Nat
  configHash : Text
  sourceConfig : ConfigPutRequest
  createdAt : Datetime
  activatedAt : Option Datetime
  supersededAt : Option Datetime
deriving DecidableEq

structure ConfigVersionRule where
  configVersionId : Nat
  categoryId : Nat
  ruleVersionId : Nat
deriving DecidableEq

structure ConfigTables where
  categories : List Category
  ruleVersions : List RuleVersion
  configVersions : List ConfigVersion
  configVersionRules : List ConfigVersionRule
deriving DecidableEq

/-! ## Refresh runs -/

structure RefreshRun where
  id : Nat
  idempotencyKey : Text
  requestHash : Text
  mode : RefreshMode
  state : RefreshRunState
  configVersionId : Nat
  sourceFromDate : Date
  sourceToDate : Date
  expectedAccounts : List Text
  completedAccounts : Option (List Text)
  expectedBatchCount : Option Nat
  computedChecksum : Option Text
  syncRevisionBefore : Option Nat
  receivedBatchCount : Nat
  actualItemCount : Nat
  createdAt : Datetime
  uploadedAt : Option Datetime
  validatedAt : Option Datetime
  committedAt : Option Datetime
  errorCode : Option Text
deriving DecidableEq

structure RefreshBatch where
  runId : Nat
  batchIndex : Nat
  idempotencyKey : Text
  requestHash : Text
  checksum : Text
  itemCount : Nat
deriving DecidableEq

/-- A transaction is identified by its account and its source identifier. -/
abbrev Identity := Text × Text

instance : LawfulBEq Identity := inferInstance

structure StagedTransaction where
  runId : Nat
  configVersionId : Nat
  accountId : Text
  accountName : Option Text
  sourceId : Text
  batchIndex : Nat
  transactionDate : Date
  amount : Decimal
  currency : Text
  pending : Bool
  merchant : Option Text
  name : Option Text
  refunded : Bool
  refundAmount : Decimal
  pendingSourceId : Option Text
  sourceHash : Text
deriving DecidableEq

def StagedTransaction.identity (staged : StagedTransaction) : Identity :=
  (staged.accountId, staged.sourceId)

structure StagedTransactionCategory where
  runId : Nat
  configVersionId : Nat
  accountId : Text
  sourceId : Text
  categoryId : Nat
  ruleVersionId : Nat
deriving DecidableEq

def StagedTransactionCategory.identity (link : StagedTransactionCategory) : Identity :=
  (link.accountId, link.sourceId)

structure RefreshTables where
  refreshRuns : List RefreshRun
  refreshBatches : List RefreshBatch
  stagedTransactions : List StagedTransaction
  stagedTransactionCategories : List StagedTransactionCategory
deriving DecidableEq

/-! ## Live transactions -/

structure Transaction where
  accountId : Text
  accountName : Option Text
  sourceId : Text
  transactionDate : Date
  amount : Decimal
  currency : Text
  pending : Bool
  merchant : Option Text
  name : Option Text
  refunded : Bool
  refundAmount : Decimal
  pendingSourceId : Option Text
  sourceHash : Text
  configVersionId : Nat
  firstRefreshRunId : Nat
  lastRefreshRunId : Nat
  firstSeenAt : Datetime
  lastSeenAt : Datetime
deriving DecidableEq

def Transaction.identity (transaction : Transaction) : Identity :=
  (transaction.accountId, transaction.sourceId)

structure TransactionCategory where
  accountId : Text
  sourceId : Text
  categoryId : Nat
  configVersionId : Nat
  ruleVersionId : Nat
deriving DecidableEq

def TransactionCategory.identity (link : TransactionCategory) : Identity :=
  (link.accountId, link.sourceId)

structure LedgerTables where
  transactions : List Transaction
  transactionCategories : List TransactionCategory
deriving DecidableEq

/-- The single row with `id = 1`. -/
structure SyncState where
  configVersionId : Nat
  lastRefreshRunId : Nat
  revision : Nat
  updatedAt : Datetime
deriving DecidableEq

structure Database where
  config : ConfigTables
  refresh : RefreshTables
  ledger : LedgerTables
  syncState : Option SyncState
deriving DecidableEq

def Database.empty : Database where
  config := ⟨[], [], [], []⟩
  refresh := ⟨[], [], [], []⟩
  ledger := ⟨[], []⟩
  syncState := none

/-! ## Queries -/

namespace ConfigTables

variable (tables : ConfigTables)

def category (id : Nat) : Option Category := Table.get Category.id tables.categories id

def categoryByKey (key : Text) : Option Category := Table.get Category.key tables.categories key

def ruleVersion (id : Nat) : Option RuleVersion := Table.get RuleVersion.id tables.ruleVersions id

def configVersion (id : Nat) : Option ConfigVersion :=
  Table.get ConfigVersion.id tables.configVersions id

/-- `where(ConfigVersion.status == ACTIVE)` -/
def active : Option ConfigVersion :=
  tables.configVersions.find? fun config => config.status = .active

/-- `where(ConfigVersion.status == PENDING).order_by(version.desc())` -/
def pending : Option ConfigVersion :=
  (Sorting.sortedOn (fun config : ConfigVersion => OrderDual.toDual config.version)
    (tables.configVersions.filter fun config => config.status = .pending)).head?

end ConfigTables

namespace RefreshTables

variable (tables : RefreshTables)

def run (id : Nat) : Option RefreshRun := Table.get RefreshRun.id tables.refreshRuns id

def batch (runId batchIndex : Nat) : Option RefreshBatch :=
  Table.get (fun batch : RefreshBatch => (batch.runId, batch.batchIndex)) tables.refreshBatches
    (runId, batchIndex)

def batchesOf (runId : Nat) : List RefreshBatch :=
  tables.refreshBatches.filter fun batch => batch.runId = runId

def stagedOf (runId : Nat) : List StagedTransaction :=
  tables.stagedTransactions.filter fun staged => staged.runId = runId

def stagedCategoriesOf (runId : Nat) (identity : Identity) : List StagedTransactionCategory :=
  tables.stagedTransactionCategories.filter fun link =>
    link.runId = runId ∧ link.identity = identity

end RefreshTables

namespace LedgerTables

variable (tables : LedgerTables)

def transaction (identity : Identity) : Option Transaction :=
  Table.get Transaction.identity tables.transactions identity

end LedgerTables

end RollingBudget
