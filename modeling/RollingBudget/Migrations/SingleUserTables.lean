import RollingBudget.Database.Models
import RollingBudget.Foundation.JsonReader

namespace RollingBudget.SingleUser

/-! The tables before and after revision `0003_single_user`, and what the two schemas enforce
on their rows. A JSON column holds the document that `_json_value` reads from it, an amount
counts ten-thousandths, and a number that must not be negative is a natural number. -/

/-! ## Configuration tables -/

structure ConfigVersionRow where
  id : Nat
  version : Nat
  status : ConfigVersionStatus
  timezone : Text
  displayCurrency : Text
  aggregationVersion : Nat
  configHash : Text
  sourceConfig : JsonValue
  createdAt : Datetime
  activatedAt : Option Datetime
  supersededAt : Option Datetime

/-- The tables whose columns the revision keeps. -/
structure ConfigContent where
  categories : List Category
  ruleVersions : List RuleVersion
  configVersions : List ConfigVersionRow
  configVersionRules : List ConfigVersionRule

/-! ## Revision `0002_oauth` -/

inductive StagedDecision where
  | store
  | skip
deriving DecidableEq

inductive TransactionStatus where
  | pending
  | posted
deriving DecidableEq

structure LegacyRun where
  id : Nat
  idempotencyKey : Text
  requestHash : Text
  mode : RefreshMode
  state : RefreshRunState
  configVersionId : Nat
  scopeKey : Text
  sourceFromDate : Option Date
  sourceToDate : Option Date
  expectedAccounts : JsonValue
  accountManifest : Option JsonValue
  expectedBatchCount : Option Nat
  expectedSourceCount : Option Nat
  expectedStoreCount : Option Nat
  expectedSkipCount : Option Nat
  sourceComplete : Bool
  inputChecksum : Option Text
  computedChecksum : Option Text
  cursorBefore : Option JsonValue
  cursorAfter : Option JsonValue
  receivedBatchCount : Nat
  actualSourceCount : Nat
  actualStoreCount : Nat
  actualSkipCount : Nat
  createdAt : Datetime
  uploadedAt : Option Datetime
  validatedAt : Option Datetime
  committedAt : Option Datetime
  failedAt : Option Datetime
  errorCode : Option Text

structure LegacyBatch where
  runId : Nat
  batchIndex : Nat
  idempotencyKey : Text
  requestHash : Text
  checksum : Text
  itemCount : Nat
  storeCount : Nat
  skipCount : Nat
  createdAt : Datetime

structure LegacyStagedTransaction where
  runId : Nat
  scopeKey : Text
  configVersionId : Nat
  accountId : Text
  sourceTransactionId : Text
  batchIndex : Nat
  decision : StagedDecision
  transactionDate : Option Date
  amount : Option Nat
  currency : Option Text
  status : Option TransactionStatus
  merchant : Option Text
  description : Option Text
  refunded : Bool
  refundAmount : Nat
  supersedesSourceTransactionId : Option Text
  sourceHash : Text

structure LegacyStagedTransactionCategory where
  runId : Nat
  scopeKey : Text
  configVersionId : Nat
  accountId : Text
  sourceTransactionId : Text
  categoryId : Nat
  ruleVersionId : Nat

structure LegacyTransaction where
  scopeKey : Text
  accountId : Text
  sourceTransactionId : Text
  transactionDate : Date
  amount : Nat
  currency : Text
  status : TransactionStatus
  merchant : Option Text
  description : Option Text
  refunded : Bool
  refundAmount : Nat
  supersedesSourceTransactionId : Option Text
  sourceHash : Text
  configVersionId : Nat
  firstRefreshRunId : Nat
  lastRefreshRunId : Nat
  firstSeenAt : Datetime
  lastSeenAt : Datetime

structure LegacyTransactionCategory where
  scopeKey : Text
  accountId : Text
  sourceTransactionId : Text
  categoryId : Nat
  configVersionId : Nat
  ruleVersionId : Nat

structure LegacySyncState where
  scopeKey : Text
  cursor : JsonValue
  cursorHash : Text
  configVersionId : Nat
  lastRefreshRunId : Nat
  revision : Nat
  updatedAt : Datetime

structure LegacyDatabase extends ConfigContent where
  refreshRuns : List LegacyRun
  refreshBatches : List LegacyBatch
  stagedTransactions : List LegacyStagedTransaction
  stagedTransactionCategories : List LegacyStagedTransactionCategory
  transactions : List LegacyTransaction
  transactionCategories : List LegacyTransactionCategory
  syncStates : List LegacySyncState

/-! ## Revision `0003_single_user` -/

structure RunRow where
  id : Nat
  idempotencyKey : Text
  requestHash : Text
  mode : RefreshMode
  state : RefreshRunState
  configVersionId : Nat
  sourceFromDate : Option Date
  sourceToDate : Option Date
  expectedAccounts : JsonValue
  completedAccounts : Option JsonValue
  expectedBatchCount : Option Nat
  computedChecksum : Option Text
  syncRevisionBefore : Option Nat
  receivedBatchCount : Nat
  actualItemCount : Nat
  createdAt : Datetime
  uploadedAt : Option Datetime
  validatedAt : Option Datetime
  committedAt : Option Datetime
  failedAt : Option Datetime
  errorCode : Option Text

structure BatchRow where
  runId : Nat
  batchIndex : Nat
  idempotencyKey : Text
  requestHash : Text
  checksum : Text
  itemCount : Nat
  createdAt : Datetime

structure StagedTransactionRow where
  runId : Nat
  configVersionId : Nat
  accountId : Text
  accountName : Option Text
  sourceId : Text
  batchIndex : Nat
  transactionDate : Date
  amount : Nat
  currency : Text
  pending : Bool
  merchant : Option Text
  name : Option Text
  refunded : Bool
  refundAmount : Nat
  pendingSourceId : Option Text
  sourceHash : Text

structure TransactionRow where
  accountId : Text
  accountName : Option Text
  sourceId : Text
  transactionDate : Date
  amount : Nat
  currency : Text
  pending : Bool
  merchant : Option Text
  name : Option Text
  refunded : Bool
  refundAmount : Nat
  pendingSourceId : Option Text
  sourceHash : Text
  configVersionId : Nat
  firstRefreshRunId : Nat
  lastRefreshRunId : Nat
  firstSeenAt : Datetime
  lastSeenAt : Datetime

/-- Every row of `sync_states` has the number 1, which is left out. -/
structure SingleUserDatabase extends ConfigContent where
  refreshRuns : List RunRow
  refreshBatches : List BatchRow
  stagedTransactions : List StagedTransactionRow
  stagedTransactionCategories : List StagedTransactionCategory
  transactions : List TransactionRow
  transactionCategories : List TransactionCategory
  syncStates : List SyncState

/-! ## Checks on single rows -/

/-- `refund_consistent` -/
def RefundConsistent (refunded : Bool) (refundAmount amount : Nat) : Prop :=
  (refunded = false ∧ refundAmount = 0) ∨
    (refunded = true ∧ 0 < refundAmount ∧ refundAmount ≤ amount)

instance (refunded : Bool) (refundAmount amount : Nat) :
    Decidable (RefundConsistent refunded refundAmount amount) :=
  inferInstanceAs (Decidable (_ ∨ _))

/-- `length(...) = 64` -/
def IsSha256 (digest : Text) : Prop := digest.length = 64

instance (digest : Text) : Decidable (IsSha256 digest) := inferInstanceAs (Decidable (_ = _))

/-- `source_date_range` -/
def DateRange (sourceFromDate sourceToDate : Option Date) : Prop :=
  ∀ first ∈ sourceFromDate, ∀ last ∈ sourceToDate, first ≤ last

instance (sourceFromDate sourceToDate : Option Date) :
    Decidable (DateRange sourceFromDate sourceToDate) :=
  inferInstanceAs (Decidable (∀ first ∈ sourceFromDate, ∀ last ∈ sourceToDate, first ≤ last))

namespace LegacyRun

/-- What `committed_manifest_complete` asks of a committed run. -/
structure ManifestComplete (run : LegacyRun) : Prop where
  sourceComplete : run.sourceComplete = true
  batchCount : run.expectedBatchCount = some run.receivedBatchCount
  sourceCount : run.expectedSourceCount = some run.actualSourceCount
  storeCount : run.expectedStoreCount = some run.actualStoreCount
  skipCount : run.expectedSkipCount = some run.actualSkipCount
  checksum : run.computedChecksum.isSome
  inputChecksum : run.inputChecksum = run.computedChecksum
  accountManifest : run.accountManifest.isSome
  uploadedAt : run.expectedBatchCount = some 0 ∨ run.uploadedAt.isSome
  validatedAt : run.validatedAt.isSome
  committedAt : run.committedAt.isSome

instance (run : LegacyRun) : Decidable run.ManifestComplete :=
  decidable_of_iff
    (run.sourceComplete = true ∧ run.expectedBatchCount = some run.receivedBatchCount ∧
      run.expectedSourceCount = some run.actualSourceCount ∧
      run.expectedStoreCount = some run.actualStoreCount ∧
      run.expectedSkipCount = some run.actualSkipCount ∧ run.computedChecksum.isSome ∧
      run.inputChecksum = run.computedChecksum ∧ run.accountManifest.isSome ∧
      (run.expectedBatchCount = some 0 ∨ run.uploadedAt.isSome) ∧ run.validatedAt.isSome ∧
      run.committedAt.isSome)
    ⟨fun ⟨a, b, c, d, e, f, g, h, i, j, k⟩ => ⟨a, b, c, d, e, f, g, h, i, j, k⟩,
      fun ⟨a, b, c, d, e, f, g, h, i, j, k⟩ => ⟨a, b, c, d, e, f, g, h, i, j, k⟩⟩

structure Checks (run : LegacyRun) : Prop where
  dates : DateRange run.sourceFromDate run.sourceToDate
  actualCounts : run.actualStoreCount + run.actualSkipCount = run.actualSourceCount
  expectedCounts : ∀ source ∈ run.expectedSourceCount, ∀ store ∈ run.expectedStoreCount,
    ∀ skip ∈ run.expectedSkipCount, store + skip = source
  inputChecksum : ∀ checksum ∈ run.inputChecksum, IsSha256 checksum
  computedChecksum : ∀ checksum ∈ run.computedChecksum, IsSha256 checksum
  requestHash : IsSha256 run.requestHash
  failed : run.state = .failed → run.failedAt.isSome
  committed : run.state = .committed → run.ManifestComplete

instance (run : LegacyRun) : Decidable run.Checks :=
  decidable_of_iff
    (DateRange run.sourceFromDate run.sourceToDate ∧
      run.actualStoreCount + run.actualSkipCount = run.actualSourceCount ∧
      (∀ source ∈ run.expectedSourceCount, ∀ store ∈ run.expectedStoreCount,
        ∀ skip ∈ run.expectedSkipCount, store + skip = source) ∧
      (∀ checksum ∈ run.inputChecksum, IsSha256 checksum) ∧
      (∀ checksum ∈ run.computedChecksum, IsSha256 checksum) ∧ IsSha256 run.requestHash ∧
      (run.state = .failed → run.failedAt.isSome) ∧
      (run.state = .committed → run.ManifestComplete))
    ⟨fun ⟨a, b, c, d, e, f, g, h⟩ => ⟨a, b, c, d, e, f, g, h⟩,
      fun ⟨a, b, c, d, e, f, g, h⟩ => ⟨a, b, c, d, e, f, g, h⟩⟩

end LegacyRun

def LegacyBatch.Checks (batch : LegacyBatch) : Prop :=
  batch.storeCount + batch.skipCount = batch.itemCount ∧ IsSha256 batch.requestHash ∧
    IsSha256 batch.checksum

instance (batch : LegacyBatch) : Decidable batch.Checks := inferInstanceAs (Decidable (_ ∧ _))

/-- `stored_fields_present`, `refund_consistent` and `source_hash_sha256` -/
def LegacyStagedTransaction.Checks (staged : LegacyStagedTransaction) : Prop :=
  (staged.decision = .store → staged.transactionDate.isSome ∧ staged.amount.isSome ∧
      staged.currency.isSome ∧ staged.status.isSome) ∧
    ((staged.refunded = false ∧ staged.refundAmount = 0) ∨
      ∃ amount ∈ staged.amount, staged.refunded = true ∧ 0 < staged.refundAmount ∧
        staged.refundAmount ≤ amount) ∧
    IsSha256 staged.sourceHash

instance (staged : LegacyStagedTransaction) : Decidable staged.Checks :=
  inferInstanceAs (Decidable (_ ∧ _))

def LegacyTransaction.Checks (transaction : LegacyTransaction) : Prop :=
  RefundConsistent transaction.refunded transaction.refundAmount transaction.amount ∧
    IsSha256 transaction.sourceHash

instance (transaction : LegacyTransaction) : Decidable transaction.Checks :=
  inferInstanceAs (Decidable (_ ∧ _))

namespace RunRow

/-- What `committed_refresh_complete` asks of a committed run. -/
structure Complete (run : RunRow) : Prop where
  batchCount : run.expectedBatchCount = some run.receivedBatchCount
  checksum : run.computedChecksum.isSome
  completedAccounts : run.completedAccounts.isSome
  uploadedAt : run.expectedBatchCount = some 0 ∨ run.uploadedAt.isSome
  validatedAt : run.validatedAt.isSome
  committedAt : run.committedAt.isSome

instance (run : RunRow) : Decidable run.Complete :=
  decidable_of_iff
    (run.expectedBatchCount = some run.receivedBatchCount ∧ run.computedChecksum.isSome ∧
      run.completedAccounts.isSome ∧ (run.expectedBatchCount = some 0 ∨ run.uploadedAt.isSome) ∧
      run.validatedAt.isSome ∧ run.committedAt.isSome)
    ⟨fun ⟨a, b, c, d, e, f⟩ => ⟨a, b, c, d, e, f⟩, fun ⟨a, b, c, d, e, f⟩ => ⟨a, b, c, d, e, f⟩⟩

structure Checks (run : RunRow) : Prop where
  dates : DateRange run.sourceFromDate run.sourceToDate
  computedChecksum : ∀ checksum ∈ run.computedChecksum, IsSha256 checksum
  requestHash : IsSha256 run.requestHash
  failed : run.state = .failed → run.failedAt.isSome
  committed : run.state = .committed → run.Complete

instance (run : RunRow) : Decidable run.Checks :=
  decidable_of_iff
    (DateRange run.sourceFromDate run.sourceToDate ∧
      (∀ checksum ∈ run.computedChecksum, IsSha256 checksum) ∧ IsSha256 run.requestHash ∧
      (run.state = .failed → run.failedAt.isSome) ∧ (run.state = .committed → run.Complete))
    ⟨fun ⟨a, b, c, d, e⟩ => ⟨a, b, c, d, e⟩, fun ⟨a, b, c, d, e⟩ => ⟨a, b, c, d, e⟩⟩

end RunRow

def BatchRow.Checks (batch : BatchRow) : Prop :=
  IsSha256 batch.requestHash ∧ IsSha256 batch.checksum

instance (batch : BatchRow) : Decidable batch.Checks := inferInstanceAs (Decidable (_ ∧ _))

def StagedTransactionRow.Checks (staged : StagedTransactionRow) : Prop :=
  RefundConsistent staged.refunded staged.refundAmount staged.amount ∧ IsSha256 staged.sourceHash

instance (staged : StagedTransactionRow) : Decidable staged.Checks :=
  inferInstanceAs (Decidable (_ ∧ _))

def TransactionRow.Checks (transaction : TransactionRow) : Prop :=
  RefundConsistent transaction.refunded transaction.refundAmount transaction.amount ∧
    IsSha256 transaction.sourceHash

instance (transaction : TransactionRow) : Decidable transaction.Checks :=
  inferInstanceAs (Decidable (_ ∧ _))

/-! ## Constraints on tables

A unique constraint that contains the primary key is left out. -/

section Admits

variable {α β κ : Type} [DecidableEq κ]

/-- The rows pass their checks, and no two have one key. -/
def Admits (checks : α → Prop) (key : α → κ) (rows : List α) : Prop :=
  (∀ row ∈ rows, checks row) ∧ (rows.map key).Nodup

instance (checks : α → Prop) [DecidablePred checks] (key : α → κ) (rows : List α) :
    Decidable (Admits checks key rows) :=
  inferInstanceAs (Decidable (_ ∧ _))

/-- A foreign key: each row has its parent. -/
def Refers (rows : List α) (key : α → κ) (parents : List β) (parentKey : β → κ) : Prop :=
  ∀ row ∈ rows, key row ∈ parents.map parentKey

instance (rows : List α) (key : α → κ) (parents : List β) (parentKey : β → κ) :
    Decidable (Refers rows key parents parentKey) :=
  inferInstanceAs (Decidable (∀ row ∈ rows, _))

end Admits

namespace ConfigContent

structure Constraints (content : ConfigContent) : Prop where
  categoryIds : (content.categories.map Category.id).Nodup
  categoryKeys : (content.categories.map Category.key).Nodup
  versionIds : (content.configVersions.map ConfigVersionRow.id).Nodup
  links : (content.configVersionRules.map fun link =>
    (link.configVersionId, link.categoryId)).Nodup

end ConfigContent

namespace LegacyDatabase

def AdmitsRuns (runs : List LegacyRun) : Prop :=
  Admits LegacyRun.Checks LegacyRun.id runs ∧ (runs.map LegacyRun.idempotencyKey).Nodup

instance (runs : List LegacyRun) : Decidable (AdmitsRuns runs) :=
  inferInstanceAs (Decidable (_ ∧ _))

def AdmitsBatches (batches : List LegacyBatch) : Prop :=
  Admits LegacyBatch.Checks (fun batch => (batch.runId, batch.batchIndex)) batches ∧
    (batches.map fun batch => (batch.runId, batch.idempotencyKey)).Nodup

instance (batches : List LegacyBatch) : Decidable (AdmitsBatches batches) :=
  inferInstanceAs (Decidable (_ ∧ _))

def AdmitsStaged (staged : List LegacyStagedTransaction) : Prop :=
  Admits LegacyStagedTransaction.Checks
    (fun row => (row.runId, row.scopeKey, row.accountId, row.sourceTransactionId)) staged

instance (staged : List LegacyStagedTransaction) : Decidable (AdmitsStaged staged) :=
  inferInstanceAs (Decidable (Admits _ _ _))

def AdmitsStagedCategories (links : List LegacyStagedTransactionCategory) : Prop :=
  (links.map fun link =>
    (link.runId, link.scopeKey, link.accountId, link.sourceTransactionId, link.categoryId)).Nodup

instance (links : List LegacyStagedTransactionCategory) :
    Decidable (AdmitsStagedCategories links) :=
  inferInstanceAs (Decidable (List.Nodup _))

def AdmitsTransactions (transactions : List LegacyTransaction) : Prop :=
  Admits LegacyTransaction.Checks
    (fun row => (row.scopeKey, row.accountId, row.sourceTransactionId)) transactions

instance (transactions : List LegacyTransaction) : Decidable (AdmitsTransactions transactions) :=
  inferInstanceAs (Decidable (Admits _ _ _))

def AdmitsCategories (links : List LegacyTransactionCategory) : Prop :=
  (links.map fun link =>
    (link.scopeKey, link.accountId, link.sourceTransactionId, link.categoryId)).Nodup

instance (links : List LegacyTransactionCategory) : Decidable (AdmitsCategories links) :=
  inferInstanceAs (Decidable (List.Nodup _))

def AdmitsSyncStates (states : List LegacySyncState) : Prop :=
  Admits (fun state => IsSha256 state.cursorHash) LegacySyncState.scopeKey states ∧
    (states.map LegacySyncState.lastRefreshRunId).Nodup

instance (states : List LegacySyncState) : Decidable (AdmitsSyncStates states) :=
  inferInstanceAs (Decidable (_ ∧ _))

def runKey (run : LegacyRun) : Nat × Text × Nat := (run.id, run.scopeKey, run.configVersionId)

/-- The foreign keys of runs, batches and staged rows. -/
structure StagingKeys (legacy : LegacyDatabase) : Prop where
  runConfigs : Refers legacy.refreshRuns LegacyRun.configVersionId legacy.configVersions
    ConfigVersionRow.id
  batchRuns : Refers legacy.refreshBatches LegacyBatch.runId legacy.refreshRuns LegacyRun.id
  stagedRuns : Refers legacy.stagedTransactions
    (fun staged => (staged.runId, staged.scopeKey, staged.configVersionId))
    legacy.refreshRuns runKey
  stagedBatches : Refers legacy.stagedTransactions
    (fun staged => (staged.runId, staged.batchIndex))
    legacy.refreshBatches fun batch => (batch.runId, batch.batchIndex)
  stagedCategories : Refers legacy.stagedTransactionCategories
    (fun link => (link.runId, link.scopeKey, link.accountId, link.sourceTransactionId,
      link.configVersionId))
    legacy.stagedTransactions fun staged => (staged.runId, staged.scopeKey, staged.accountId,
      staged.sourceTransactionId, staged.configVersionId)
  stagedRules : Refers legacy.stagedTransactionCategories
    (fun link => ⟨link.configVersionId, link.categoryId, link.ruleVersionId⟩)
    legacy.configVersionRules id

instance (legacy : LegacyDatabase) : Decidable legacy.StagingKeys :=
  decidable_of_iff
    (Refers _ _ _ _ ∧ Refers _ _ _ _ ∧ Refers _ _ _ _ ∧ Refers _ _ _ _ ∧ Refers _ _ _ _ ∧
      Refers _ _ _ _)
    ⟨fun ⟨a, b, c, d, e, f⟩ => ⟨a, b, c, d, e, f⟩, fun ⟨a, b, c, d, e, f⟩ => ⟨a, b, c, d, e, f⟩⟩

/-- The foreign keys of the live tables. -/
structure LedgerKeys (legacy : LegacyDatabase) : Prop where
  firstRuns : Refers legacy.transactions
    (fun transaction => (transaction.firstRefreshRunId, transaction.scopeKey))
    legacy.refreshRuns fun run => (run.id, run.scopeKey)
  lastRuns : Refers legacy.transactions
    (fun transaction =>
      (transaction.lastRefreshRunId, transaction.scopeKey, transaction.configVersionId))
    legacy.refreshRuns runKey
  categories : Refers legacy.transactionCategories
    (fun link => (link.scopeKey, link.accountId, link.sourceTransactionId, link.configVersionId))
    legacy.transactions fun transaction => (transaction.scopeKey, transaction.accountId,
      transaction.sourceTransactionId, transaction.configVersionId)
  categoryRules : Refers legacy.transactionCategories
    (fun link => ⟨link.configVersionId, link.categoryId, link.ruleVersionId⟩)
    legacy.configVersionRules id
  syncRuns : Refers legacy.syncStates
    (fun state => (state.lastRefreshRunId, state.scopeKey, state.configVersionId))
    legacy.refreshRuns runKey

instance (legacy : LegacyDatabase) : Decidable legacy.LedgerKeys :=
  decidable_of_iff
    (Refers _ _ _ _ ∧ Refers _ _ _ _ ∧ Refers _ _ _ _ ∧ Refers _ _ _ _ ∧ Refers _ _ _ _)
    ⟨fun ⟨a, b, c, d, e⟩ => ⟨a, b, c, d, e⟩, fun ⟨a, b, c, d, e⟩ => ⟨a, b, c, d, e⟩⟩

def ForeignKeys (legacy : LegacyDatabase) : Prop := legacy.StagingKeys ∧ legacy.LedgerKeys

instance (legacy : LegacyDatabase) : Decidable legacy.ForeignKeys :=
  inferInstanceAs (Decidable (_ ∧ _))

/-- What the schema of `0002_oauth` enforces. -/
structure Constraints (legacy : LegacyDatabase) : Prop where
  config : legacy.toConfigContent.Constraints
  runs : AdmitsRuns legacy.refreshRuns
  batches : AdmitsBatches legacy.refreshBatches
  staged : AdmitsStaged legacy.stagedTransactions
  stagedCategories : AdmitsStagedCategories legacy.stagedTransactionCategories
  transactions : AdmitsTransactions legacy.transactions
  categories : AdmitsCategories legacy.transactionCategories
  syncStates : AdmitsSyncStates legacy.syncStates
  foreignKeys : legacy.ForeignKeys

end LegacyDatabase

namespace SingleUserDatabase

def AdmitsRuns (runs : List RunRow) : Prop :=
  Admits RunRow.Checks RunRow.id runs ∧ (runs.map RunRow.idempotencyKey).Nodup

instance (runs : List RunRow) : Decidable (AdmitsRuns runs) :=
  inferInstanceAs (Decidable (_ ∧ _))

def AdmitsBatches (batches : List BatchRow) : Prop :=
  Admits BatchRow.Checks (fun batch => (batch.runId, batch.batchIndex)) batches ∧
    (batches.map fun batch => (batch.runId, batch.idempotencyKey)).Nodup

instance (batches : List BatchRow) : Decidable (AdmitsBatches batches) :=
  inferInstanceAs (Decidable (_ ∧ _))

def AdmitsStaged (staged : List StagedTransactionRow) : Prop :=
  Admits StagedTransactionRow.Checks (fun row => (row.runId, row.accountId, row.sourceId)) staged

instance (staged : List StagedTransactionRow) : Decidable (AdmitsStaged staged) :=
  inferInstanceAs (Decidable (Admits _ _ _))

def AdmitsStagedCategories (links : List StagedTransactionCategory) : Prop :=
  (links.map fun link => (link.runId, link.accountId, link.sourceId, link.categoryId)).Nodup

instance (links : List StagedTransactionCategory) : Decidable (AdmitsStagedCategories links) :=
  inferInstanceAs (Decidable (List.Nodup _))

def AdmitsTransactions (transactions : List TransactionRow) : Prop :=
  Admits TransactionRow.Checks (fun row => (row.accountId, row.sourceId)) transactions

instance (transactions : List TransactionRow) : Decidable (AdmitsTransactions transactions) :=
  inferInstanceAs (Decidable (Admits _ _ _))

def AdmitsCategories (links : List TransactionCategory) : Prop :=
  (links.map fun link => (link.accountId, link.sourceId, link.categoryId)).Nodup

instance (links : List TransactionCategory) : Decidable (AdmitsCategories links) :=
  inferInstanceAs (Decidable (List.Nodup _))

/-- All rows have the number 1 as their key. -/
def AdmitsSyncStates (states : List SyncState) : Prop :=
  states.length ≤ 1 ∧ (states.map SyncState.lastRefreshRunId).Nodup

instance (states : List SyncState) : Decidable (AdmitsSyncStates states) :=
  inferInstanceAs (Decidable (_ ∧ _))

def runKey (run : RunRow) : Nat × Nat := (run.id, run.configVersionId)

/-- The foreign keys of runs, batches and staged rows. -/
structure StagingKeys (content : SingleUserDatabase) : Prop where
  runConfigs : Refers content.refreshRuns RunRow.configVersionId content.configVersions
    ConfigVersionRow.id
  batchRuns : Refers content.refreshBatches BatchRow.runId content.refreshRuns RunRow.id
  stagedRuns : Refers content.stagedTransactions
    (fun staged => (staged.runId, staged.configVersionId)) content.refreshRuns runKey
  stagedBatches : Refers content.stagedTransactions
    (fun staged => (staged.runId, staged.batchIndex))
    content.refreshBatches fun batch => (batch.runId, batch.batchIndex)
  stagedCategories : Refers content.stagedTransactionCategories
    (fun link => (link.runId, link.accountId, link.sourceId, link.configVersionId))
    content.stagedTransactions fun staged =>
      (staged.runId, staged.accountId, staged.sourceId, staged.configVersionId)
  stagedRules : Refers content.stagedTransactionCategories
    (fun link => ⟨link.configVersionId, link.categoryId, link.ruleVersionId⟩)
    content.configVersionRules id

instance (content : SingleUserDatabase) : Decidable content.StagingKeys :=
  decidable_of_iff
    (Refers _ _ _ _ ∧ Refers _ _ _ _ ∧ Refers _ _ _ _ ∧ Refers _ _ _ _ ∧ Refers _ _ _ _ ∧
      Refers _ _ _ _)
    ⟨fun ⟨a, b, c, d, e, f⟩ => ⟨a, b, c, d, e, f⟩, fun ⟨a, b, c, d, e, f⟩ => ⟨a, b, c, d, e, f⟩⟩

/-- The foreign keys of the live tables. -/
structure LedgerKeys (content : SingleUserDatabase) : Prop where
  firstRuns : Refers content.transactions TransactionRow.firstRefreshRunId
    content.refreshRuns RunRow.id
  lastRuns : Refers content.transactions
    (fun transaction => (transaction.lastRefreshRunId, transaction.configVersionId))
    content.refreshRuns runKey
  categories : Refers content.transactionCategories
    (fun link => (link.accountId, link.sourceId, link.configVersionId))
    content.transactions fun transaction =>
      (transaction.accountId, transaction.sourceId, transaction.configVersionId)
  categoryRules : Refers content.transactionCategories
    (fun link => ⟨link.configVersionId, link.categoryId, link.ruleVersionId⟩)
    content.configVersionRules id
  syncRuns : Refers content.syncStates
    (fun state => (state.lastRefreshRunId, state.configVersionId)) content.refreshRuns runKey

instance (content : SingleUserDatabase) : Decidable content.LedgerKeys :=
  decidable_of_iff
    (Refers _ _ _ _ ∧ Refers _ _ _ _ ∧ Refers _ _ _ _ ∧ Refers _ _ _ _ ∧ Refers _ _ _ _)
    ⟨fun ⟨a, b, c, d, e⟩ => ⟨a, b, c, d, e⟩, fun ⟨a, b, c, d, e⟩ => ⟨a, b, c, d, e⟩⟩

def ForeignKeys (content : SingleUserDatabase) : Prop := content.StagingKeys ∧ content.LedgerKeys

instance (content : SingleUserDatabase) : Decidable content.ForeignKeys :=
  inferInstanceAs (Decidable (_ ∧ _))

/-- What the schema of `0003_single_user` enforces. -/
structure Constraints (content : SingleUserDatabase) : Prop where
  config : content.toConfigContent.Constraints
  runs : AdmitsRuns content.refreshRuns
  batches : AdmitsBatches content.refreshBatches
  staged : AdmitsStaged content.stagedTransactions
  stagedCategories : AdmitsStagedCategories content.stagedTransactionCategories
  transactions : AdmitsTransactions content.transactions
  categories : AdmitsCategories content.transactionCategories
  syncStates : AdmitsSyncStates content.syncStates
  foreignKeys : content.ForeignKeys

end SingleUserDatabase

end RollingBudget.SingleUser
