import RollingBudget.Database.MoneyCodec
import RollingBudget.Guards.Tables

namespace RollingBudget

open SingleUser

/-! What the SQLite schema at its last revision enforces on the rows: the checks, the unique
constraints and the foreign keys of `0001_initial` on the configuration tables and those of
`0003_single_user` on the others. A unique constraint that contains the primary key is left
out, as are checks that the type of the column makes true. -/

/-! ## Checks on single rows -/

/-- `budget_limit_nonnegative`: the column counts ten-thousandths. -/
def Category.Checks (category : Category) : Prop :=
  0 ≤ MoneyCodec.signedUnits category.budgetLimit

instance (category : Category) : Decidable category.Checks := inferInstanceAs (Decidable (_ ≤ _))

/-- `version_positive`, `lookback_days_range` and `rule_hash_sha256` -/
def RuleVersion.Checks (rule : RuleVersion) : Prop :=
  0 < rule.version ∧ (0 < rule.lookbackDays ∧ rule.lookbackDays ≤ 3660) ∧ IsSha256 rule.ruleHash

instance (rule : RuleVersion) : Decidable rule.Checks := inferInstanceAs (Decidable (_ ∧ _))

namespace ConfigVersion

structure Checks (config : ConfigVersion) : Prop where
  version : 0 < config.version
  aggregationVersion : 0 < config.aggregationVersion
  configHash : IsSha256 config.configHash
  active : config.status = .active → config.activatedAt.isSome
  superseded : config.status = .superseded → config.supersededAt.isSome

instance (config : ConfigVersion) : Decidable config.Checks :=
  decidable_of_iff
    (0 < config.version ∧ 0 < config.aggregationVersion ∧ IsSha256 config.configHash ∧
      (config.status = .active → config.activatedAt.isSome) ∧
      (config.status = .superseded → config.supersededAt.isSome))
    ⟨fun ⟨a, b, c, d, e⟩ => ⟨a, b, c, d, e⟩, fun ⟨a, b, c, d, e⟩ => ⟨a, b, c, d, e⟩⟩

end ConfigVersion

namespace RefreshRun

/-- What `committed_refresh_complete` asks of a committed run. -/
structure Complete (run : RefreshRun) : Prop where
  batchCount : run.expectedBatchCount = some run.receivedBatchCount
  checksum : run.computedChecksum.isSome
  completedAccounts : run.completedAccounts.isSome
  uploadedAt : run.expectedBatchCount = some 0 ∨ run.uploadedAt.isSome
  validatedAt : run.validatedAt.isSome
  committedAt : run.committedAt.isSome

instance (run : RefreshRun) : Decidable run.Complete :=
  decidable_of_iff
    (run.expectedBatchCount = some run.receivedBatchCount ∧ run.computedChecksum.isSome ∧
      run.completedAccounts.isSome ∧ (run.expectedBatchCount = some 0 ∨ run.uploadedAt.isSome) ∧
      run.validatedAt.isSome ∧ run.committedAt.isSome)
    ⟨fun ⟨a, b, c, d, e, f⟩ => ⟨a, b, c, d, e, f⟩, fun ⟨a, b, c, d, e, f⟩ => ⟨a, b, c, d, e, f⟩⟩

/-- The services leave `failed_at` null, so `failed_has_timestamp` excludes failed runs. -/
structure Checks (run : RefreshRun) : Prop where
  dates : run.sourceFromDate ≤ run.sourceToDate
  requestHash : IsSha256 run.requestHash
  computedChecksum : ∀ checksum ∈ run.computedChecksum, IsSha256 checksum
  failed : run.state ≠ .failed
  committed : run.state = .committed → run.Complete

instance (run : RefreshRun) : Decidable run.Checks :=
  decidable_of_iff
    (run.sourceFromDate ≤ run.sourceToDate ∧ IsSha256 run.requestHash ∧
      (∀ checksum ∈ run.computedChecksum, IsSha256 checksum) ∧ run.state ≠ .failed ∧
      (run.state = .committed → run.Complete))
    ⟨fun ⟨a, b, c, d, e⟩ => ⟨a, b, c, d, e⟩, fun ⟨a, b, c, d, e⟩ => ⟨a, b, c, d, e⟩⟩

end RefreshRun

/-- `request_hash_sha256` and `checksum_sha256` -/
def RefreshBatch.Checks (batch : RefreshBatch) : Prop :=
  IsSha256 batch.requestHash ∧ IsSha256 batch.checksum

instance (batch : RefreshBatch) : Decidable batch.Checks := inferInstanceAs (Decidable (_ ∧ _))

/-- `amount_nonnegative`, `refund_amount_nonnegative` and `refund_consistent` -/
def AmountChecks (amount refundAmount : Decimal) (refunded : Bool) : Prop :=
  0 ≤ MoneyCodec.signedUnits amount ∧ 0 ≤ MoneyCodec.signedUnits refundAmount ∧
    ((refunded = false ∧ MoneyCodec.signedUnits refundAmount = 0) ∨
      (refunded = true ∧ 0 < MoneyCodec.signedUnits refundAmount ∧
        MoneyCodec.signedUnits refundAmount ≤ MoneyCodec.signedUnits amount))

instance (amount refundAmount : Decimal) (refunded : Bool) :
    Decidable (AmountChecks amount refundAmount refunded) :=
  inferInstanceAs (Decidable (_ ∧ _))

def StagedTransaction.Checks (staged : StagedTransaction) : Prop :=
  AmountChecks staged.amount staged.refundAmount staged.refunded ∧ IsSha256 staged.sourceHash

instance (staged : StagedTransaction) : Decidable staged.Checks :=
  inferInstanceAs (Decidable (_ ∧ _))

def Transaction.Checks (transaction : Transaction) : Prop :=
  AmountChecks transaction.amount transaction.refundAmount transaction.refunded ∧
    IsSha256 transaction.sourceHash

instance (transaction : Transaction) : Decidable transaction.Checks :=
  inferInstanceAs (Decidable (_ ∧ _))

/-! ## Keys -/

def RuleVersion.ownerKey (rule : RuleVersion) : Nat × Nat := (rule.id, rule.categoryId)

def ConfigVersionRule.ownerKey (link : ConfigVersionRule) : Nat × Nat :=
  (link.ruleVersionId, link.categoryId)

def ConfigVersionRule.key (link : ConfigVersionRule) : Nat × Nat :=
  (link.configVersionId, link.categoryId)

/-- `uq_refresh_runs_id_config` -/
def RefreshRun.configKey (run : RefreshRun) : Nat × Nat := (run.id, run.configVersionId)

def RefreshBatch.key (batch : RefreshBatch) : Nat × Nat := (batch.runId, batch.batchIndex)

def StagedTransaction.key (staged : StagedTransaction) : Nat × Text × Text :=
  (staged.runId, staged.accountId, staged.sourceId)

def StagedTransaction.runKey (staged : StagedTransaction) : Nat × Nat :=
  (staged.runId, staged.configVersionId)

def StagedTransaction.batchKey (staged : StagedTransaction) : Nat × Nat :=
  (staged.runId, staged.batchIndex)

/-- `uq_staged_transactions_identity_config` -/
def StagedTransaction.configKey (staged : StagedTransaction) : Nat × Text × Text × Nat :=
  (staged.runId, staged.accountId, staged.sourceId, staged.configVersionId)

def StagedTransactionCategory.key (link : StagedTransactionCategory) :
    Nat × Text × Text × Nat :=
  (link.runId, link.accountId, link.sourceId, link.categoryId)

def StagedTransactionCategory.ownerKey (link : StagedTransactionCategory) :
    Nat × Text × Text × Nat :=
  (link.runId, link.accountId, link.sourceId, link.configVersionId)

/-- The row of `config_version_rules` that a link stands for. -/
def StagedTransactionCategory.mapping (link : StagedTransactionCategory) : ConfigVersionRule :=
  ⟨link.configVersionId, link.categoryId, link.ruleVersionId⟩

def Transaction.lastRunKey (transaction : Transaction) : Nat × Nat :=
  (transaction.lastRefreshRunId, transaction.configVersionId)

/-- `uq_transactions_identity_config` -/
def Transaction.configKey (transaction : Transaction) : Identity × Nat :=
  (transaction.identity, transaction.configVersionId)

def TransactionCategory.key (link : TransactionCategory) : Identity × Nat :=
  (link.identity, link.categoryId)

def TransactionCategory.ownerKey (link : TransactionCategory) : Identity × Nat :=
  (link.identity, link.configVersionId)

def TransactionCategory.mapping (link : TransactionCategory) : ConfigVersionRule :=
  ⟨link.configVersionId, link.categoryId, link.ruleVersionId⟩

def SyncState.runKey (state : SyncState) : Nat × Nat :=
  (state.lastRefreshRunId, state.configVersionId)

/-! ## Constraints on tables -/

structure ConfigTables.Constraints (tables : ConfigTables) : Prop where
  categories : Admits Category.Checks Category.id tables.categories
  categoryKeys : (tables.categories.map Category.key).Nodup
  ruleVersions : Admits RuleVersion.Checks RuleVersion.id tables.ruleVersions
  ruleNumbers : (tables.ruleVersions.map fun rule => (rule.categoryId, rule.version)).Nodup
  ruleHashes : (tables.ruleVersions.map fun rule => (rule.categoryId, rule.ruleHash)).Nodup
  ruleCategories : Refers tables.ruleVersions RuleVersion.categoryId tables.categories Category.id
  configVersions : Admits ConfigVersion.Checks ConfigVersion.id tables.configVersions
  versionNumbers : (tables.configVersions.map ConfigVersion.version).Nodup
  oneActive : (tables.configVersions.filter fun config => config.status = .active).length ≤ 1
  links : (tables.configVersionRules.map ConfigVersionRule.key).Nodup
  linkConfigs : Refers tables.configVersionRules ConfigVersionRule.configVersionId
    tables.configVersions ConfigVersion.id
  linkRules : Refers tables.configVersionRules ConfigVersionRule.ownerKey tables.ruleVersions
    RuleVersion.ownerKey

structure RefreshTables.Constraints (tables : RefreshTables) (config : ConfigTables) : Prop where
  runs : Admits RefreshRun.Checks RefreshRun.id tables.refreshRuns
  runNames : (tables.refreshRuns.map RefreshRun.idempotencyKey).Nodup
  runConfigs : Refers tables.refreshRuns RefreshRun.configVersionId config.configVersions
    ConfigVersion.id
  batches : Admits RefreshBatch.Checks RefreshBatch.key tables.refreshBatches
  batchNames : (tables.refreshBatches.map fun batch => (batch.runId, batch.idempotencyKey)).Nodup
  batchRuns : Refers tables.refreshBatches RefreshBatch.runId tables.refreshRuns RefreshRun.id
  staged : Admits StagedTransaction.Checks StagedTransaction.key tables.stagedTransactions
  stagedRuns : Refers tables.stagedTransactions StagedTransaction.runKey tables.refreshRuns
    RefreshRun.configKey
  stagedBatches : Refers tables.stagedTransactions StagedTransaction.batchKey
    tables.refreshBatches RefreshBatch.key
  stagedLinks : (tables.stagedTransactionCategories.map StagedTransactionCategory.key).Nodup
  stagedOwners : Refers tables.stagedTransactionCategories StagedTransactionCategory.ownerKey
    tables.stagedTransactions StagedTransaction.configKey
  stagedRules : Refers tables.stagedTransactionCategories StagedTransactionCategory.mapping
    config.configVersionRules id

structure LedgerTables.Constraints (tables : LedgerTables) (config : ConfigTables)
    (refresh : RefreshTables) : Prop where
  transactions : Admits Transaction.Checks Transaction.identity tables.transactions
  firstRuns : Refers tables.transactions Transaction.firstRefreshRunId refresh.refreshRuns
    RefreshRun.id
  lastRuns : Refers tables.transactions Transaction.lastRunKey refresh.refreshRuns
    RefreshRun.configKey
  links : (tables.transactionCategories.map TransactionCategory.key).Nodup
  owners : Refers tables.transactionCategories TransactionCategory.ownerKey tables.transactions
    Transaction.configKey
  rules : Refers tables.transactionCategories TransactionCategory.mapping
    config.configVersionRules id

/-- The type of the column leaves room for one row of `sync_states` only. -/
structure Database.Constraints (database : Database) : Prop where
  config : database.config.Constraints
  refresh : database.refresh.Constraints database.config
  ledger : database.ledger.Constraints database.config database.refresh
  syncRuns : Refers database.syncState.toList SyncState.runKey database.refresh.refreshRuns
    RefreshRun.configKey

/-! ## Constraints can be evaluated -/

instance (tables : ConfigTables) : Decidable tables.Constraints :=
  decidable_of_iff
    (Admits Category.Checks Category.id tables.categories ∧
      (tables.categories.map Category.key).Nodup ∧
      Admits RuleVersion.Checks RuleVersion.id tables.ruleVersions ∧
      (tables.ruleVersions.map fun rule => (rule.categoryId, rule.version)).Nodup ∧
      (tables.ruleVersions.map fun rule => (rule.categoryId, rule.ruleHash)).Nodup ∧
      Refers tables.ruleVersions RuleVersion.categoryId tables.categories Category.id ∧
      Admits ConfigVersion.Checks ConfigVersion.id tables.configVersions ∧
      (tables.configVersions.map ConfigVersion.version).Nodup ∧
      (tables.configVersions.filter fun config => config.status = .active).length ≤ 1 ∧
      (tables.configVersionRules.map ConfigVersionRule.key).Nodup ∧
      Refers tables.configVersionRules ConfigVersionRule.configVersionId tables.configVersions
        ConfigVersion.id ∧
      Refers tables.configVersionRules ConfigVersionRule.ownerKey tables.ruleVersions
        RuleVersion.ownerKey)
    ⟨fun ⟨a, b, c, d, e, f, g, h, i, j, k, l⟩ => ⟨a, b, c, d, e, f, g, h, i, j, k, l⟩,
      fun ⟨a, b, c, d, e, f, g, h, i, j, k, l⟩ => ⟨a, b, c, d, e, f, g, h, i, j, k, l⟩⟩

instance (config : ConfigTables) (tables : RefreshTables) : Decidable (tables.Constraints config) :=
  decidable_of_iff
    (Admits RefreshRun.Checks RefreshRun.id tables.refreshRuns ∧
      (tables.refreshRuns.map RefreshRun.idempotencyKey).Nodup ∧
      Refers tables.refreshRuns RefreshRun.configVersionId config.configVersions
        ConfigVersion.id ∧
      Admits RefreshBatch.Checks RefreshBatch.key tables.refreshBatches ∧
      (tables.refreshBatches.map fun batch => (batch.runId, batch.idempotencyKey)).Nodup ∧
      Refers tables.refreshBatches RefreshBatch.runId tables.refreshRuns RefreshRun.id ∧
      Admits StagedTransaction.Checks StagedTransaction.key tables.stagedTransactions ∧
      Refers tables.stagedTransactions StagedTransaction.runKey tables.refreshRuns
        RefreshRun.configKey ∧
      Refers tables.stagedTransactions StagedTransaction.batchKey tables.refreshBatches
        RefreshBatch.key ∧
      (tables.stagedTransactionCategories.map StagedTransactionCategory.key).Nodup ∧
      Refers tables.stagedTransactionCategories StagedTransactionCategory.ownerKey
        tables.stagedTransactions StagedTransaction.configKey ∧
      Refers tables.stagedTransactionCategories StagedTransactionCategory.mapping
        config.configVersionRules id)
    ⟨fun ⟨a, b, c, d, e, f, g, h, i, j, k, l⟩ => ⟨a, b, c, d, e, f, g, h, i, j, k, l⟩,
      fun ⟨a, b, c, d, e, f, g, h, i, j, k, l⟩ => ⟨a, b, c, d, e, f, g, h, i, j, k, l⟩⟩

instance (config : ConfigTables) (refresh : RefreshTables) (tables : LedgerTables) :
    Decidable (tables.Constraints config refresh) :=
  decidable_of_iff
    (Admits Transaction.Checks Transaction.identity tables.transactions ∧
      Refers tables.transactions Transaction.firstRefreshRunId refresh.refreshRuns
        RefreshRun.id ∧
      Refers tables.transactions Transaction.lastRunKey refresh.refreshRuns
        RefreshRun.configKey ∧
      (tables.transactionCategories.map TransactionCategory.key).Nodup ∧
      Refers tables.transactionCategories TransactionCategory.ownerKey tables.transactions
        Transaction.configKey ∧
      Refers tables.transactionCategories TransactionCategory.mapping config.configVersionRules id)
    ⟨fun ⟨a, b, c, d, e, f⟩ => ⟨a, b, c, d, e, f⟩, fun ⟨a, b, c, d, e, f⟩ => ⟨a, b, c, d, e, f⟩⟩

instance (database : Database) : Decidable database.Constraints :=
  decidable_of_iff
    (database.config.Constraints ∧ database.refresh.Constraints database.config ∧
      database.ledger.Constraints database.config database.refresh ∧
      Refers database.syncState.toList SyncState.runKey database.refresh.refreshRuns
        RefreshRun.configKey)
    ⟨fun ⟨a, b, c, d⟩ => ⟨a, b, c, d⟩, fun ⟨a, b, c, d⟩ => ⟨a, b, c, d⟩⟩

end RollingBudget
