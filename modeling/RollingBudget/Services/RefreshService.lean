import RollingBudget.Services.ConfigService

namespace RollingBudget

open Sorting ServiceError ConfigService

/-! The three steps of a refresh run: `begin_refresh` freezes what the run is about,
`upload_batch` stages transactions, and `commit_refresh` checks the whole run and
publishes it to the live tables. -/

/-! ## Responses -/

structure RuleEntry where
  categoryKey : Text
  lookbackDays : Nat
  classificationInstruction : Text
  enabled : Bool
  ruleVersion : Nat
  ruleHash : Text
deriving DecidableEq

structure RefreshBeginResponse where
  runId : Nat
  state : RefreshRunState
  mode : RefreshMode
  configVersionId : Nat
  configVersion : Nat
  rules : List RuleEntry
  maxBatchItems : Nat
  maxRequestBytes : Nat
deriving DecidableEq

structure RefreshBatchResponse where
  runId : Nat
  batchIndex : Nat
  itemCount : Nat
  replayed : Bool
deriving DecidableEq

structure RefreshRunView where
  runId : Nat
  state : RefreshRunState
  mode : RefreshMode
  configVersionId : Nat
  batchCount : Nat
  itemCount : Nat
  receipt : Option Text
  createdAt : Datetime
  committedAt : Option Datetime
  errorCode : Option Text
deriving DecidableEq

namespace RefreshService

variable (environment : Environment)

/-! ## `begin_refresh` -/

/-- `_mode` -/
def mode : ModeLiteral → RefreshMode
  | .fullRebuild => .full
  | .incremental => .incremental

/-- `_begin_response` -/
def beginResponse (tables : ConfigTables) (run : RefreshRun) (config : ConfigVersion)
    (maxBatchItems maxRequestBytes : Nat) : RefreshBeginResponse where
  runId := run.id
  state := run.state
  mode := run.mode
  configVersionId := config.id
  configVersion := config.version
  rules := (rulesForConfig tables config.id).map fun row => {
    categoryKey := row.category.key
    lookbackDays := row.rule.lookbackDays
    classificationInstruction := row.rule.classificationInstruction
    enabled := row.rule.isEnabled
    ruleVersion := row.rule.version
    ruleHash := row.rule.ruleHash }
  maxBatchItems := maxBatchItems
  maxRequestBytes := maxRequestBytes

def enabledRules (tables : ConfigTables) (configId : Nat) : List LinkedRule :=
  (rulesForConfig tables configId).filter fun row => row.rule.isEnabled

/-- `max(…, default=1)` over the enabled rules. -/
def maxLookback (rules : List LinkedRule) : Nat :=
  (rules.map fun row => row.rule.lookbackDays).max?.getD 1

/-- The config version a new run is bound to. -/
def beginTarget (tables : ConfigTables) (request : RefreshBeginRequest) :
    Except ServiceError ConfigVersion := do
  let active ← orRaise (conflictError .configRequired
    "Create a configuration before refreshing".toList) tables.active
  require (¬(mode request.mode = .incremental ∧ tables.pending.isSome))
    (conflictError .fullRebuildRequired
      "A pending configuration requires a FULL_REBUILD first".toList)
  pure (if mode request.mode = .full then tables.pending.getD active else active)

/-- A full rebuild covers the longest window of its enabled rules. -/
def checkFullWindow (tables : ConfigTables) (target : ConfigVersion)
    (request : RefreshBeginRequest) : Except ServiceError Unit := do
  let lookback := maxLookback (enabledRules tables target.id)
  let requiredStart ← orRaise overflowError (request.sourceToDate.minusDays (lookback - 1))
  require (¬requiredStart < request.sourceFromDate) (conflictError .fullWindowIncomplete
    ("FULL_REBUILD must start on or before ".toList ++ requiredStart.isoformat))

/-- An incremental run continues a committed run over the same accounts. -/
def checkIncremental (database : Database) (request : RefreshBeginRequest) :
    Except ServiceError Unit := do
  let syncState ← orRaise (conflictError .fullRebuildRequired
    "The first successful refresh must be a complete FULL_REBUILD".toList) database.syncState
  require ((database.refresh.run syncState.lastRefreshRunId).all fun previous =>
      previous.expectedAccounts.toFinset = request.expectedAccounts.toFinset)
    (conflictError .accountScopeChanged
      "The connected account set changed; retry with a complete FULL_REBUILD".toList)

/-- The row `begin_refresh` adds. -/
def newRun (clock : Clock) (database : Database) (request : RefreshBeginRequest)
    (idempotencyKey : Text) (target : ConfigVersion) : RefreshRun where
  id := Table.freshId (database.refresh.refreshRuns.map RefreshRun.id)
  idempotencyKey := idempotencyKey
  requestHash := environment.sha256Hex request.toJson
  mode := mode request.mode
  state := .created
  configVersionId := target.id
  sourceFromDate := request.sourceFromDate
  sourceToDate := request.sourceToDate
  expectedAccounts := sorted request.expectedAccounts
  completedAccounts := none
  expectedBatchCount := none
  computedChecksum := none
  syncRevisionBefore := database.syncState.map SyncState.revision
  receivedBatchCount := 0
  actualItemCount := 0
  createdAt := clock.serverNow
  uploadedAt := none
  validatedAt := none
  committedAt := none
  errorCode := none

def insertRun (database : Database) (run : RefreshRun) : Database :=
  { database with refresh := { database.refresh with
      refreshRuns := database.refresh.refreshRuns ++ [run] } }

/-- `begin_refresh` -/
def beginRefresh (clock : Clock) (database : Database) (request : RefreshBeginRequest)
    (idempotencyKey : Text) (maxBatchItems maxRequestBytes : Nat) :
    Except ServiceError (Database × RefreshBeginResponse) :=
  match Table.get RefreshRun.idempotencyKey database.refresh.refreshRuns idempotencyKey with
  | some existing => do
      require (existing.requestHash = environment.sha256Hex request.toJson)
        (conflictError .idempotencyConflict
          "Idempotency-Key was already used for a different refresh request".toList)
      let config ← orRaise (conflictError .configMissing
          "Refresh configuration no longer exists".toList)
        (database.config.configVersion existing.configVersionId)
      pure (database,
        beginResponse database.config existing config maxBatchItems maxRequestBytes)
  | none => do
      let target ← beginTarget database.config request
      match mode request.mode with
      | .full => checkFullWindow database.config target request
      | .incremental => checkIncremental database request
      let run := newRun environment clock database request idempotencyKey target
      pure (insertRun database run,
        beginResponse database.config run target maxBatchItems maxRequestBytes)

/-! ## `upload_batch` -/

/-- The enabled categories of a config under their keys, each with its category and rule. -/
def allowedCategories (tables : ConfigTables) (configId : Nat) : List (Text × Nat × Nat) :=
  (enabledRules tables configId).map fun row => (row.category.key, row.category.id, row.rule.id)

def TransactionUpload.identity (item : TransactionUpload) : Identity :=
  (item.accountId, item.sourceId)

def outsideWindow (run : RefreshRun) (date : Date) : Prop :=
  run.sourceToDate < date ∨ (run.mode = .full ∧ date < run.sourceFromDate)

instance (run : RefreshRun) (date : Date) : Decidable (outsideWindow run date) :=
  inferInstanceAs (Decidable (_ ∨ _))

def unknownCategories (allowed : List (Text × Nat × Nat)) (item : TransactionUpload) :
    List Text :=
  sorted (item.categories.dedup.filter fun key => key ∉ allowed.map Prod.fst)

/-- One round of the checking loop; `seen` holds the identities of the rounds before. -/
def checkItem (tables : RefreshTables) (run : RefreshRun) (config : ConfigVersion)
    (allowed : List (Text × Nat × Nat)) (seen : List Identity) (item : TransactionUpload) :
    Except ServiceError (List Identity) := do
  require (TransactionUpload.identity item ∉ seen) (conflictError .duplicateTransaction
    "A transaction identity occurs more than once in the batch".toList)
  require (item.accountId ∈ run.expectedAccounts) (conflictError .unexpectedAccount
    "Transaction account is not in expected_accounts".toList)
  require (item.currency = config.displayCurrency) (domainError .currencyMismatch
    "Transaction currency must match the configured display currency".toList)
  require (¬outsideWindow run item.date) (domainError .transactionOutsideRunWindow
    "Transaction date is outside the refresh source window".toList)
  require (unknownCategories allowed item = []) (domainError .unknownCategory
    ("Unknown or disabled categories: ".toList ++
      List.intercalate ", ".toList (unknownCategories allowed item)))
  require (TransactionUpload.identity item ∉
      (tables.stagedOf run.id).map StagedTransaction.identity)
    (conflictError .duplicateTransaction
      "A transaction identity was already uploaded in another batch".toList)
  pure (seen ++ [TransactionUpload.identity item])

/-- A staged row as later sessions read it. -/
def stagedTransaction (run : RefreshRun) (batchIndex : Nat) (item : TransactionUpload) :
    StagedTransaction where
  runId := run.id
  configVersionId := run.configVersionId
  accountId := item.accountId
  accountName := item.accountName
  sourceId := item.sourceId
  batchIndex := batchIndex
  transactionDate := item.date
  amount := Money.reload environment.dialect item.amount
  currency := item.currency
  pending := item.pending
  merchant := item.merchant
  name := item.name
  refunded := item.refunded
  refundAmount := Money.reload environment.dialect item.refundAmount
  pendingSourceId := item.pendingSourceId
  sourceHash := environment.sha256Hex item.toJson

def stagedCategory (run : RefreshRun) (item : TransactionUpload) (entry : Text × Nat × Nat) :
    StagedTransactionCategory where
  runId := run.id
  configVersionId := run.configVersionId
  accountId := item.accountId
  sourceId := item.sourceId
  categoryId := entry.2.1
  ruleVersionId := entry.2.2

/-- The links of a staged row. Every key is allowed once the checks have passed. -/
def stagedCategories (run : RefreshRun) (allowed : List (Text × Nat × Nat))
    (item : TransactionUpload) : List StagedTransactionCategory :=
  item.categories.filterMap fun key =>
    (Table.get Prod.fst allowed key).map (stagedCategory run item)

def itemsChecksum (request : RefreshBatchRequest) : Text :=
  environment.sha256Hex (.arr (request.transactions.map TransactionUpload.toJson))

/-- The row `upload_batch` adds. -/
def newBatch (run : RefreshRun) (batchIndex : Nat) (request : RefreshBatchRequest) :
    RefreshBatch where
  runId := run.id
  batchIndex := batchIndex
  idempotencyKey := request.idempotencyKey
  requestHash := environment.sha256Hex request.toJson
  checksum := itemsChecksum environment request
  itemCount := request.transactions.length

def receiveBatch (now : Datetime) (itemCount : Nat) (run : RefreshRun) : RefreshRun :=
  { run with
    receivedBatchCount := run.receivedBatchCount + 1
    actualItemCount := run.actualItemCount + itemCount
    state := .uploaded
    uploadedAt := some now }

def insertBatch (clock : Clock) (tables : RefreshTables) (run : RefreshRun) (batch : RefreshBatch)
    (allowed : List (Text × Nat × Nat)) (request : RefreshBatchRequest) : RefreshTables where
  refreshRuns := Table.modify RefreshRun.id run.id (receiveBatch clock.now batch.itemCount)
    tables.refreshRuns
  refreshBatches := tables.refreshBatches ++ [batch]
  stagedTransactions := tables.stagedTransactions ++
    request.transactions.map (stagedTransaction environment run batch.batchIndex)
  stagedTransactionCategories := tables.stagedTransactionCategories ++
    request.transactions.flatMap (stagedCategories run allowed)

/-- `_batch_response` -/
def batchResponse (batch : RefreshBatch) (replayed : Bool) : RefreshBatchResponse where
  runId := batch.runId
  batchIndex := batch.batchIndex
  itemCount := batch.itemCount
  replayed := replayed

/-- The part of `upload_batch` for a batch index that holds nothing yet. -/
def storeBatch (clock : Clock) (database : Database) (run : RefreshRun) (batchIndex : Nat)
    (request : RefreshBatchRequest) : Except ServiceError (Database × RefreshBatchResponse) := do
  require (∀ batch ∈ database.refresh.batchesOf run.id,
      batch.idempotencyKey ≠ request.idempotencyKey)
    (conflictError .batchIdempotencyConflict
      "Batch idempotency_key was already used at another index".toList)
  require (run.state = .created ∨ run.state = .uploaded)
    (conflictError .refreshRunNotUploadable
      ("Cannot upload to a ".toList ++ run.state.value ++ " refresh run".toList))
  let allowed := allowedCategories database.config run.configVersionId
  let config ← orRaise (conflictError .configMissing
    "Refresh configuration no longer exists".toList)
    (database.config.configVersion run.configVersionId)
  let _ ← request.transactions.foldlM (checkItem database.refresh run config allowed) []
  let batch := newBatch environment run batchIndex request
  pure ({ database with
      refresh := insertBatch environment clock database.refresh run batch allowed request },
    batchResponse batch false)

/-- `upload_batch` -/
def uploadBatch (clock : Clock) (database : Database) (runId : Nat) (batchIndex : Int)
    (request : RefreshBatchRequest) (maxBatchItems maxRequestBytes : Nat) :
    Except ServiceError (Database × RefreshBatchResponse) := do
  require (0 ≤ batchIndex) (domainError .invalidBatchIndex
    "batch_index must be nonnegative".toList)
  require (request.transactions.length ≤ maxBatchItems) (tooLarge .batchTooLarge
    ("Batch contains more than ".toList ++ Text.digits maxBatchItems ++
      " transactions".toList))
  require (request.toJson.dumps.utf8Length ≤ maxRequestBytes) (tooLarge .batchTooLarge
    ("Batch exceeds the ".toList ++ Text.digits maxRequestBytes ++
      "-byte request limit".toList))
  let run ← orRaise (notFoundError .refreshRunNotFound "Refresh run not found".toList)
    (database.refresh.run runId)
  match database.refresh.batch runId batchIndex.toNat with
  | some existing => do
      require (existing.requestHash = environment.sha256Hex request.toJson ∧
          existing.checksum = itemsChecksum environment request)
        (conflictError .batchContentConflict
          "This batch index already contains different content".toList)
      pure (database, batchResponse existing true)
  | none => storeBatch environment clock database run batchIndex.toNat request

/-! ## Checks of `commit_refresh` -/

/-- The config version the commit publishes, still the current target of the run. -/
def commitTarget (tables : ConfigTables) (run : RefreshRun) :
    Except ServiceError ConfigVersion := do
  let config ← orRaise (conflictError .configMissing
    "Refresh configuration no longer exists".toList) (tables.configVersion run.configVersionId)
  require (config.status ≠ .superseded) (conflictError .configVersionConflict
    "The target configuration was superseded during this run".toList)
  require (¬(run.mode = .incremental ∧ config.status ≠ .active))
    (conflictError .configVersionConflict
      "Incremental refresh target is no longer active".toList)
  require (¬(run.mode = .incremental ∧ tables.pending.isSome))
    (conflictError .fullRebuildRequired
      "A pending configuration was created after this refresh began".toList)
  let currentTarget :=
    if run.mode = .full then tables.pending.or tables.active else tables.active
  require (currentTarget.map ConfigVersion.id = some config.id)
    (conflictError .configVersionConflict
      "The target configuration changed after this refresh began".toList)
  pure config

/-- The batches of the run in index order. -/
def commitBatches (tables : RefreshTables) (run : RefreshRun) (request : RefreshCommitRequest) :
    Except ServiceError (List RefreshBatch) := do
  let batches := sortedOn RefreshBatch.batchIndex (tables.batchesOf run.id)
  require (batches.map RefreshBatch.batchIndex = List.range request.expectedBatchCount)
    (conflictError .missingBatch "One or more upload batches are missing".toList)
  require (request.completedAccounts = sorted run.expectedAccounts)
    (conflictError .completedAccountsMismatch
      "completed_accounts does not match expected_accounts".toList)
  pure batches

/-- No other run has committed since this one began. -/
def checkRevision (database : Database) (run : RefreshRun) : Except ServiceError Unit := do
  require (database.syncState.map SyncState.revision = run.syncRevisionBefore)
    (conflictError .refreshRunSuperseded
      "Another refresh committed after this run began".toList)
  require (run.mode = .incremental →
      (database.syncState.bind fun syncState =>
        database.refresh.run syncState.lastRefreshRunId).any fun previous =>
          previous.expectedAccounts.toFinset = run.expectedAccounts.toFinset)
    (conflictError .accountScopeChanged
      ("The connected account set changed after this run began; retry with a complete " ++
        "FULL_REBUILD").toList)

/-! ## Publishing the staged rows -/

/-- One round of `_validate_pending_replacements`. -/
def addReplacement (ledger : LedgerTables) (stagedItems : List StagedTransaction)
    (targets : List Identity) (staged : StagedTransaction) :
    Except ServiceError (List Identity) :=
  match staged.pendingSourceId with
  | none => pure targets
  | some pendingSourceId => do
      let target : Identity := (staged.accountId, pendingSourceId)
      require (¬(staged.pending ∨ target = staged.identity))
        (conflictError .pendingReplacementConflict "A pending replacement link is invalid".toList)
      require (target ∉ targets) (conflictError .pendingReplacementConflict
        "More than one transaction replaces the same pending transaction".toList)
      require ((Table.get StagedTransaction.identity stagedItems target).all fun row =>
          row.pending)
        (conflictError .pendingReplacementConflict
          "A pending replacement link targets a non-pending staged transaction".toList)
      require ((ledger.transaction target).all fun row => row.pending)
        (conflictError .pendingReplacementConflict
          "A pending replacement link targets a non-pending live transaction".toList)
      pure (targets ++ [target])

/-- `_validate_pending_replacements` -/
def validatePendingReplacements (ledger : LedgerTables) (stagedItems : List StagedTransaction) :
    Except ServiceError (List Identity) :=
  stagedItems.foldlM (addReplacement ledger stagedItems) []

/-- `_delete_live_identity` -/
def deleteLiveIdentity (ledger : LedgerTables) (identity : Identity) : LedgerTables where
  transactions := ledger.transactions.filter fun transaction => transaction.identity ≠ identity
  transactionCategories := ledger.transactionCategories.filter fun link =>
    link.identity ≠ identity

/-- The live row for a staged one. Its amounts were read from a money column, so that
writing and reading them again changes nothing (`Money.reload_reload`). -/
def liveTransaction (now : Datetime) (run : RefreshRun) (staged : StagedTransaction)
    (existing : Option Transaction) : Transaction where
  accountId := staged.accountId
  accountName := staged.accountName
  sourceId := staged.sourceId
  transactionDate := staged.transactionDate
  amount := staged.amount
  currency := staged.currency
  pending := staged.pending
  merchant := staged.merchant
  name := staged.name
  refunded := staged.refunded
  refundAmount := staged.refundAmount
  pendingSourceId := staged.pendingSourceId
  sourceHash := staged.sourceHash
  configVersionId := run.configVersionId
  firstRefreshRunId := (existing.map Transaction.firstRefreshRunId).getD run.id
  lastRefreshRunId := run.id
  firstSeenAt := (existing.map Transaction.firstSeenAt).getD now
  lastSeenAt := now

def liveCategory (run : RefreshRun) (link : StagedTransactionCategory) : TransactionCategory where
  accountId := link.accountId
  sourceId := link.sourceId
  categoryId := link.categoryId
  configVersionId := run.configVersionId
  ruleVersionId := link.ruleVersionId

/-- `_store_staged` -/
def storeStaged (now : Datetime) (tables : RefreshTables) (run : RefreshRun)
    (ledger : LedgerTables) (staged : StagedTransaction) (existing : Option Transaction) :
    Except ServiceError LedgerTables := do
  let cleared := if existing.isSome then deleteLiveIdentity ledger staged.identity else ledger
  let categories := tables.stagedCategoriesOf run.id staged.identity
  require (categories ≠ []) (conflictError .invalidStagingData
    "Staged transaction has no categories".toList)
  pure {
    transactions := cleared.transactions ++ [liveTransaction now run staged existing]
    transactionCategories := cleared.transactionCategories ++ categories.map (liveCategory run) }

/-- `_replace_all_transactions` -/
def replaceAllTransactions (now : Datetime) (tables : RefreshTables) (run : RefreshRun)
    (targets : List Identity) : Except ServiceError LedgerTables :=
  (tables.stagedOf run.id).foldlM
    (fun ledger staged =>
      if staged.identity ∈ targets then pure ledger
      else storeStaged now tables run ledger staged none)
    ⟨[], []⟩

/-- `_merge_incremental` -/
def mergeIncremental (now : Datetime) (tables : RefreshTables) (run : RefreshRun)
    (targets : List Identity) (ledger : LedgerTables) : Except ServiceError LedgerTables :=
  (tables.stagedOf run.id).foldlM
    (fun ledger staged =>
      if staged.identity ∈ targets then pure ledger
      else
        let cleared := match staged.pendingSourceId with
          | none => ledger
          | some pendingSourceId =>
              deleteLiveIdentity ledger (staged.accountId, pendingSourceId)
        storeStaged now tables run cleared staged (cleared.transaction staged.identity))
    ledger

/-- One round of the first loop of `_prune_outside_windows`. -/
def pruneCategory (run : RefreshRun) (ledger : LedgerTables) (row : LinkedRule) :
    Except ServiceError LedgerTables := do
  let cutoff ← orRaise overflowError (run.sourceToDate.minusDays (row.rule.lookbackDays - 1))
  pure { ledger with
    transactionCategories := ledger.transactionCategories.filter fun link =>
      ¬(link.categoryId = row.category.id ∧
        (ledger.transaction link.identity).any fun transaction =>
          transaction.transactionDate < cutoff) }

/-- `_prune_outside_windows` -/
def pruneOutsideWindows (tables : ConfigTables) (run : RefreshRun) (ledger : LedgerTables) :
    Except ServiceError LedgerTables := do
  let pruned ← (rulesForConfig tables run.configVersionId).foldlM (pruneCategory run) ledger
  pure { pruned with
    transactions := pruned.transactions.filter fun transaction =>
      transaction.identity ∈ pruned.transactionCategories.map TransactionCategory.identity }

/-! ## `commit_refresh` -/

/-- The run once all its batches are checked, before its rows are published. -/
def validatedRun (now : Datetime) (run : RefreshRun) (request : RefreshCommitRequest)
    (batches : List RefreshBatch) : RefreshRun :=
  { run with
    state := .validated
    validatedAt := some now
    uploadedAt := run.uploadedAt.or (some now)
    expectedBatchCount := some request.expectedBatchCount
    receivedBatchCount := batches.length
    actualItemCount := (batches.map RefreshBatch.itemCount).sum
    computedChecksum := some (environment.checksumChain (batches.map RefreshBatch.checksum))
    completedAccounts := some request.completedAccounts }

def committedRun (now : Datetime) (run : RefreshRun) : RefreshRun :=
  { run with state := .committed, committedAt := some now }

/-- Everything a commit assigns to the run. -/
def completeRun (now : Datetime) (request : RefreshCommitRequest) (batches : List RefreshBatch)
    (run : RefreshRun) : RefreshRun :=
  committedRun now (validatedRun environment now run request batches)

/-- A pending target becomes the active version, and its snapshot the live presentation. -/
def activate (now : Datetime) (tables : ConfigTables) (config : ConfigVersion) :
    Except ServiceError ConfigTables :=
  if config.status = .pending then do
    let presented ← applyConfigPresentation tables config
    let superseded := match presented.active with
      | none => presented
      | some old => if old.id = config.id then presented else supersede now old.id presented
    pure { superseded with
      configVersions := Table.modify ConfigVersion.id config.id
        (fun config => { config with status := .active, activatedAt := some now })
        superseded.configVersions }
  else
    pure tables

def nextSyncState (clock : Clock) (config : ConfigVersion) (run : RefreshRun) :
    Option SyncState → SyncState
  | none => ⟨config.id, run.id, 1, clock.serverNow⟩
  | some syncState => ⟨config.id, run.id, syncState.revision + 1, clock.now⟩

/-- Staged rows go once their run has committed; their links go with them. -/
def clearStaging (tables : RefreshTables) (runId : Nat) : RefreshTables :=
  { tables with
    stagedTransactions := tables.stagedTransactions.filter fun staged => staged.runId ≠ runId
    stagedTransactionCategories := tables.stagedTransactionCategories.filter fun link =>
      link.runId ≠ runId }

/-- The live tables after the run, before they are pruned. -/
def publishedLedger (now : Datetime) (database : Database) (run : RefreshRun) :
    Except ServiceError LedgerTables := do
  let targets ← validatePendingReplacements database.ledger (database.refresh.stagedOf run.id)
  match run.mode with
  | .full => replaceAllTransactions now database.refresh run targets
  | .incremental => mergeIncremental now database.refresh run targets database.ledger

/-- The part of `commit_refresh` after its checks. -/
def publishRun (clock : Clock) (database : Database) (run : RefreshRun) (config : ConfigVersion)
    (request : RefreshCommitRequest) (batches : List RefreshBatch) :
    Except ServiceError (Database × RefreshRun) := do
  let validated := validatedRun environment clock.now run request batches
  let published ← publishedLedger clock.now database validated
  let ledger ← pruneOutsideWindows database.config validated published
  let committed := completeRun environment clock.now request batches run
  let tables ← activate clock.now database.config config
  pure ({
      config := ConfigService.commit environment tables
      refresh := clearStaging
        { database.refresh with
          refreshRuns := Table.modify RefreshRun.id run.id
            (completeRun environment clock.now request batches) database.refresh.refreshRuns }
        run.id
      ledger := ledger
      syncState := some (nextSyncState clock config committed database.syncState) },
    committed)

/-- `_run_view` -/
def runView (run : RefreshRun) : RefreshRunView where
  runId := run.id
  state := run.state
  mode := run.mode
  configVersionId := run.configVersionId
  batchCount := run.receivedBatchCount
  itemCount := run.actualItemCount
  receipt := run.committedAt.bind fun committedAt =>
    run.computedChecksum.map fun checksum =>
      environment.stableReceipt run.id checksum (committedAt.isoformat environment.offset)
  createdAt := run.createdAt
  committedAt := run.committedAt
  errorCode := run.errorCode

/-- The checks of `commit_refresh` on a run that has not committed, and its publication. -/
def commitOpenRun (clock : Clock) (database : Database) (run : RefreshRun)
    (request : RefreshCommitRequest) : Except ServiceError (Database × RefreshRun) := do
  require (run.state = .uploaded ∨ (run.state = .created ∧ request.expectedBatchCount = 0))
    (conflictError .refreshRunNotCommittable
      ("Cannot commit a ".toList ++ run.state.value ++ " refresh run".toList))
  let config ← commitTarget database.config run
  let batches ← commitBatches database.refresh run request
  checkRevision database run
  publishRun environment clock database run config request batches

/-- `commit_refresh` -/
def commitRefresh (clock : Clock) (database : Database) (runId : Nat)
    (request : RefreshCommitRequest) : Except ServiceError (Database × RefreshRunView) := do
  let run ← orRaise (notFoundError .refreshRunNotFound "Refresh run not found".toList)
    (database.refresh.run runId)
  if run.state = .committed then do
    require (run.expectedBatchCount = some request.expectedBatchCount ∧
        sorted (run.completedAccounts.getD []) = request.completedAccounts)
      (conflictError .commitReplayConflict
        "Committed run was retried with different completion data".toList)
    pure (database, runView environment run)
  else do
    let (committed, run) ← commitOpenRun environment clock database run request
    pure (committed, runView environment run)

/-! ### The list of the expected indices

`commitBatches` compares with a list of any length. In CPython a range is no longer than
`sys.maxsize` and a list no longer than an eighth of that; how much memory a machine has is left
out. A count within these bounds makes no difference, so that the other results are stated of
`commitRefresh`. -/

end RefreshService

end RollingBudget
