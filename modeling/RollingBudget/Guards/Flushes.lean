import RollingBudget.Configuration.Presentation
import RollingBudget.Guards.Writes
import RollingBudget.Refresh.Publication
import RollingBudget.Services.Calls

namespace RollingBudget.Flushes

open Sorting ServiceError ConfigService RefreshService

/-! The calls of the services with the row writes they send to the database. The session sends
nothing on its own: bulk deletions go out at once, other changes with the next flush. A flush
takes the tables in the order of their class names, the rows of a table in the order of their
keys, and updates rows before it inserts any; rows it deletes come after all others. -/

variable (environment : Environment)

abbrev Program (α : Type) := Logged Write ServiceError α

/-- The updates of the rows that changed. -/
def changed {α : Type} [DecidableEq α] (row : α → Row) (before after : List α) : List Write :=
  (before.zip after).flatMap fun pair =>
    if pair.1 = pair.2 then [] else [.update (row pair.2)]

/-- Budgets are compared and sent as the column stores them. -/
def configUpdates (before after : ConfigTables) : List Write :=
  changed .category (ConfigService.commit environment before).categories
      (ConfigService.commit environment after).categories ++
    changed .configVersion before.configVersions after.configVersions

/-! ## `put_config` -/

def ensureCategory (tables : ConfigTables) (item : CategoryConfigInput) :
    Program (ConfigTables × Category) := do
  let ensured := ConfigService.ensureCategory tables item
  if tables.categoryByKey item.key = none then
    Logged.emit [.insert (.category (reloaded environment ensured.2))]
  pure ensured

def ensureRule (tables : ConfigTables) (categoryId : Nat) (item : CategoryConfigInput) :
    Program (ConfigTables × RuleVersion) := do
  let ensured := ConfigService.ensureRule environment tables categoryId item
  if (tables.ruleVersions.find? fun rule =>
      rule.categoryId = categoryId ∧ rule.ruleHash = ruleHash environment item) = none then
    Logged.emit [.insert (.ruleVersion ensured.2)]
  pure ensured

def selectRule (progress : ConfigTables × List (Nat × Nat)) (item : CategoryConfigInput) :
    Program (ConfigTables × List (Nat × Nat)) := do
  let withCategory ← ensureCategory environment progress.1 item
  let withRule ← ensureRule environment withCategory.1 withCategory.2.id item
  pure (withRule.1, progress.2 ++ [(withCategory.2.id, withRule.2.id)])

def selectRules (tables : ConfigTables) (request : ConfigPutRequest) :
    Program (ConfigTables × List (Nat × Nat)) :=
  request.categories.foldlM (selectRule environment) (tables, [])

def createVersion (clock : Clock) (tables : ConfigTables) (request : ConfigPutRequest) :
    Program ConfigTables := do
  let selection ← selectRules environment tables request
  let superseded := supersedePending clock.now selection.1
  let config := newVersion environment clock superseded request tables.active.isNone
  Logged.emit (changed .configVersion selection.1.configVersions superseded.configVersions ++
    [.insert (.configVersion config)])
  Logged.emit (selection.2.map fun choice =>
    .insert (.configVersionRule ⟨config.id, choice.1, choice.2⟩))
  let inserted := insertVersion superseded config selection.2
  if tables.active.isNone then do
    let presented ← Logged.lift (applyConfigPresentation inserted config)
    Logged.emit (configUpdates environment inserted presented)
    pure presented
  else pure inserted

def publishEdits (now : Datetime) (tables : ConfigTables) (active : ConfigVersion)
    (request : ConfigPutRequest) : Program ConfigTables := do
  let edited ← Logged.lift (ConfigService.publishEdits now tables active request)
  Logged.emit (configUpdates environment tables edited)
  pure edited

def writeConfig (clock : Clock) (tables : ConfigTables) (request : ConfigPutRequest) :
    Program ConfigTables :=
  match tables.active.filter fun active =>
      semanticHashForConfig environment tables active = configHash environment request with
  | some active => publishEdits environment clock.now tables active request
  | none => do
      let unchanged ← Logged.lift (pendingUnchanged environment tables request)
      if unchanged then pure tables else createVersion environment clock tables request

def putConfigLocked (clock : Clock) (database : Database) (request : ConfigPutRequest)
    (ifMatch : Option Text) (checkExpected : Bool) (expectedBaseHash : Option Text) :
    Program (Database × ConfigView) := do
  Logged.lift (validateTimezone environment request.timezone)
  Logged.lift (require (∀ category ∈ request.categories,
      category.budgetCurrency = request.displayCurrency)
    (domainError .mixedBudgetCurrencyNotSupported
      "Each category budget_currency must match display_currency in v1".toList))
  Logged.lift (checkBase environment database.config ifMatch checkExpected expectedBaseHash)
  let tables ← writeConfig environment clock database.config request
  let view ← Logged.lift (getConfig environment tables database.syncState)
  pure ({ database with config := ConfigService.commit environment tables }, view)

/-! ## `begin_refresh` and `upload_batch`

Both check everything before they write. -/

def beginRefresh (clock : Clock) (database : Database) (request : RefreshBeginRequest)
    (idempotencyKey : Text) (maxBatchItems maxRequestBytes : Nat) :
    Program (Database × RefreshBeginResponse) := do
  let begun ← Logged.lift (RefreshService.beginRefresh environment clock database request
    idempotencyKey maxBatchItems maxRequestBytes)
  Logged.emit ((begun.1.refresh.refreshRuns.drop database.refresh.refreshRuns.length).map
    fun run => .insert (.refreshRun run))
  pure begun

/-- The batch is flushed on its own, the rest with the commit. -/
def batchWrites (clock : Clock) (database : Database) (run : RefreshRun) (batchIndex : Nat)
    (request : RefreshBatchRequest) : List Write :=
  let batch := newBatch environment run batchIndex request
  let allowed := allowedCategories database.config run.configVersionId
  .insert (.refreshBatch batch) ::
    .update (.refreshRun (receiveBatch clock.now batch.itemCount run)) ::
    (request.transactions.map fun item =>
      .insert (.stagedTransaction (stagedTransaction environment run batchIndex item))) ++
    (request.transactions.flatMap (stagedCategories run allowed)).map fun link =>
      .insert (.stagedTransactionCategory link)

def uploadBatch (clock : Clock) (database : Database) (runId : Nat) (batchIndex : Int)
    (request : RefreshBatchRequest) (maxBatchItems maxRequestBytes : Nat) :
    Program (Database × RefreshBatchResponse) := do
  let uploaded ← Logged.lift (RefreshService.uploadBatch environment clock database runId
    batchIndex request maxBatchItems maxRequestBytes)
  if (database.refresh.batch runId batchIndex.toNat).isNone then
    Logged.emit (((database.refresh.run runId).map fun run =>
      batchWrites environment clock database run batchIndex.toNat request).getD [])
  pure uploaded

/-! ## Publishing the staged rows

The links of a row that is stored wait in the session for the flush of the next row. -/

abbrev Progress := LedgerTables × List TransactionCategory

def linkInserts (links : List TransactionCategory) : List Write :=
  links.map fun link => .insert (.transactionCategory link)

def liveDeletions (links : List TransactionCategory) (transactions : List Transaction) :
    List Write :=
  (links.map fun link => .delete (.transactionCategory link)) ++
    transactions.map fun transaction => .delete (.transaction transaction)

/-- The two statements of `_delete_live_identity`, which waiting links do not see. -/
def deleteLiveIdentity (progress : Progress) (identity : Identity) : List Write :=
  liveDeletions
    (progress.1.transactionCategories.filter fun link =>
      link.identity = identity ∧ link ∉ progress.2)
    (progress.1.transactions.filter fun transaction => transaction.identity = identity)

def storeStaged (now : Datetime) (tables : RefreshTables) (run : RefreshRun)
    (progress : Progress) (staged : StagedTransaction) (existing : Option Transaction) :
    Program Progress := do
  let inserted : Write := .insert (.transaction (liveTransaction now run staged existing))
  if existing.isSome then
    Logged.emit (deleteLiveIdentity progress staged.identity ++
      (linkInserts progress.2 ++ [inserted]))
  else
    Logged.emit (inserted :: linkInserts progress.2)
  let ledger ← Logged.lift (RefreshService.storeStaged now tables run progress.1 staged existing)
  pure (ledger, (tables.stagedCategoriesOf run.id staged.identity).map (liveCategory run))

def replaceAllTransactions (now : Datetime) (ledger : LedgerTables) (tables : RefreshTables)
    (run : RefreshRun) (targets : List Identity) : Program Progress := do
  Logged.emit (liveDeletions ledger.transactionCategories ledger.transactions)
  (tables.stagedOf run.id).foldlM
    (fun progress staged =>
      if staged.identity ∈ targets then pure progress
      else storeStaged now tables run progress staged none)
    (⟨[], []⟩, [])

def clearPending (progress : Progress) (staged : StagedTransaction) : Program Progress := do
  Logged.emit (((namedTarget staged).map (deleteLiveIdentity progress)).getD [])
  pure (clearTarget progress.1 staged, progress.2)

def mergeIncremental (now : Datetime) (tables : RefreshTables) (run : RefreshRun)
    (targets : List Identity) (ledger : LedgerTables) : Program Progress :=
  (tables.stagedOf run.id).foldlM
    (fun progress staged =>
      if staged.identity ∈ targets then pure progress
      else do
        let cleared ← clearPending progress staged
        storeStaged now tables run cleared staged (cleared.1.transaction staged.identity))
    (ledger, [])

def publishedLedger (now : Datetime) (database : Database) (run : RefreshRun) :
    Program Progress := do
  let targets ← Logged.lift
    (validatePendingReplacements database.ledger (database.refresh.stagedOf run.id))
  match run.mode with
  | .full => replaceAllTransactions now database.ledger database.refresh run targets
  | .incremental => mergeIncremental now database.refresh run targets database.ledger

def pruneOutsideWindows (tables : ConfigTables) (run : RefreshRun) (progress : Progress) :
    Program LedgerTables := do
  Logged.emit (linkInserts progress.2)
  let pruned ← Logged.lift (RefreshService.pruneOutsideWindows tables run progress.1)
  Logged.emit ((progress.1.transactionCategories.filter fun link =>
    link ∉ pruned.transactionCategories).map fun link => .delete (.transactionCategory link))
  pure pruned

/-! ## `commit_refresh` -/

def activate (now : Datetime) (tables : ConfigTables) (config : ConfigVersion) :
    Program ConfigTables :=
  if config.status = .pending then do
    let presented ← Logged.lift (applyConfigPresentation tables config)
    let superseded := match presented.active with
      | none => presented
      | some old => if old.id = config.id then presented else supersede now old.id presented
    Logged.emit (configUpdates environment tables superseded)
    let activated := { superseded with
      configVersions := Table.modify ConfigVersion.id config.id
        (fun config => { config with status := .active, activatedAt := some now })
        superseded.configVersions }
    Logged.emit (changed .configVersion superseded.configVersions activated.configVersions)
    pure activated
  else
    pure tables

def syncWrite (previous : Option SyncState) (next : SyncState) : Write :=
  if previous.isSome then .update (.syncState next) else .insert (.syncState next)

def publishRun (clock : Clock) (database : Database) (run : RefreshRun) (config : ConfigVersion)
    (request : RefreshCommitRequest) (batches : List RefreshBatch) :
    Program (Database × RefreshRun) := do
  let validated := validatedRun environment clock.now run request batches
  Logged.emit [.update (.refreshRun validated)]
  let published ← publishedLedger clock.now database validated
  let ledger ← pruneOutsideWindows database.config validated published
  let committed := completeRun environment clock.now request batches run
  Logged.emit (.update (.refreshRun committed) ::
    (published.1.transactions.filter fun transaction => transaction ∉ ledger.transactions).map
      fun transaction => .delete (.transaction transaction))
  let tables ← activate environment clock.now database.config config
  let syncState := nextSyncState clock config committed database.syncState
  Logged.emit [syncWrite database.syncState syncState]
  Logged.emit ((database.refresh.stagedOf run.id).map fun staged =>
    .delete (.stagedTransaction staged))
  pure ({
      config := ConfigService.commit environment tables
      refresh := clearStaging
        { database.refresh with
          refreshRuns := Table.modify RefreshRun.id run.id
            (completeRun environment clock.now request batches) database.refresh.refreshRuns }
        run.id
      ledger := ledger
      syncState := some syncState },
    committed)

def commitRefresh (clock : Clock) (database : Database) (runId : Nat)
    (request : RefreshCommitRequest) : Program (Database × RefreshRunView) := do
  let run ← Logged.lift (orRaise (notFoundError .refreshRunNotFound "Refresh run not found".toList)
    (database.refresh.run runId))
  if run.state = .committed then
    Logged.lift (RefreshService.commitRefresh environment clock database runId request)
  else do
    let checked ← Logged.lift (commitChecks database run request)
    let published ← publishRun environment clock database run checked.1 request checked.2
    pure (published.1, runView environment published.2)

end RollingBudget.Flushes

namespace RollingBudget

/-! ## Calls -/

open Flushes in
/-- A call with its row writes. -/
def Event.program (environment : Environment) (database : Database) (event : Event) :
    Program (Database × Response) :=
  match event.call with
  | .putConfig raw ifMatch => do
      let request ← Logged.lift (orRaise ServiceError.validationError raw.validate)
      let written ← putConfigLocked environment event.clock database request ifMatch false none
      pure (written.1, .config written.2)
  | .putConfigChecked raw expectedConfigHash => do
      let request ← Logged.lift (orRaise ServiceError.validationError raw.validate)
      let written ← putConfigLocked environment event.clock database request none true
        expectedConfigHash
      pure (written.1, .config written.2)
  | .beginRefresh raw idempotencyKey maxBatchItems maxRequestBytes => do
      let request ← Logged.lift (orRaise ServiceError.validationError raw.validate)
      let begun ← Flushes.beginRefresh environment event.clock database request idempotencyKey
        maxBatchItems maxRequestBytes
      pure (begun.1, .begun begun.2)
  | .uploadBatch runId batchIndex raw maxBatchItems maxRequestBytes => do
      let request ← Logged.lift (orRaise ServiceError.validationError raw.validate)
      let uploaded ← Flushes.uploadBatch environment event.clock database runId batchIndex
        request maxBatchItems maxRequestBytes
      pure (uploaded.1, .batch uploaded.2)
  | .commitRefresh runId raw => do
      let request ← Logged.lift (orRaise ServiceError.validationError raw.validate)
      let committed ← Flushes.commitRefresh environment event.clock database runId request
      pure (committed.1, .run committed.2)

end RollingBudget
