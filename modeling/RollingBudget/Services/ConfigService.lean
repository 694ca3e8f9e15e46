import RollingBudget.Services.Environment

namespace RollingBudget

open Sorting ServiceError

/-! Configuration writes and reads. Inside one write the session sees the decimals of
the request; `ConfigTables.commit` is what later sessions read. -/

/-! ## Views -/

structure CategoryConfigView extends CategoryConfigInput where
  id : Text
  ruleVersion : Nat
  ruleHash : Text
deriving DecidableEq

structure ConfigVersionView where
  id : Text
  version : Nat
  status : ConfigVersionStatus
  timezone : Text
  displayCurrency : Text
  aggregationVersion : Nat
  configHash : Text
  requiresFullRebuild : Bool
  createdAt : Datetime
  activatedAt : Option Datetime
  categories : List CategoryConfigView
deriving DecidableEq

structure ConfigView where
  active : Option ConfigVersionView
  pending : Option ConfigVersionView
deriving DecidableEq

/-- The version a client edits. -/
def ConfigView.base (view : ConfigView) : Option ConfigVersionView := view.pending.or view.active

namespace ConfigService

variable (environment : Environment)

/-- `_validate_timezone` -/
def validateTimezone (name : Text) : Except ServiceError Unit :=
  match environment.zoneInfo name with
  | .found => .ok ()
  | .notFound => .error (domainError .invalidTimezone "Unknown IANA timezone".toList)
  | .failed => .error zoneInfoFailure

/-! ## Hashes -/

/-- `_rule_hash` -/
def ruleHash (category : CategoryConfigInput) : Text :=
  environment.sha256Hex (.obj [
    ("category_key".toList, .str category.key),
    ("lookback_days".toList, .nat category.lookbackDays),
    ("classification_instruction".toList, .str category.classificationInstruction),
    ("enabled".toList, .bool category.enabled)])

/-- The payload that `_config_hash` and `semantic_hash_for_config` both hash. -/
def semanticPayload (timezone displayCurrency : Text) (aggregationVersion : Nat)
    (rules : List (Text × Text)) : Json :=
  .obj [
    ("timezone".toList, .str timezone),
    ("display_currency".toList, .str displayCurrency),
    ("aggregation_version".toList, .nat aggregationVersion),
    ("rules".toList, .arr (rules.map fun rule =>
      .obj [("category_key".toList, .str rule.1), ("rule_hash".toList, .str rule.2)]))]

/-- `rule_hashes`: the hash of each requested category under its key. -/
def ruleHashes (request : ConfigPutRequest) : List (Text × Text) :=
  request.categories.map fun item => (item.key, ruleHash environment item)

/-- `_config_hash` -/
def configHash (request : ConfigPutRequest) : Text :=
  environment.sha256Hex (semanticPayload request.timezone request.displayCurrency
    request.aggregationVersion (sortedOn Prod.fst (ruleHashes environment request)))

/-- One row of the join that `rules_for_config` selects. -/
structure LinkedRule where
  link : ConfigVersionRule
  rule : RuleVersion
  category : Category
deriving DecidableEq

def linkedRule (tables : ConfigTables) (link : ConfigVersionRule) : Option LinkedRule :=
  (tables.ruleVersion link.ruleVersionId).bind fun rule =>
    (tables.category link.categoryId).map fun category => ⟨link, rule, category⟩

/-- `rules_for_config` -/
def rulesForConfig (tables : ConfigTables) (configId : Nat) : List LinkedRule :=
  sortedOn (fun row => toLex (row.category.sortOrder, row.category.key))
    ((tables.configVersionRules.filter fun link => link.configVersionId = configId).filterMap
      (linkedRule tables))

/-- `semantic_hash_for_config` -/
def semanticHashForConfig (tables : ConfigTables) (config : ConfigVersion) : Text :=
  environment.sha256Hex (semanticPayload config.timezone config.displayCurrency
    config.aggregationVersion
    ((sortedOn (fun row => row.category.key) (rulesForConfig tables config.id)).map fun row =>
      (row.category.key, row.rule.ruleHash)))

/-- The budget text of an edit payload, at the four decimal places money is stored with. -/
def budgetText (budget : Decimal) : Text := (budget.quantize Money.scale).formatFixed

def editPayload (category : CategoryConfigInput) : Json :=
  .obj [
    ("key".toList, .str category.key),
    ("name".toList, .str category.name),
    ("icon".toList, .ofOption category.icon),
    ("sort_order".toList, .nat category.sortOrder),
    ("budget_limit".toList, .str (budgetText category.budgetLimit)),
    ("budget_currency".toList, .str category.budgetCurrency),
    ("lookback_days".toList, .nat category.lookbackDays),
    ("classification_instruction".toList, .str category.classificationInstruction),
    ("enabled".toList, .bool category.enabled)]

/-- `_normalized_edit_payload` -/
def normalizedEditPayload (request : ConfigPutRequest) : Json :=
  .obj [
    ("timezone".toList, .str request.timezone),
    ("display_currency".toList, .str request.displayCurrency),
    ("aggregation_version".toList, .nat request.aggregationVersion),
    ("categories".toList,
      .arr ((sortedOn CategoryConfigInput.key request.categories).map editPayload))]

/-- `_edit_hash_for_request` -/
def editHashForRequest (request : ConfigPutRequest) : Text :=
  environment.sha256Hex (normalizedEditPayload request)

/-! ## Snapshots -/

def LinkedRule.toInput (row : LinkedRule) : CategoryConfigInput where
  key := row.category.key
  name := row.category.name
  icon := row.category.icon
  sortOrder := row.category.sortOrder
  budgetLimit := row.category.budgetLimit
  budgetCurrency := row.category.budgetCurrency
  lookbackDays := row.rule.lookbackDays
  classificationInstruction := row.rule.classificationInstruction
  enabled := row.rule.isEnabled

/-- The request that `_active_snapshot` assembles before the model validates it. -/
def assembled (tables : ConfigTables) (config : ConfigVersion) : ConfigPutRequest where
  timezone := config.timezone
  displayCurrency := config.displayCurrency
  aggregationVersion := config.aggregationVersion
  categories := (rulesForConfig tables config.id).map LinkedRule.toInput

/-- `_active_snapshot` -/
def activeSnapshot (tables : ConfigTables) (config : ConfigVersion) :
    Except ServiceError ConfigPutRequest :=
  orRaise validationError (assembled tables config).validate

/-- `editable_snapshot_for_config` -/
def editableSnapshotForConfig (tables : ConfigTables) (config : ConfigVersion) :
    Except ServiceError ConfigPutRequest :=
  if config.status = .pending then orRaise validationError config.sourceConfig.validate
  else activeSnapshot tables config

/-- `edit_hash_for_config` -/
def editHashForConfig (tables : ConfigTables) (config : ConfigVersion) :
    Except ServiceError Text := do
  let snapshot ← editableSnapshotForConfig tables config
  pure (editHashForRequest environment snapshot)

/-! ## Publishing display and budget fields -/

/-- The assignments to a live category row. -/
def present (item : CategoryConfigInput) (category : Category) : Category :=
  { category with
    name := item.name
    icon := item.icon
    sortOrder := item.sortOrder
    budgetLimit := item.budgetLimit
    budgetCurrency := item.budgetCurrency }

def presentItem (tables : ConfigTables) (item : CategoryConfigInput) : ConfigTables :=
  { tables with
    categories := Table.modify Category.key item.key (present item) tables.categories }

/-- `apply_config_presentation` -/
def applyConfigPresentation (tables : ConfigTables) (config : ConfigVersion) :
    Except ServiceError ConfigTables := do
  let snapshot ← editableSnapshotForConfig tables config
  snapshot.categories.foldlM
    (fun tables item => do
      let _ ← orRaise (domainError .configCategoryMissing
        "Configuration references a missing category".toList) (tables.categoryByKey item.key)
      pure (presentItem tables item))
    tables

/-! ## Reading -/

def categoryView (rows : List LinkedRule) (item : CategoryConfigInput) :
    Except ServiceError CategoryConfigView := do
  let row ← orRaise (keyError item.key)
    (Table.get (fun row : LinkedRule => row.category.key) rows item.key)
  pure { item with
    id := uuidText row.category.id
    ruleVersion := row.rule.version
    ruleHash := row.rule.ruleHash }

/-- `_version_view` -/
def versionView (tables : ConfigTables) (syncState : Option SyncState) (config : ConfigVersion) :
    Except ServiceError ConfigVersionView := do
  let snapshot ← editableSnapshotForConfig tables config
  let rows := rulesForConfig tables config.id
  let categories ← (sortedOn (fun item : CategoryConfigInput => toLex (item.sortOrder, item.key))
    snapshot.categories).mapM (categoryView rows)
  let hash ← editHashForConfig environment tables config
  pure {
    id := uuidText config.id
    version := config.version
    status := config.status
    timezone := snapshot.timezone
    displayCurrency := snapshot.displayCurrency
    aggregationVersion := snapshot.aggregationVersion
    configHash := hash
    requiresFullRebuild := config.status = .pending ∨ (config.status = .active ∧
      syncState.map SyncState.configVersionId ≠ some config.id)
    createdAt := config.createdAt
    activatedAt := config.activatedAt
    categories := categories }

def optionalView (tables : ConfigTables) (syncState : Option SyncState) :
    Option ConfigVersion → Except ServiceError (Option ConfigVersionView)
  | none => pure none
  | some config => do
      let view ← versionView environment tables syncState config
      pure (some view)

/-- `get_config` -/
def getConfig (tables : ConfigTables) (syncState : Option SyncState) :
    Except ServiceError ConfigView := do
  let active ← optionalView environment tables syncState tables.active
  let pending ← optionalView environment tables syncState tables.pending
  pure ⟨active, pending⟩

/-! ## Optimistic locking -/

/-- The base checks of `_put_config` for `put_config_checked`. -/
def checkExpectedBase (tables : ConfigTables) (expectedBaseHash : Option Text) :
    Except ServiceError Unit :=
  match tables.pending.or tables.active, expectedBaseHash with
  | none, none => pure ()
  | none, some _ => throw (conflictError .configVersionConflict
      "No configuration exists; fetch it and retry with a null base hash".toList)
  | some _, none => throw (conflictError .configVersionRequired
      "A current configuration hash is required; fetch it and retry".toList)
  | some base, some expected => do
      let current ← editHashForConfig environment tables base
      require (expected.stripQuotes = current) (conflictError .configVersionConflict
        "The configuration being edited changed; fetch it and retry".toList)

/-- The base checks of `_put_config` for `put_config`. -/
def checkIfMatch (tables : ConfigTables) (ifMatch : Option Text) : Except ServiceError Unit :=
  match tables.pending.or tables.active, ifMatch with
  | some _, none => throw (conflictError .configVersionRequired
      "A current configuration hash is required; fetch it and retry".toList)
  | some base, some tag => do
      let current ← editHashForConfig environment tables base
      require (tag.stripQuotes = current) (conflictError .configVersionConflict
        "The configuration being edited changed; fetch it and retry".toList)
  | none, some _ => throw (conflictError .configVersionConflict
      "No configuration exists; retry without If-Match".toList)
  | none, none => pure ()

/-- The two check sequences guard the same write. -/
def checkBase (tables : ConfigTables) (ifMatch : Option Text) (checkExpected : Bool)
    (expectedBaseHash : Option Text) : Except ServiceError Unit :=
  if checkExpected then checkExpectedBase environment tables expectedBaseHash
  else checkIfMatch environment tables ifMatch

/-! ## Writing -/

def supersede (now : Datetime) (id : Nat) (tables : ConfigTables) : ConfigTables :=
  { tables with
    configVersions := Table.modify ConfigVersion.id id
      (fun config => { config with status := .superseded, supersededAt := some now })
      tables.configVersions }

def supersedePending (now : Datetime) (tables : ConfigTables) : ConfigTables :=
  match tables.pending with
  | none => tables
  | some pending => supersede now pending.id tables

/-- The branch of `_put_config` for a request with the active version's semantics. -/
def publishEdits (now : Datetime) (tables : ConfigTables) (active : ConfigVersion)
    (request : ConfigPutRequest) : Except ServiceError ConfigTables :=
  let rows := rulesForConfig tables active.id
  request.categories.foldlM
    (fun tables item => do
      let _ ← orRaise (keyError item.key)
        (Table.get (fun row : LinkedRule => row.category.key) rows item.key)
      pure (presentItem tables item))
    (supersedePending now tables)

/-- Whether the pending version already is what the request asks for. -/
def pendingUnchanged (tables : ConfigTables) (request : ConfigPutRequest) :
    Except ServiceError Bool :=
  match tables.pending with
  | none => pure false
  | some pending =>
      if semanticHashForConfig environment tables pending = configHash environment request then do
        let hash ← editHashForConfig environment tables pending
        pure (hash = editHashForRequest environment request)
      else
        pure false

/-- The category row for a requested key, inserted when there is none. -/
def ensureCategory (tables : ConfigTables) (item : CategoryConfigInput) :
    ConfigTables × Category :=
  match tables.categoryByKey item.key with
  | some category => (tables, category)
  | none =>
      let category : Category := {
        id := Table.freshId (tables.categories.map Category.id)
        key := item.key
        name := item.name
        icon := item.icon
        sortOrder := item.sortOrder
        budgetLimit := item.budgetLimit
        budgetCurrency := item.budgetCurrency }
      ({ tables with categories := tables.categories ++ [category] }, category)

/-- The rule version of a category with the requested semantics, inserted under the next
version number when there is none. -/
def ensureRule (tables : ConfigTables) (categoryId : Nat) (item : CategoryConfigInput) :
    ConfigTables × RuleVersion :=
  match tables.ruleVersions.find? fun rule =>
      rule.categoryId = categoryId ∧ rule.ruleHash = ruleHash environment item with
  | some rule => (tables, rule)
  | none =>
      let rule : RuleVersion := {
        id := Table.freshId (tables.ruleVersions.map RuleVersion.id)
        categoryId := categoryId
        version := Table.freshId ((tables.ruleVersions.filter fun rule =>
          rule.categoryId = categoryId).map RuleVersion.version)
        lookbackDays := item.lookbackDays
        classificationInstruction := item.classificationInstruction
        isEnabled := item.enabled
        ruleHash := ruleHash environment item }
      ({ tables with ruleVersions := tables.ruleVersions ++ [rule] }, rule)

/-- One round of the selection loop: the tables and the rule chosen for the item. -/
def selectRule (progress : ConfigTables × List (Nat × Nat)) (item : CategoryConfigInput) :
    ConfigTables × List (Nat × Nat) :=
  let (withCategory, category) := ensureCategory progress.1 item
  let (withRule, rule) := ensureRule environment withCategory category.id item
  (withRule, progress.2 ++ [(category.id, rule.id)])

def selectRules (tables : ConfigTables) (request : ConfigPutRequest) :
    ConfigTables × List (Nat × Nat) :=
  request.categories.foldl (selectRule environment) (tables, [])

/-- The row `_put_config` adds for a new version. -/
def newVersion (clock : Clock) (tables : ConfigTables) (request : ConfigPutRequest)
    (first : Bool) : ConfigVersion where
  id := Table.freshId (tables.configVersions.map ConfigVersion.id)
  version := Table.freshId (tables.configVersions.map ConfigVersion.version)
  status := if first then .active else .pending
  timezone := request.timezone
  displayCurrency := request.displayCurrency
  aggregationVersion := request.aggregationVersion
  configHash := configHash environment request
  sourceConfig := request
  createdAt := clock.serverNow
  activatedAt := if first then some clock.now else none
  supersededAt := none

def insertVersion (tables : ConfigTables) (config : ConfigVersion) (selected : List (Nat × Nat)) :
    ConfigTables :=
  { tables with
    configVersions := tables.configVersions ++ [config]
    configVersionRules := tables.configVersionRules ++
      selected.map fun choice => ⟨config.id, choice.1, choice.2⟩ }

/-- The branch of `_put_config` that stores a new version. -/
def createVersion (clock : Clock) (tables : ConfigTables) (request : ConfigPutRequest) :
    Except ServiceError ConfigTables :=
  let selection := selectRules environment tables request
  let superseded := supersedePending clock.now selection.1
  let first := tables.active.isNone
  let config := newVersion environment clock superseded request first
  let inserted := insertVersion superseded config selection.2
  if first then applyConfigPresentation inserted config else pure inserted

/-- What `_put_config` flushes before `_commit_config_view`. -/
def writeConfig (clock : Clock) (tables : ConfigTables) (request : ConfigPutRequest) :
    Except ServiceError ConfigTables :=
  match tables.active.filter fun active =>
      semanticHashForConfig environment tables active = configHash environment request with
  | some active => publishEdits clock.now tables active request
  | none => do
      let unchanged ← pendingUnchanged environment tables request
      if unchanged then pure tables else createVersion environment clock tables request

/-- What later sessions read once the session commits. -/
def commit (tables : ConfigTables) : ConfigTables :=
  { tables with
    categories := tables.categories.map fun category =>
      { category with budgetLimit := Money.reload environment.dialect category.budgetLimit } }

/-- `_put_config` -/
def putConfigLocked (clock : Clock) (database : Database) (request : ConfigPutRequest)
    (ifMatch : Option Text) (checkExpected : Bool) (expectedBaseHash : Option Text) :
    Except ServiceError (Database × ConfigView) := do
  validateTimezone environment request.timezone
  require (∀ category ∈ request.categories, category.budgetCurrency = request.displayCurrency)
    (domainError .mixedBudgetCurrencyNotSupported
      "Each category budget_currency must match display_currency in v1".toList)
  checkBase environment database.config ifMatch checkExpected expectedBaseHash
  let tables ← writeConfig environment clock database.config request
  let view ← getConfig environment tables database.syncState
  pure ({ database with config := commit environment tables }, view)

/-- `put_config` -/
def putConfig (clock : Clock) (database : Database) (request : ConfigPutRequest)
    (ifMatch : Option Text) : Except ServiceError (Database × ConfigView) :=
  putConfigLocked environment clock database request ifMatch false none

/-- `put_config_checked` -/
def putConfigChecked (clock : Clock) (database : Database) (request : ConfigPutRequest)
    (expectedConfigHash : Option Text) : Except ServiceError (Database × ConfigView) :=
  putConfigLocked environment clock database request none true expectedConfigHash

end ConfigService

end RollingBudget
