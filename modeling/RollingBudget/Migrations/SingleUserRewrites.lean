import RollingBudget.Migrations.SingleUserTables
import RollingBudget.Services.ConfigService

namespace RollingBudget.SingleUser

open Sorting ConfigService

/-! What revision `0003_single_user` computes before it changes a table: the legacy scopes, the
new configuration documents and hashes, and the new request hashes. -/

/-- The ways in which the revision fails. A statement that violates a check or a unique
constraint is an `integrityError`. -/
inductive MigrationError where
  | multipleScopes
  | sourceConfigNotObject
  | accountsNotStrings
  | incompleteDateRange
  | integrityError
  | foreignKeyViolations
  | triggerRaised
deriving DecidableEq

/-- `valueText` is `str` of a JSON value other than a string. -/
structure MigrationContext where
  environment : Environment
  valueText : JsonValue → Text

/-! ## Values -/

/-- What a driver hands over for a `DATE` column. -/
inductive DateValue where
  | null
  | text (value : Text)
  | date (value : Date)
  | datetime (value : Datetime)

/-- SQLite keeps a date as its text. -/
def fetchDate : Dialect → Option Date → DateValue
  | _, none => .null
  | .sqlite, some date => .text date.isoformat
  | .postgresql, some date => .date date

/-- `_iso_date` -/
def isoDate : DateValue → Except MigrationError Text
  | .datetime value => .ok value.date.isoformat
  | .date value => .ok value.isoformat
  | .text value => if value = [] then .error .incompleteDateRange else .ok value
  | .null => .error .incompleteDateRange

def stringItem : JsonValue → Option Text
  | .str value => some value
  | _ => none

/-- The strings of a JSON string list. -/
def stringList : JsonValue → Option (List Text)
  | .arr items => items.mapM stringItem
  | _ => none

theorem isoDate_fetchDate_eq_ok_iff (dialect : Dialect) {column : Option Date} {text : Text} :
    isoDate (fetchDate dialect column) = .ok text ↔
      ∃ date, column = some date ∧ text = date.isoformat := by
  cases column with
  | none => cases dialect <;> simp [fetchDate, isoDate]
  | some date =>
      have nonempty : date.isoformat ≠ [] := by simp [Date.isoformat]
      cases dialect <;> simp [fetchDate, isoDate, nonempty, eq_comm]

theorem isoDate_fetchDate_postgresql (column : Option Date) :
    isoDate (fetchDate .postgresql column) = isoDate (fetchDate .sqlite column) := by
  cases column with
  | none => rfl
  | some date =>
      have nonempty : date.isoformat ≠ [] := by simp [Date.isoformat]
      simp [fetchDate, isoDate, nonempty]

theorem stringList_arr (texts : List Text) :
    stringList (.arr (texts.map .str)) = some texts := by
  rw [stringList]
  induction texts with
  | nil => rfl
  | cons text texts induction =>
      rw [List.map_cons, List.mapM_cons, induction]
      rfl

theorem stringList_eq_some_iff {value : JsonValue} {texts : List Text} :
    stringList value = some texts ↔ value = .arr (texts.map .str) := by
  constructor
  · intro found
    cases value with
    | arr items =>
        rw [stringList] at found
        congr 1
        induction items generalizing texts with
        | nil =>
            cases found
            rfl
        | cons item items induction =>
            rw [List.mapM_cons] at found
            rcases Option.bind_eq_some_iff.mp found with ⟨text, head, later⟩
            rcases Option.bind_eq_some_iff.mp later with ⟨rest, tail, same⟩
            cases same
            cases item with
            | str value =>
                cases head
                rw [List.map_cons, ← induction tail]
            | _ => cases head
    | _ => cases found
  · rintro rfl
    exact stringList_arr texts

/-! ## Scopes -/

section Scopes

variable (context : MigrationContext)

def scopeText : JsonValue → Text
  | .str value => value
  | value => context.valueText value

/-- The scope that a configuration document names. -/
def sourceScope : JsonValue → Option Text
  | .obj fields =>
      match JsonValue.get fields "scope_key".toList with
      | none => none
      | some .null => none
      | some value => some (scopeText context value)
  | _ => none

/-- `_legacy_scopes` -/
def legacyScopes (legacy : LegacyDatabase) : List Text :=
  legacy.refreshRuns.map LegacyRun.scopeKey ++
    legacy.stagedTransactions.map LegacyStagedTransaction.scopeKey ++
    legacy.stagedTransactionCategories.map LegacyStagedTransactionCategory.scopeKey ++
    legacy.transactions.map LegacyTransaction.scopeKey ++
    legacy.transactionCategories.map LegacyTransactionCategory.scopeKey ++
    legacy.syncStates.map LegacySyncState.scopeKey ++
    legacy.configVersions.filterMap fun config => sourceScope context config.sourceConfig

/-- `_assert_single_legacy_scope` -/
def assertSingleLegacyScope (legacy : LegacyDatabase) : Except MigrationError Unit :=
  require ((legacyScopes context legacy).dedup.length ≤ 1) .multipleScopes

/-- The database uses at most one scope. -/
def SingleScope (legacy : LegacyDatabase) : Prop :=
  ∀ left ∈ legacyScopes context legacy, ∀ right ∈ legacyScopes context legacy, left = right

instance (legacy : LegacyDatabase) : Decidable (SingleScope context legacy) :=
  inferInstanceAs (Decidable (∀ left ∈ legacyScopes context legacy, _))

theorem assertSingleLegacyScope_of {legacy : LegacyDatabase}
    (single : SingleScope context legacy) : assertSingleLegacyScope context legacy = .ok () := by
  apply Outcome.require_of
  cases scopes : (legacyScopes context legacy).dedup with
  | nil => exact Nat.zero_le 1
  | cons first rest =>
      cases rest with
      | nil => exact le_rfl
      | cons second rest =>
          have nodup := List.nodup_dedup (legacyScopes context legacy)
          have listed : ∀ scope ∈ first :: second :: rest, scope ∈ legacyScopes context legacy := by
            intro scope member
            rw [← scopes] at member
            exact List.mem_dedup.mp member
          have same : first = second := single _ (listed _ (by simp)) _ (listed _ (by simp))
          rw [scopes, same] at nodup
          simp at nodup

end Scopes

/-! ## Hashes -/

section Hashes

variable (context : MigrationContext)

/-- `_canonical_hash` -/
def canonicalHash (value : Json) : Text := context.environment.sha256 value.dumps

/-! ### Configurations -/

def ConfigContent.tables (content : ConfigContent) : ConfigTables where
  categories := content.categories
  ruleVersions := content.ruleVersions
  configVersions := []
  configVersionRules := content.configVersionRules

/-- The join of links, categories and rules, ordered by the category keys. Both databases are
taken to compare keys by code points: SQLite does, PostgreSQL does under the collation `C`. -/
def rulesByKey (content : ConfigContent) (configId : Nat) : List LinkedRule :=
  sortedOn (fun row => row.category.key)
    ((content.configVersionRules.filter fun link => link.configVersionId = configId).filterMap
      (linkedRule content.tables))

/-- The semantic hash of a version. -/
def semanticHash (content : ConfigContent) (config : ConfigVersionRow) : Text :=
  canonicalHash context (.obj [
    ("timezone".toList, .str config.timezone),
    ("display_currency".toList, .str config.displayCurrency),
    ("aggregation_version".toList, .nat config.aggregationVersion),
    ("rules".toList, .arr ((rulesByKey content config.id).map fun row =>
      .obj [("category_key".toList, .str row.category.key),
        ("rule_hash".toList, .str row.rule.ruleHash)]))])

/-- The fields of a document without the legacy keys, and with the structural scope when that
is restored. -/
def rewrittenFields (restoreScope : Bool) (fields : List (JsonString × JsonValue)) :
    List (JsonString × JsonValue) :=
  let kept := fields.filter fun field =>
    field.1 ≠ .text "account_ids".toList ∧ field.1 ≠ .text "scope_key".toList
  if restoreScope then kept ++ [(.text "scope_key".toList, .str "personal".toList)] else kept

structure ConfigRewrite where
  id : Nat
  sourceConfig : JsonValue
  configHash : Text

/-- One round of `_config_rewrites`. -/
def configRewrite (content : ConfigContent) (restoreScope : Bool) (config : ConfigVersionRow) :
    Except MigrationError ConfigRewrite :=
  match config.sourceConfig with
  | .obj fields =>
      .ok ⟨config.id, .obj (rewrittenFields restoreScope fields), semanticHash context content config⟩
  | _ => .error .sourceConfigNotObject

/-- `_config_rewrites` -/
def configRewrites (content : ConfigContent) (restoreScope : Bool) :
    Except MigrationError (List ConfigRewrite) :=
  content.configVersions.mapM (configRewrite context content restoreScope)

/-- `_apply_config_rewrites` -/
def applyConfigRewrites (rewrites : List ConfigRewrite) (rows : List ConfigVersionRow) :
    Except MigrationError (List ConfigVersionRow) :=
  rewrites.foldlM (fun table rewrite =>
    require (IsSha256 rewrite.configHash) .integrityError >>= fun _ =>
      pure (Table.modify ConfigVersionRow.id rewrite.id
        (fun row =>
          { row with sourceConfig := rewrite.sourceConfig, configHash := rewrite.configHash })
        table)) rows

/-! ### Requests -/

/-- The columns of `refresh_runs` that the request hash is computed from. -/
structure RequestColumns where
  id : Nat
  mode : RefreshMode
  sourceFromDate : Option Date
  sourceToDate : Option Date
  expectedAccounts : JsonValue

def LegacyRun.requestColumns (run : LegacyRun) : RequestColumns :=
  ⟨run.id, run.mode, run.sourceFromDate, run.sourceToDate, run.expectedAccounts⟩

def RunRow.requestColumns (run : RunRow) : RequestColumns :=
  ⟨run.id, run.mode, run.sourceFromDate, run.sourceToDate, run.expectedAccounts⟩

def modeText : RefreshMode → Text
  | .full => "FULL_REBUILD".toList
  | .incremental => "INCREMENTAL".toList

def requestPayload (restoreScope : Bool) (mode : RefreshMode) (sourceFromDate sourceToDate : Text)
    (accounts : List Text) : Json :=
  .obj ([
    ("mode".toList, .str (modeText mode)),
    ("source_from_date".toList, .str sourceFromDate),
    ("source_to_date".toList, .str sourceToDate),
    ("expected_accounts".toList, .ofTexts (sorted accounts))] ++
    if restoreScope then
      [("scope_key".toList, .str "personal".toList), ("cursor_before".toList, .obj [])]
    else [])

structure RequestRewrite where
  id : Nat
  requestHash : Text

/-- One round of `_request_hash_rewrites`. -/
def requestRewrite (dialect : Dialect) (restoreScope : Bool) (row : RequestColumns) :
    Except MigrationError RequestRewrite := do
  let accounts ← orRaise .accountsNotStrings (stringList row.expectedAccounts)
  let sourceFromDate ← isoDate (fetchDate dialect row.sourceFromDate)
  let sourceToDate ← isoDate (fetchDate dialect row.sourceToDate)
  pure ⟨row.id, canonicalHash context
    (requestPayload restoreScope row.mode sourceFromDate sourceToDate accounts)⟩

/-- `_request_hash_rewrites` -/
def requestHashRewrites (dialect : Dialect) (restoreScope : Bool) (rows : List RequestColumns) :
    Except MigrationError (List RequestRewrite) :=
  rows.mapM (requestRewrite context dialect restoreScope)

/-- `_apply_request_hash_rewrites`, on the table as it is at that point. -/
def applyRequestHashRewrites {Row : Type} (id : Row → Nat) (setRequestHash : Text → Row → Row)
    (rewrites : List RequestRewrite) (rows : List Row) : Except MigrationError (List Row) :=
  rewrites.foldlM (fun table rewrite =>
    require (IsSha256 rewrite.requestHash) .integrityError >>= fun _ =>
      pure (Table.modify id rewrite.id (setRequestHash rewrite.requestHash) table)) rows

end Hashes

/-! ## What the rewrites are -/

section Configurations

variable {context : MigrationContext} {content : ConfigContent} {restoreScope : Bool}

def IsObject (value : JsonValue) : Prop := ∃ fields, value = .obj fields

def rewrittenSource (restoreScope : Bool) : JsonValue → JsonValue
  | .obj fields => .obj (rewrittenFields restoreScope fields)
  | value => value

/-- A version with its new document and hash. -/
def rewrittenConfig (context : MigrationContext) (content : ConfigContent) (restoreScope : Bool)
    (config : ConfigVersionRow) : ConfigVersionRow :=
  { config with
    sourceConfig := rewrittenSource restoreScope config.sourceConfig
    configHash := semanticHash context content config }

def configRewriteOf (context : MigrationContext) (content : ConfigContent) (restoreScope : Bool)
    (config : ConfigVersionRow) : ConfigRewrite :=
  ⟨config.id, rewrittenSource restoreScope config.sourceConfig, semanticHash context content config⟩

theorem configRewrite_eq_ok_iff {config : ConfigVersionRow} {rewrite : ConfigRewrite} :
    configRewrite context content restoreScope config = .ok rewrite ↔
      IsObject config.sourceConfig ∧
        rewrite = configRewriteOf context content restoreScope config := by
  unfold configRewrite configRewriteOf IsObject
  cases config.sourceConfig <;> simp [rewrittenSource, eq_comm]

theorem configRewrites_eq_ok_iff {rewrites : List ConfigRewrite} :
    configRewrites context content restoreScope = .ok rewrites ↔
      (∀ config ∈ content.configVersions, IsObject config.sourceConfig) ∧
        rewrites = content.configVersions.map (configRewriteOf context content restoreScope) :=
  Outcome.mapM_eq_ok_iff fun _ _ => configRewrite_eq_ok_iff

theorem applyConfigRewrites_eq_ok (digests : ∀ text, IsSha256 (context.environment.sha256 text))
    (versionIds : (content.configVersions.map ConfigVersionRow.id).Nodup) :
    applyConfigRewrites
        (content.configVersions.map (configRewriteOf context content restoreScope))
        content.configVersions =
      .ok (content.configVersions.map (rewrittenConfig context content restoreScope)) := by
  unfold applyConfigRewrites
  rw [Outcome.guarded_eq_ok (fun _ => True) trivial]
  · exact congrArg Except.ok (Table.foldl_modify versionIds (fun _ _ => rfl) fun _ _ => rfl)
  · intro _ rewrite member _
    rcases List.mem_map.mp member with ⟨config, _, rfl⟩
    exact ⟨⟨(), Outcome.require_of (digests _)⟩, trivial⟩

theorem eq_of_applyConfigRewrites
    (versionIds : (content.configVersions.map ConfigVersionRow.id).Nodup)
    {rows : List ConfigVersionRow}
    (completed : applyConfigRewrites
      (content.configVersions.map (configRewriteOf context content restoreScope))
      content.configVersions = .ok rows) :
    rows = content.configVersions.map (rewrittenConfig context content restoreScope) :=
  (Outcome.eq_foldl_of_guarded completed).trans
    (Table.foldl_modify versionIds (fun _ _ => rfl) fun _ _ => rfl)

end Configurations

section Requests

variable {context : MigrationContext} {dialect : Dialect} {restoreScope : Bool}

namespace RequestColumns

/-- The columns hold a request: a list of strings and both dates. -/
structure Complete (row : RequestColumns) : Prop where
  accounts : ∃ texts : List Text, row.expectedAccounts = .arr (texts.map .str)
  sourceFromDate : row.sourceFromDate.isSome
  sourceToDate : row.sourceToDate.isSome

def newRequestHash (context : MigrationContext) (restoreScope : Bool) (row : RequestColumns) :
    Text :=
  match requestRewrite context .sqlite restoreScope row with
  | .ok rewrite => rewrite.requestHash
  | .error _ => []

def rewriteOf (context : MigrationContext) (restoreScope : Bool) (row : RequestColumns) :
    RequestRewrite :=
  ⟨row.id, row.newRequestHash context restoreScope⟩

end RequestColumns

/-- The dialects store dates differently and hash the same text. -/
theorem requestRewrite_dialect (dialect : Dialect) (row : RequestColumns) :
    requestRewrite context dialect restoreScope row =
      requestRewrite context .sqlite restoreScope row := by
  cases dialect with
  | sqlite => rfl
  | postgresql =>
      unfold requestRewrite
      rw [isoDate_fetchDate_postgresql, isoDate_fetchDate_postgresql]

theorem requestRewrite_of_columns {row : RequestColumns} {accounts : List Text}
    {sourceFromDate sourceToDate : Date}
    (listed : row.expectedAccounts = .arr (accounts.map .str))
    (from_eq : row.sourceFromDate = some sourceFromDate)
    (to_eq : row.sourceToDate = some sourceToDate) :
    requestRewrite context dialect restoreScope row =
      .ok ⟨row.id, canonicalHash context (requestPayload restoreScope row.mode
        sourceFromDate.isoformat sourceToDate.isoformat accounts)⟩ := by
  have first := (isoDate_fetchDate_eq_ok_iff dialect).mpr ⟨sourceFromDate, from_eq, rfl⟩
  have last := (isoDate_fetchDate_eq_ok_iff dialect).mpr ⟨sourceToDate, to_eq, rfl⟩
  unfold requestRewrite
  rw [listed, stringList_arr, first, last]
  rfl

theorem newRequestHash_of_columns {row : RequestColumns} {accounts : List Text}
    {sourceFromDate sourceToDate : Date}
    (listed : row.expectedAccounts = .arr (accounts.map .str))
    (from_eq : row.sourceFromDate = some sourceFromDate)
    (to_eq : row.sourceToDate = some sourceToDate) :
    row.newRequestHash context restoreScope =
      canonicalHash context (requestPayload restoreScope row.mode
        sourceFromDate.isoformat sourceToDate.isoformat accounts) := by
  unfold RequestColumns.newRequestHash
  rw [requestRewrite_of_columns listed from_eq to_eq]

theorem requestRewrite_eq_ok_iff {row : RequestColumns} {rewrite : RequestRewrite} :
    requestRewrite context dialect restoreScope row = .ok rewrite ↔
      row.Complete ∧ rewrite = row.rewriteOf context restoreScope := by
  constructor
  · intro completed
    have sqlite := (requestRewrite_dialect dialect row).symm.trans completed
    rcases Outcome.bind_eq_ok.mp completed with ⟨accounts, listed, rest⟩
    rcases Outcome.bind_eq_ok.mp rest with ⟨_, first, rest⟩
    rcases Outcome.bind_eq_ok.mp rest with ⟨_, last, same⟩
    rcases (isoDate_fetchDate_eq_ok_iff dialect).mp first with ⟨_, from_eq, _⟩
    rcases (isoDate_fetchDate_eq_ok_iff dialect).mp last with ⟨_, to_eq, _⟩
    refine ⟨⟨⟨accounts, stringList_eq_some_iff.mp (Outcome.orRaise_eq_ok.mp listed)⟩, ?_, ?_⟩, ?_⟩
    · rw [from_eq, Option.isSome_some]
    · rw [to_eq, Option.isSome_some]
    · have id_eq : rewrite.id = row.id := by
        rw [Outcome.pure_eq_ok] at same
        rw [← same]
      unfold RequestColumns.rewriteOf RequestColumns.newRequestHash
      rw [sqlite, ← id_eq]
  · rintro ⟨complete, rfl⟩
    rcases complete.accounts with ⟨accounts, listed⟩
    rcases Option.isSome_iff_exists.mp complete.sourceFromDate with ⟨first, from_eq⟩
    rcases Option.isSome_iff_exists.mp complete.sourceToDate with ⟨last, to_eq⟩
    unfold RequestColumns.rewriteOf
    rw [requestRewrite_of_columns listed from_eq to_eq, newRequestHash_of_columns listed from_eq to_eq]

theorem requestHashRewrites_eq_ok_iff {rows : List RequestColumns} {rewrites : List RequestRewrite} :
    requestHashRewrites context dialect restoreScope rows = .ok rewrites ↔
      (∀ row ∈ rows, row.Complete) ∧
        rewrites = rows.map (RequestColumns.rewriteOf context restoreScope) :=
  Outcome.mapM_eq_ok_iff fun _ _ => requestRewrite_eq_ok_iff

theorem isSha256_newRequestHash (restoreScope : Bool)
    (digests : ∀ text, IsSha256 (context.environment.sha256 text)) {row : RequestColumns}
    (complete : row.Complete) :
    IsSha256 (row.newRequestHash context restoreScope) := by
  rcases complete.accounts with ⟨accounts, listed⟩
  rcases Option.isSome_iff_exists.mp complete.sourceFromDate with ⟨first, from_eq⟩
  rcases Option.isSome_iff_exists.mp complete.sourceToDate with ⟨last, to_eq⟩
  rw [newRequestHash_of_columns listed from_eq to_eq]
  exact digests _

theorem applyRequestHashRewrites_eq_ok {Row : Type} {id : Row → Nat} {rows : List Row}
    (restoreScope : Bool) (setRequestHash : Text → Row → Row) (columns : Row → RequestColumns)
    (digests : ∀ text, IsSha256 (context.environment.sha256 text))
    (nodup : (rows.map id).Nodup) (ids : ∀ row, (columns row).id = id row)
    (keeps : ∀ hash row, id (setRequestHash hash row) = id row)
    (complete : ∀ row ∈ rows, (columns row).Complete) :
    applyRequestHashRewrites id setRequestHash
        (rows.map fun row => (columns row).rewriteOf context restoreScope) rows =
      .ok (rows.map fun row =>
        setRequestHash ((columns row).newRequestHash context restoreScope) row) := by
  unfold applyRequestHashRewrites
  rw [Outcome.guarded_eq_ok (fun _ => True) trivial]
  · exact congrArg Except.ok (Table.foldl_modify nodup (fun row _ => ids row) fun _ _ => keeps _ _)
  · intro _ rewrite member _
    rcases List.mem_map.mp member with ⟨row, rowMember, rfl⟩
    have digest := isSha256_newRequestHash restoreScope digests (complete row rowMember)
    exact ⟨⟨(), Outcome.require_of digest⟩, trivial⟩

theorem eq_of_applyRequestHashRewrites {Row : Type} {id : Row → Nat} {rows rows' : List Row}
    {restoreScope : Bool} (setRequestHash : Text → Row → Row) (columns : Row → RequestColumns)
    (nodup : (rows.map id).Nodup) (ids : ∀ row, (columns row).id = id row)
    (keeps : ∀ hash row, id (setRequestHash hash row) = id row)
    (completed : applyRequestHashRewrites id setRequestHash
      (rows.map fun row => (columns row).rewriteOf context restoreScope) rows = .ok rows') :
    rows' = rows.map fun row =>
      setRequestHash ((columns row).newRequestHash context restoreScope) row :=
  (Outcome.eq_foldl_of_guarded completed).trans
    (Table.foldl_modify nodup (fun row _ => ids row) fun _ _ => keeps _ _)

end Requests

end RollingBudget.SingleUser
