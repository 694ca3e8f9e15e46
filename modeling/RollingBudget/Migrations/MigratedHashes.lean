import RollingBudget.Migrations.ServiceRows
import RollingBudget.Migrations.UpgradesAgree
import RollingBudget.Schemas.CanonicalContent
import RollingBudget.Services.RefreshService

namespace RollingBudget.SingleUser

open Sorting ConfigService RefreshService ServiceError

/-! The hashes that revision `0003_single_user` writes are those the services compute. A retry
of a begin request from before the upgrade finds its run, and the hash of a version says what
`semantic_hash_for_config` says. -/

variable {context : MigrationContext} {dialect : Dialect} {now : Datetime}
  {legacy : LegacyDatabase} {content : SingleUserDatabase} {database : Database}

/-! ## Request hashes -/

def modeLiteral : RefreshMode → ModeLiteral
  | .full => .fullRebuild
  | .incremental => .incremental

theorem mode_eq_iff {literal : ModeLiteral} {refreshMode : RefreshMode} :
    mode literal = refreshMode ↔ literal = modeLiteral refreshMode := by
  cases literal <;> cases refreshMode <;> simp [mode, modeLiteral]

/-- The payload that the revision builds from raw columns is the one of a request. -/
theorem requestPayload_eq (refreshMode : RefreshMode) (sourceFromDate sourceToDate : Date)
    (accounts : List Text) :
    requestPayload false refreshMode sourceFromDate.isoformat sourceToDate.isoformat accounts =
      (⟨modeLiteral refreshMode, sourceFromDate, sourceToDate, sorted accounts⟩ :
        RefreshBeginRequest).toJson := by
  cases refreshMode <;> rfl

/-- A request asks for what the run was begun with; the order of accounts is none. -/
structure SameRequest (old : LegacyRun) (accounts : List Text) (request : RefreshBeginRequest) :
    Prop where
  mode : RefreshService.mode request.mode = old.mode
  sourceFromDate : old.sourceFromDate = some request.sourceFromDate
  sourceToDate : old.sourceToDate = some request.sourceToDate
  accounts : request.expectedAccounts.toFinset = accounts.toFinset

theorem newRequestHash_eq_iff (injective : Function.Injective context.environment.sha256)
    {old : LegacyRun} (complete : old.requestColumns.Complete) {accounts : List Text}
    (listed : old.expectedAccounts = stringsJson accounts) (distinct : accounts.Nodup)
    {request : RefreshBeginRequest} (valid : request.Valid) :
    old.requestColumns.newRequestHash context false =
        context.environment.sha256Hex request.toJson ↔ SameRequest old accounts request := by
  rcases Option.isSome_iff_exists.mp complete.sourceFromDate with ⟨first, from_eq⟩
  rcases Option.isSome_iff_exists.mp complete.sourceToDate with ⟨last, to_eq⟩
  change old.sourceFromDate = some first at from_eq
  change old.sourceToDate = some last at to_eq
  have nodup := (perm_sortedOn id accounts).nodup_iff.mpr distinct
  have uniqueAccounts : (sorted request.expectedAccounts).Nodup := by
    rw [valid.sorted_accounts]
    exact valid.uniqueAccounts
  have accounts_iff := sorted_eq_iff nodup uniqueAccounts
  rw [valid.sorted_accounts] at accounts_iff
  rw [newRequestHash_of_columns listed from_eq to_eq, canonicalHash, requestPayload_eq]
  constructor
  · intro equal
    have same := RefreshBeginRequest.eq_of_dumps_eq (injective equal)
    rw [← same]
    refine ⟨mode_eq_iff.mpr rfl, from_eq, to_eq, ?_⟩
    exact (List.toFinset_eq_of_perm _ _ (perm_sortedOn id accounts))
  · intro same
    have mode_eq := mode_eq_iff.mp same.mode
    have first_eq := Option.some.inj (from_eq.symm.trans same.sourceFromDate)
    have last_eq := Option.some.inj (to_eq.symm.trans same.sourceToDate)
    have request_eq : (⟨modeLiteral old.mode, first, last, sorted accounts⟩ :
        RefreshBeginRequest) = request := by
      rw [← mode_eq, first_eq, last_eq, accounts_iff.mpr same.accounts.symm]
    change context.environment.sha256 (RefreshBeginRequest.toJson
      ⟨modeLiteral old.mode, first, last, sorted accounts⟩).dumps = _
    rw [request_eq]
    rfl

/-! ## Replays -/

theorem exists_right {α β : Type} {related : α → β → Prop} {left : List α}
    {right : List β} (pairs : List.Forall₂ related left right) {row : α} (member : row ∈ left) :
    ∃ other ∈ right, related row other := by
  induction pairs with
  | nil => cases member
  | cons head tail induction =>
      rcases List.mem_cons.mp member with rfl | later
      · exact ⟨_, List.mem_cons_self, head⟩
      · rcases induction later with ⟨other, otherMember, holds⟩
        exact ⟨other, List.mem_cons_of_mem _ otherMember, holds⟩

theorem map_eq_map {α β γ : Type} {related : α → β → Prop} {left : List α}
    {right : List β} {first : α → γ} {second : β → γ} (pairs : List.Forall₂ related left right)
    (agree : ∀ row other, related row other → first row = second other) :
    left.map first = right.map second := by
  induction pairs with
  | nil => rfl
  | cons head tail induction => rw [List.map_cons, List.map_cons, agree _ _ head, induction]

/-- The services find the upgraded row of a run under its idempotency key. -/
theorem exists_upgraded_run (constraints : legacy.Constraints)
    (reads : ReadsRequests (upgraded context now legacy) database) {old : LegacyRun}
    (member : old ∈ legacy.refreshRuns) :
    ∃ run, Table.get RefreshRun.idempotencyKey database.refresh.refreshRuns old.idempotencyKey =
        some run ∧ run.id = old.id ∧ run.configVersionId = old.configVersionId ∧
      run.requestHash = old.requestColumns.newRequestHash context false := by
  have rowMember : (upgradedRun now old).setRequestHash
      (old.requestColumns.newRequestHash context false) ∈ (upgraded context now legacy).refreshRuns :=
    List.mem_map_of_mem member
  rcases exists_right reads.refreshRuns rowMember with ⟨run, runMember, columns⟩
  have keys : (upgraded context now legacy).refreshRuns.map RunRow.idempotencyKey =
      database.refresh.refreshRuns.map RefreshRun.idempotencyKey :=
    map_eq_map reads.refreshRuns fun row run same => by rw [same]; rfl
  have nodup : (database.refresh.refreshRuns.map RefreshRun.idempotencyKey).Nodup := by
    rw [← keys, upgraded, List.map_map]
    exact constraints.runs.2
  refine ⟨run, ?_, (congrArg RunRow.id columns).symm, (congrArg RunRow.configVersionId columns).symm,
    (congrArg RunRow.requestHash columns).symm⟩
  have key : run.idempotencyKey = old.idempotencyKey :=
    (congrArg RunRow.idempotencyKey columns).symm
  rw [← key]
  exact Table.get_of_mem nodup runMember

/-- The version of a run is there. -/
theorem exists_config (constraints : legacy.Constraints)
    (reads : ReadsRequests (upgraded context now legacy) database) {old : LegacyRun}
    (member : old ∈ legacy.refreshRuns) :
    ∃ config, database.config.configVersion old.configVersionId = some config := by
  have ids : (upgraded context now legacy).configVersions.map ConfigVersionRow.id =
      database.config.configVersions.map ConfigVersion.id :=
    map_eq_map reads.configVersions fun row config same => by rw [same]; rfl
  have known := constraints.foreignKeys.1.runConfigs old member
  have listed : old.configVersionId ∈ database.config.configVersions.map ConfigVersion.id := by
    rw [← ids, upgraded, List.map_map]
    exact known
  rcases List.mem_map.mp listed with ⟨config, configMember, same⟩
  cases found : database.config.configVersion old.configVersionId with
  | some config => exact ⟨config, rfl⟩
  | none => exact absurd same (Table.get_eq_none_iff.mp found config configMember)

/-! ## Configuration hashes -/

theorem linkedRule_congr {left right : ConfigTables} (categories : left.categories = right.categories)
    (ruleVersions : left.ruleVersions = right.ruleVersions) : linkedRule left = linkedRule right := by
  funext link
  unfold linkedRule ConfigTables.ruleVersion ConfigTables.category
  rw [categories, ruleVersions]

/-- A version links one rule for a category, and so its keys are distinct. -/
theorem nodup_linked_keys {config : ConfigContent} (constraints : config.Constraints)
    (configId : Nat) :
    (((config.configVersionRules.filter fun link => link.configVersionId = configId).filterMap
      (linkedRule config.tables)).map fun row => row.category.key).Nodup := by
  have links := List.Pairwise.filter (fun link => link.configVersionId = configId)
    (List.pairwise_map.mp constraints.links)
  rw [List.Nodup, List.pairwise_map, List.pairwise_filterMap]
  have owner : ∀ link ∈ config.configVersionRules.filter fun link =>
      link.configVersionId = configId, link.configVersionId = configId :=
    fun link member => of_decide_eq_true (List.mem_filter.mp member).2
  refine List.Pairwise.imp_of_mem ?_ links
  intro first second firstMember secondMember different row rowFound other otherFound same
  apply different
  have key : ∀ {link : ConfigVersionRule} {row : LinkedRule},
      linkedRule config.tables link = some row →
        Table.get Category.id config.categories link.categoryId = some row.category := by
    intro link row found
    rcases Option.bind_eq_some_iff.mp found with ⟨rule, _, joined⟩
    rcases Option.map_eq_some_iff.mp joined with ⟨category, categoryFound, rfl⟩
    exact categoryFound
  have rowCategory := key rowFound
  have otherCategory := key otherFound
  have sameCategory : row.category = other.category :=
    List.inj_on_of_nodup_map constraints.categoryKeys (Table.mem_of_get rowCategory)
      (Table.mem_of_get otherCategory) same
  rw [owner first firstMember, owner second secondMember, ← Table.key_of_get rowCategory,
    ← Table.key_of_get otherCategory, sameCategory]

/-- The revision and the services order the same rules by their keys. -/
theorem semanticHash_eq {config : ConfigContent} (constraints : config.Constraints)
    {tables : ConfigTables} (categories : config.categories = tables.categories)
    (ruleVersions : config.ruleVersions = tables.ruleVersions)
    (links : config.configVersionRules = tables.configVersionRules) {row : ConfigVersionRow}
    {version : ConfigVersion} (id_eq : row.id = version.id)
    (timezone : row.timezone = version.timezone)
    (displayCurrency : row.displayCurrency = version.displayCurrency)
    (aggregationVersion : row.aggregationVersion = version.aggregationVersion) :
    semanticHash context config row =
      semanticHashForConfig context.environment tables version := by
  have joined : linkedRule config.tables = linkedRule tables :=
    linkedRule_congr categories ruleVersions
  have nodup := nodup_linked_keys constraints version.id
  have rules : rulesByKey config version.id =
      sortedOn (fun row => row.category.key) (rulesForConfig tables version.id) := by
    unfold rulesByKey
    rw [sortedOn_eq_of_perm _ (perm_sortedOn (fun row : LinkedRule =>
      toLex (row.category.sortOrder, row.category.key)) _).symm nodup, joined, links]
    rfl
  unfold semanticHash semanticHashForConfig canonicalHash Environment.sha256Hex semanticPayload
  rw [List.map_map, id_eq, timezone, displayCurrency, aggregationVersion, rules]
  rfl

/-- A request with the settings and the rules of a version has its semantic hash. -/
theorem configHash_eq_semanticHashForConfig {environment : Environment} {tables : ConfigTables}
    {config : ConfigVersion} {request : ConfigPutRequest}
    (timezone : request.timezone = config.timezone)
    (displayCurrency : request.displayCurrency = config.displayCurrency)
    (aggregationVersion : request.aggregationVersion = config.aggregationVersion)
    (keys : request.keys.Nodup)
    (rules : ((rulesForConfig tables config.id).map fun row =>
      (row.category.key, row.rule.ruleHash)).Perm (ruleHashes environment request)) :
    configHash environment request = semanticHashForConfig environment tables config := by
  have nodup : ((ruleHashes environment request).map Prod.fst).Nodup := by
    rw [ruleHashes, List.map_map]
    exact keys
  have ordered : (sortedOn (fun row => row.category.key) (rulesForConfig tables config.id)).map
      (fun row => (row.category.key, row.rule.ruleHash)) =
        sortedOn Prod.fst (ruleHashes environment request) := by
    rw [map_sortedOn _ _ Prod.fst (fun _ => rfl)]
    exact (sortedOn_eq_of_perm _ rules.symm nodup).symm
  unfold configHash semanticHashForConfig
  rw [ordered, timezone, displayCurrency, aggregationVersion]

/-! ## The migrated database -/

/-- A begin request under the key of a run from before the upgrade is a replay exactly when it
asks for the same. -/
theorem begin_upgraded (injective : Function.Injective context.environment.sha256)
    (constraints : legacy.Constraints) (convertible : legacy.Convertible)
    (reads : ReadsRequests (upgraded context now legacy) database) {old : LegacyRun}
    (member : old ∈ legacy.refreshRuns) {accounts : List Text}
    (listed : old.expectedAccounts = stringsJson accounts) (distinct : accounts.Nodup)
    {request : RefreshBeginRequest} (valid : request.Valid) (clock : Clock)
    (maxBatchItems maxRequestBytes : Nat) :
    (SameRequest old accounts request → ∃ response,
      beginRefresh context.environment clock database request old.idempotencyKey maxBatchItems
        maxRequestBytes = .ok (database, response) ∧ response.runId = old.id) ∧
    (¬SameRequest old accounts request → ∃ message,
      beginRefresh context.environment clock database request old.idempotencyKey maxBatchItems
        maxRequestBytes = .error (conflictError .idempotencyConflict message)) := by
  rcases exists_upgraded_run constraints reads member with ⟨run, found, id_eq, config_eq, hash_eq⟩
  rcases exists_config constraints reads member with ⟨config, configFound⟩
  have replays := newRequestHash_eq_iff injective (convertible.requests old member) listed distinct
    valid
  rw [← hash_eq] at replays
  unfold beginRefresh
  rw [found]
  dsimp only
  constructor
  · intro same
    rw [Outcome.require_of (replays.mpr same), Outcome.ok_bind, config_eq, configFound,
      Outcome.orRaise_some, Outcome.ok_bind]
    exact ⟨_, rfl, id_eq⟩
  · intro different
    unfold require
    rw [if_neg fun equal => different (replays.mp equal)]
    exact ⟨_, rfl⟩

theorem configHash_upgraded (constraints : legacy.Constraints)
    (reads : ReadsRequests (upgraded context now legacy) database) {config : ConfigVersion}
    (member : config ∈ database.config.configVersions) :
    config.configHash = semanticHashForConfig context.environment database.config config := by
  have pairs := reads.configVersions
  rw [upgraded, List.forall₂_map_left_iff] at pairs
  rcases exists_right pairs.flip member with ⟨row, _, columns⟩
  have hash : semanticHash context legacy.toConfigContent row = config.configHash :=
    congrArg ConfigVersionRow.configHash columns
  rw [← hash]
  exact semanticHash_eq constraints.config reads.categories reads.ruleVersions
    reads.configVersionRules (congrArg ConfigVersionRow.id columns)
    (congrArg ConfigVersionRow.timezone columns)
    (congrArg ConfigVersionRow.displayCurrency columns)
    (congrArg ConfigVersionRow.aggregationVersion columns)

/-- The hashes of the migration agree with those of the services. -/
theorem migrated_hashes_agree (context : MigrationContext)
    (injective : Function.Injective context.environment.sha256) (dialect : Dialect)
    (now : Datetime) (legacy : LegacyDatabase) (constraints : legacy.Constraints)
    (content : SingleUserDatabase) (completed : upgrade context dialect now legacy = .ok content)
    (database : Database) (reads : ReadsRequests content database) :
    (∀ old ∈ legacy.refreshRuns, ∀ accounts, old.expectedAccounts = stringsJson accounts →
      accounts.Nodup → ∀ raw request : RefreshBeginRequest, raw.validate = some request →
        ∀ clock maxBatchItems maxRequestBytes,
          (SameRequest old accounts request → ∃ response,
            beginRefresh context.environment clock database request old.idempotencyKey
              maxBatchItems maxRequestBytes = .ok (database, response) ∧
                response.runId = old.id) ∧
          (¬SameRequest old accounts request → ∃ message,
            beginRefresh context.environment clock database request old.idempotencyKey
              maxBatchItems maxRequestBytes =
                .error (conflictError .idempotencyConflict message))) ∧
    ∀ config ∈ database.config.configVersions,
      config.configHash = semanticHashForConfig context.environment database.config config ∧
        ∀ request : ConfigPutRequest, request.timezone = config.timezone →
          request.displayCurrency = config.displayCurrency →
          request.aggregationVersion = config.aggregationVersion → request.keys.Nodup →
          ((rulesForConfig database.config config.id).map fun row =>
            (row.category.key, row.rule.ruleHash)).Perm (ruleHashes context.environment request) →
          config.configHash = configHash context.environment request := by
  have convertible := convertible_of_upgrade completed
  rw [eq_upgraded constraints completed] at reads
  refine ⟨?_, ?_⟩
  · intro old member accounts listed distinct raw request validated clock maxItems maxBytes
    exact begin_upgraded injective constraints convertible reads member listed distinct
      (RefreshBeginRequest.valid_of_validate validated) clock maxItems maxBytes
  · intro config member
    have hash := configHash_upgraded constraints reads member
    refine ⟨hash, ?_⟩
    intro request timezone displayCurrency aggregationVersion keys rules
    exact hash.trans (configHash_eq_semanticHashForConfig timezone displayCurrency
      aggregationVersion keys rules).symm

namespace Sample

/-- Injective, with the length of a digest on the two texts that are hashed. -/
def permuted : MigrationContext where
  environment := { constantDigest.environment with
    sha256 := fun text =>
      Equiv.swap (List.replicate 64 '2')
        (Json.dumps (.obj [("timezone".toList, .str "UTC".toList),
          ("display_currency".toList, .str "EUR".toList),
          ("aggregation_version".toList, .nat 1), ("rules".toList, .arr [])]))
        (Equiv.swap (List.replicate 64 '1')
          (requestPayload false .full RollingBudget.Sample.month.sourceFromDate.isoformat
            RollingBudget.Sample.today.isoformat
            ["checking".toList, "savings".toList]).dumps text) }
  valueText _ := []

/-- What the services read after the upgrade of the small database. -/
def migrated : Database where
  config := {
    categories := []
    ruleVersions := []
    configVersions := [{
      id := 1
      version := 1
      status := .active
      timezone := "UTC".toList
      displayCurrency := "EUR".toList
      aggregationVersion := 1
      configHash := semanticHash permuted (stored []).toConfigContent config
      sourceConfig := ⟨"UTC".toList, "EUR".toList, 1, []⟩
      createdAt := today
      activatedAt := some today
      supersededAt := none }]
    configVersionRules := [] }
  refresh := {
    refreshRuns := [{
      id := 1
      idempotencyKey := "first-refresh".toList
      requestHash := (run 0).requestColumns.newRequestHash permuted false
      mode := .full
      state := .committed
      configVersionId := 1
      sourceFromDate := RollingBudget.Sample.month.sourceFromDate
      sourceToDate := RollingBudget.Sample.today
      expectedAccounts := ["savings".toList, "checking".toList]
      completedAccounts := some ["savings".toList, "checking".toList]
      expectedBatchCount := some 0
      computedChecksum := some digest
      syncRevisionBefore := none
      receivedBatchCount := 0
      actualItemCount := 0
      createdAt := today
      uploadedAt := some today
      validatedAt := some today
      committedAt := some today
      errorCode := none }]
    refreshBatches := []
    stagedTransactions := []
    stagedTransactionCategories := [] }
  ledger := ⟨[], []⟩
  syncState := none

def retry (mode : ModeLiteral) (accounts : List Text) : RefreshBeginRequest where
  mode := mode
  sourceFromDate := RollingBudget.Sample.month.sourceFromDate
  sourceToDate := RollingBudget.Sample.today
  expectedAccounts := accounts

/-- The configuration of the small database, written again. -/
def rewritten : ConfigPutRequest where
  timezone := "UTC".toList
  displayCurrency := "EUR".toList
  aggregationVersion := 1
  categories := []

end Sample

/-- The request of the run is recognized with its two accounts in another order, and neither
with one of them nor in another mode. -/
theorem migrated_hashes_agree_retry :
    (∃ response, beginRefresh Sample.permuted.environment ⟨Sample.today, Sample.today⟩
      Sample.migrated (Sample.retry .fullRebuild ["checking".toList, "savings".toList])
        "first-refresh".toList 100 1000 =
          .ok (Sample.migrated, response) ∧ response.runId = 1) ∧
    (∃ message, beginRefresh Sample.permuted.environment ⟨Sample.today, Sample.today⟩
      Sample.migrated (Sample.retry .fullRebuild ["checking".toList]) "first-refresh".toList
        100 1000 = .error (conflictError .idempotencyConflict message)) ∧
    (∃ message, beginRefresh Sample.permuted.environment ⟨Sample.today, Sample.today⟩
      Sample.migrated (Sample.retry .incremental ["checking".toList, "savings".toList])
        "first-refresh".toList 100 1000 =
          .error (conflictError .idempotencyConflict message)) ∧
    ∀ config ∈ Sample.migrated.config.configVersions,
      config.configHash = configHash Sample.permuted.environment Sample.rewritten := by
  have injective : Function.Injective Sample.permuted.environment.sha256 :=
    (Equiv.injective _).comp (Equiv.injective _)
  have upgrades : (upgrade Sample.permuted .sqlite Sample.today (Sample.stored [])).isOk =
      true := by
    decide +kernel
  rcases Outcome.exists_of_isOk upgrades with ⟨content, completed⟩
  have content_eq := eq_upgraded Sample.constraints_empty completed
  have reads : ReadsRequests content Sample.migrated := by
    rw [content_eq]
    exact ⟨rfl, rfl, rfl, List.Forall₂.cons rfl List.Forall₂.nil,
      List.Forall₂.cons rfl List.Forall₂.nil⟩
  rcases migrated_hashes_agree Sample.permuted injective .sqlite Sample.today
    (Sample.stored []) Sample.constraints_empty content completed Sample.migrated reads with
    ⟨requests, configs⟩
  have agree := requests (Sample.run 0) List.mem_cons_self ["savings".toList, "checking".toList]
    rfl (by decide)
  have both : (Sample.retry .fullRebuild ["checking".toList, "savings".toList]).validate =
      some (Sample.retry .fullRebuild ["checking".toList, "savings".toList]) := by
    decide +kernel
  have one : (Sample.retry .fullRebuild ["checking".toList]).validate =
      some (Sample.retry .fullRebuild ["checking".toList]) := by
    decide +kernel
  have incremental :
      (Sample.retry .incremental ["checking".toList, "savings".toList]).validate =
        some (Sample.retry .incremental ["checking".toList, "savings".toList]) := by
    decide +kernel
  refine ⟨?_, ?_, ?_, ?_⟩
  · apply (agree _ _ both ⟨Sample.today, Sample.today⟩ 100 1000).1
    exact ⟨rfl, rfl, rfl, by decide +kernel⟩
  · apply (agree _ _ one ⟨Sample.today, Sample.today⟩ 100 1000).2
    intro same
    exact absurd same.accounts (by decide +kernel)
  · apply (agree _ _ incremental ⟨Sample.today, Sample.today⟩ 100 1000).2
    intro same
    cases same.mode
  · intro config member
    have only : config.timezone = "UTC".toList ∧ config.displayCurrency = "EUR".toList ∧
        config.aggregationVersion = 1 := by
      rw [List.mem_singleton.mp member]
      exact ⟨rfl, rfl, rfl⟩
    exact (configs config member).2 Sample.rewritten only.1.symm only.2.1.symm only.2.2.symm
      List.nodup_nil List.Perm.nil

end RollingBudget.SingleUser
