import RollingBudget.Migrations.PostgresUpgrade
import RollingBudget.Services.Calls

namespace RollingBudget.SingleUser

/-! When the two forms of revision `0003_single_user` complete and agree. On PostgreSQL the
trigger that makes `refresh_batches` immutable is still installed when the upgrade rewrites the
item counts, and so a single batch is enough to stop it. -/

variable {context : MigrationContext} {dialect : Dialect} {now : Datetime}
  {legacy : LegacyDatabase} {content : SingleUserDatabase}

/-! ## The whole upgrade -/

theorem upgrade_eq (dialect : Dialect) (single : SingleScope context legacy)
    (convertible : legacy.Convertible) :
    upgrade context dialect now legacy =
      (match dialect with
      | .sqlite => sqliteUpgrade now legacy
      | .postgresql => postgresUpgrade now legacy)
        (legacy.configVersions.map (configRewriteOf context legacy.toConfigContent false))
        ((legacy.refreshRuns.map LegacyRun.requestColumns).map
          (RequestColumns.rewriteOf context false)) := by
  have requests : ∀ row ∈ legacy.refreshRuns.map LegacyRun.requestColumns, row.Complete := by
    intro row member
    rcases List.mem_map.mp member with ⟨run, runMember, rfl⟩
    exact convertible.requests run runMember
  unfold upgrade
  rw [assertSingleLegacyScope_of context single, Outcome.ok_bind,
    configRewrites_eq_ok_iff.mpr ⟨convertible.documents, rfl⟩, Outcome.ok_bind,
    requestHashRewrites_eq_ok_iff.mpr ⟨requests, rfl⟩, Outcome.ok_bind]
  cases dialect <;> rfl

/-- Nothing is upgraded before every value has been parsed. -/
theorem convertible_of_upgrade (completed : upgrade context dialect now legacy = .ok content) :
    legacy.Convertible := by
  rcases Outcome.bind_eq_ok.mp completed with ⟨_, _, completed⟩
  rcases Outcome.bind_eq_ok.mp completed with ⟨_, configs, completed⟩
  rcases Outcome.bind_eq_ok.mp completed with ⟨_, requests, _⟩
  refine ⟨(configRewrites_eq_ok_iff.mp configs).1, ?_⟩
  intro run member
  exact (requestHashRewrites_eq_ok_iff.mp requests).1 _ (List.mem_map_of_mem member)

/-- Whatever the dialect, a completed upgrade has left the same rows. -/
theorem eq_upgraded (constraints : legacy.Constraints)
    (completed : upgrade context dialect now legacy = .ok content) :
    content = upgraded context now legacy := by
  rcases Outcome.bind_eq_ok.mp completed with ⟨_, _, completed⟩
  rcases Outcome.bind_eq_ok.mp completed with ⟨_, configs, completed⟩
  rcases Outcome.bind_eq_ok.mp completed with ⟨_, requests, completed⟩
  rw [(configRewrites_eq_ok_iff.mp configs).2, (requestHashRewrites_eq_ok_iff.mp requests).2]
    at completed
  cases dialect with
  | sqlite => exact eq_upgraded_of_sqliteUpgrade constraints completed
  | postgresql => exact eq_upgraded_of_postgresUpgrade constraints completed

/-! ## What is carried over -/

private theorem forall₂_map {α β : Type} {related : α → β → Prop} {transform : α → β}
    (each : ∀ row, related row (transform row)) (rows : List α) :
    List.Forall₂ related rows (rows.map transform) :=
  List.forall₂_map_right_iff.mpr (List.forall₂_same.mpr fun row _ => each row)

namespace Sample

def digest : Text := List.replicate 64 '0'

/-- Every text has one digest. -/
def constantDigest : MigrationContext where
  environment := {
    sha256 := fun _ => digest
    zoneInfo := fun _ => .found
    localDate := fun _ now => now.date
    dialect := .sqlite
    offset := "+00:00".toList }
  valueText _ := []

def today : Datetime := RollingBudget.Sample.clock.now

def config : ConfigVersionRow where
  id := 1
  version := 1
  status := .active
  timezone := "UTC".toList
  displayCurrency := "EUR".toList
  aggregationVersion := 1
  configHash := digest
  sourceConfig := .obj [("scope_key".toList, .str "personal".toList),
    ("account_ids".toList, .arr [.str "checking".toList])]
  createdAt := today
  activatedAt := some today
  supersededAt := none

/-- A committed run with the given number of batches, each of one item. -/
def run (batches : Nat) : LegacyRun where
  id := 1
  idempotencyKey := "first-refresh".toList
  requestHash := digest
  mode := .full
  state := .committed
  configVersionId := 1
  scopeKey := "personal".toList
  sourceFromDate := some RollingBudget.Sample.month.sourceFromDate
  sourceToDate := some RollingBudget.Sample.today
  expectedAccounts := .arr (["savings".toList, "checking".toList].map .str)
  accountManifest := some (.arr [])
  expectedBatchCount := some batches
  expectedSourceCount := some batches
  expectedStoreCount := some batches
  expectedSkipCount := some 0
  sourceComplete := true
  inputChecksum := some digest
  computedChecksum := some digest
  cursorBefore := none
  cursorAfter := none
  receivedBatchCount := batches
  actualSourceCount := batches
  actualStoreCount := batches
  actualSkipCount := 0
  createdAt := today
  uploadedAt := some today
  validatedAt := some today
  committedAt := some today
  failedAt := none
  errorCode := none

def batch : LegacyBatch where
  runId := 1
  batchIndex := 0
  idempotencyKey := "first-batch".toList
  requestHash := digest
  checksum := digest
  itemCount := 1
  storeCount := 1
  skipCount := 0
  createdAt := today

def transaction : LegacyTransaction where
  scopeKey := "personal".toList
  accountId := "checking".toList
  sourceTransactionId := "coffee".toList
  transactionDate := RollingBudget.Sample.earlierDay
  amount := 35000
  currency := "EUR".toList
  status := .pending
  merchant := none
  description := some "Coffee".toList
  refunded := false
  refundAmount := 0
  supersedesSourceTransactionId := none
  sourceHash := digest
  configVersionId := 1
  firstRefreshRunId := 1
  lastRefreshRunId := 1
  firstSeenAt := today
  lastSeenAt := today

def stored (batches : List LegacyBatch) : LegacyDatabase where
  categories := []
  ruleVersions := []
  configVersions := [config]
  configVersionRules := []
  refreshRuns := [run batches.length]
  refreshBatches := batches
  stagedTransactions := []
  stagedTransactionCategories := []
  transactions := [transaction]
  transactionCategories := []
  syncStates := [⟨"personal".toList, .obj [], digest, 1, 1, 1, today⟩]

theorem digests (text : Text) : IsSha256 (constantDigest.environment.sha256 text) :=
  List.length_replicate

theorem convertible (batches : List LegacyBatch) : (stored batches).Convertible := by
  constructor
  · intro row member
    rw [List.mem_singleton.mp member]
    exact ⟨_, rfl⟩
  · intro row member
    rw [List.mem_singleton.mp member]
    exact ⟨⟨["savings".toList, "checking".toList], rfl⟩, rfl, rfl⟩

theorem constraints_empty : (stored []).Constraints := by
  constructor
  · constructor <;> decide +kernel
  all_goals decide +kernel

end Sample

end RollingBudget.SingleUser
