import RollingBudget.Migrations.SingleUserRewrites

namespace RollingBudget.SingleUser

open Sorting

/-! The upgrade to `0003_single_user` on SQLite. It copies the old tables, creates the new ones
empty and fills them again; the new triggers come last. Of the old triggers on `config_versions`
only those on the status remain, and no statement assigns a status. -/

variable {context : MigrationContext} {now : Datetime} {legacy : LegacyDatabase}

/-! ## Rows -/

/-- `state IN ('created', 'uploaded', 'validated')` -/
def nonterminal : RefreshRunState → Bool
  | .created => true
  | .uploaded => true
  | .validated => true
  | .committed => false
  | .failed => false

def upgradedRun (now : Datetime) (run : LegacyRun) : RunRow where
  id := run.id
  idempotencyKey := run.idempotencyKey
  requestHash := run.requestHash
  mode := run.mode
  state := if nonterminal run.state then .failed else run.state
  configVersionId := run.configVersionId
  sourceFromDate := run.sourceFromDate
  sourceToDate := run.sourceToDate
  expectedAccounts := run.expectedAccounts
  completedAccounts := if run.state = .committed then some run.expectedAccounts else none
  expectedBatchCount := run.expectedBatchCount
  computedChecksum := run.computedChecksum
  syncRevisionBefore := none
  receivedBatchCount := run.receivedBatchCount
  actualItemCount := run.actualStoreCount
  createdAt := run.createdAt
  uploadedAt := run.uploadedAt
  validatedAt := run.validatedAt
  committedAt := run.committedAt
  failedAt := if nonterminal run.state then some now else run.failedAt
  errorCode := if nonterminal run.state then some "upgrade_invalidated".toList else run.errorCode

def upgradedBatch (batch : LegacyBatch) : BatchRow where
  runId := batch.runId
  batchIndex := batch.batchIndex
  idempotencyKey := batch.idempotencyKey
  requestHash := batch.requestHash
  checksum := batch.checksum
  itemCount := batch.storeCount
  createdAt := batch.createdAt

def upgradedTransaction (transaction : LegacyTransaction) : TransactionRow where
  accountId := transaction.accountId
  accountName := none
  sourceId := transaction.sourceTransactionId
  transactionDate := transaction.transactionDate
  amount := transaction.amount
  currency := transaction.currency
  pending := transaction.status = .pending
  merchant := transaction.merchant
  name := transaction.description
  refunded := transaction.refunded
  refundAmount := transaction.refundAmount
  pendingSourceId := transaction.supersedesSourceTransactionId
  sourceHash := transaction.sourceHash
  configVersionId := transaction.configVersionId
  firstRefreshRunId := transaction.firstRefreshRunId
  lastRefreshRunId := transaction.lastRefreshRunId
  firstSeenAt := transaction.firstSeenAt
  lastSeenAt := transaction.lastSeenAt

def upgradedCategory (link : LegacyTransactionCategory) : TransactionCategory where
  accountId := link.accountId
  sourceId := link.sourceTransactionId
  categoryId := link.categoryId
  configVersionId := link.configVersionId
  ruleVersionId := link.ruleVersionId

def upgradedSyncState (state : LegacySyncState) : SyncState where
  configVersionId := state.configVersionId
  lastRefreshRunId := state.lastRefreshRunId
  revision := state.revision
  updatedAt := state.updatedAt

def RunRow.setRequestHash (requestHash : Text) (run : RunRow) : RunRow :=
  { run with requestHash := requestHash }

/-! ## The upgrade -/

/-- `_sqlite_upgrade` -/
def sqliteUpgrade (now : Datetime) (legacy : LegacyDatabase)
    (configRewrites : List ConfigRewrite) (requestRewrites : List RequestRewrite) :
    Except MigrationError SingleUserDatabase := do
  let refreshRuns := legacy.refreshRuns.map (upgradedRun now)
  require (SingleUserDatabase.AdmitsRuns refreshRuns) .integrityError
  let refreshBatches := legacy.refreshBatches.map upgradedBatch
  require (SingleUserDatabase.AdmitsBatches refreshBatches) .integrityError
  let transactions := legacy.transactions.map upgradedTransaction
  require (SingleUserDatabase.AdmitsTransactions transactions) .integrityError
  let transactionCategories := legacy.transactionCategories.map upgradedCategory
  require (SingleUserDatabase.AdmitsCategories transactionCategories) .integrityError
  let syncStates := legacy.syncStates.map upgradedSyncState
  require (SingleUserDatabase.AdmitsSyncStates syncStates) .integrityError
  let configVersions ← applyConfigRewrites configRewrites legacy.configVersions
  let refreshRuns ←
    applyRequestHashRewrites RunRow.id RunRow.setRequestHash requestRewrites refreshRuns
  let content : SingleUserDatabase := {
    categories := legacy.categories
    ruleVersions := legacy.ruleVersions
    configVersions := configVersions
    configVersionRules := legacy.configVersionRules
    refreshRuns := refreshRuns
    refreshBatches := refreshBatches
    stagedTransactions := []
    stagedTransactionCategories := []
    transactions := transactions
    transactionCategories := transactionCategories
    syncStates := syncStates }
  require content.ForeignKeys .foreignKeyViolations
  pure content

/-! ## What it leaves -/

/-- The values that the rewrites parse are there: a document in each configuration, and in each
run a list of strings and both dates. -/
structure LegacyDatabase.Convertible (legacy : LegacyDatabase) : Prop where
  documents : ∀ config ∈ legacy.configVersions, IsObject config.sourceConfig
  requests : ∀ run ∈ legacy.refreshRuns, run.requestColumns.Complete

/-- The rows that both forms of the upgrade are to leave. -/
def upgraded (context : MigrationContext) (now : Datetime) (legacy : LegacyDatabase) :
    SingleUserDatabase where
  categories := legacy.categories
  ruleVersions := legacy.ruleVersions
  configVersions :=
    legacy.configVersions.map (rewrittenConfig context legacy.toConfigContent false)
  configVersionRules := legacy.configVersionRules
  refreshRuns := legacy.refreshRuns.map fun run =>
    (upgradedRun now run).setRequestHash (run.requestColumns.newRequestHash context false)
  refreshBatches := legacy.refreshBatches.map upgradedBatch
  stagedTransactions := []
  stagedTransactionCategories := []
  transactions := legacy.transactions.map upgradedTransaction
  transactionCategories := legacy.transactionCategories.map upgradedCategory
  syncStates := legacy.syncStates.map upgradedSyncState

/-! ## Constraints of the new rows -/

theorem Refers.map {α β γ δ κ ι : Type} [DecidableEq κ] [DecidableEq ι] {rows : List α}
    {key : α → κ} {parents : List β} {parentKey : β → κ} {row : α → γ} {parent : β → δ}
    {key' : γ → ι} {parentKey' : δ → ι} (refers : Refers rows key parents parentKey)
    (project : κ → ι) (keys : ∀ source, key' (row source) = project (key source))
    (parentKeys : ∀ source, parentKey' (parent source) = project (parentKey source)) :
    Refers (rows.map row) key' (parents.map parent) parentKey' := by
  intro new member
  rcases List.mem_map.mp member with ⟨source, sourceMember, rfl⟩
  rcases List.mem_map.mp (refers source sourceMember) with ⟨owner, ownerMember, same⟩
  rw [keys, ← same, ← parentKeys]
  exact List.mem_map_of_mem (List.mem_map_of_mem ownerMember)

private theorem committed_of_upgraded {state : RefreshRunState}
    (committed : (if nonterminal state then RefreshRunState.failed else state) = .committed) :
    state = .committed := by
  cases state with
  | committed => rfl
  | _ => cases committed

theorem checks_upgradedRun {run : LegacyRun} (checks : run.Checks) :
    (upgradedRun now run).Checks := by
  refine ⟨checks.dates, checks.computedChecksum, checks.requestHash, ?_, ?_⟩
  · intro failed
    change (if nonterminal run.state then _ else run.state) = RefreshRunState.failed at failed
    change (if nonterminal run.state then some now else run.failedAt).isSome
    split at failed
    · next isOpen => rw [if_pos isOpen, Option.isSome_some]
    · next isTerminal =>
      rw [if_neg isTerminal]
      exact checks.failed failed
  · intro committed
    have state : run.state = .committed := committed_of_upgraded committed
    have manifest := checks.committed state
    have completed : (upgradedRun now run).completedAccounts = some run.expectedAccounts :=
      if_pos state
    exact ⟨manifest.batchCount, manifest.checksum, by rw [completed, Option.isSome_some],
      manifest.uploadedAt, manifest.validatedAt, manifest.committedAt⟩

theorem admitsRuns_upgraded (admitted : LegacyDatabase.AdmitsRuns legacy.refreshRuns) :
    SingleUserDatabase.AdmitsRuns (legacy.refreshRuns.map (upgradedRun now)) := by
  rcases admitted with ⟨⟨checks, ids⟩, keys⟩
  refine ⟨⟨?_, ?_⟩, ?_⟩
  · intro row member
    rcases List.mem_map.mp member with ⟨run, runMember, rfl⟩
    exact checks_upgradedRun (checks run runMember)
  · rw [List.map_map]
    exact ids
  · rw [List.map_map]
    exact keys

theorem admitsBatches_upgraded (admitted : LegacyDatabase.AdmitsBatches legacy.refreshBatches) :
    SingleUserDatabase.AdmitsBatches (legacy.refreshBatches.map upgradedBatch) := by
  rcases admitted with ⟨⟨checks, indices⟩, keys⟩
  refine ⟨⟨?_, ?_⟩, ?_⟩
  · intro row member
    rcases List.mem_map.mp member with ⟨batch, batchMember, rfl⟩
    exact (checks batch batchMember).2
  · rw [List.map_map]
    exact indices
  · rw [List.map_map]
    exact keys

section Scope

variable (single : SingleScope context legacy)

include single

theorem admitsTransactions_upgraded
    (admitted : LegacyDatabase.AdmitsTransactions legacy.transactions) :
    SingleUserDatabase.AdmitsTransactions (legacy.transactions.map upgradedTransaction) := by
  refine ⟨?_, ?_⟩
  · intro row member
    rcases List.mem_map.mp member with ⟨transaction, transactionMember, rfl⟩
    exact admitted.1 transaction transactionMember
  · rw [List.map_map]
    apply Table.nodup_map_of_separates admitted.2
    intro left leftMember right rightMember same
    have scope := single left.scopeKey (by simp [legacyScopes]; grind) right.scopeKey
      (by simp [legacyScopes]; grind)
    simp only [Function.comp_apply, upgradedTransaction, Prod.mk.injEq] at same
    rw [scope, same.1, same.2]

theorem admitsCategories_upgraded
    (admitted : LegacyDatabase.AdmitsCategories legacy.transactionCategories) :
    SingleUserDatabase.AdmitsCategories (legacy.transactionCategories.map upgradedCategory) := by
  unfold SingleUserDatabase.AdmitsCategories
  rw [List.map_map]
  apply Table.nodup_map_of_separates admitted
  intro left leftMember right rightMember same
  have scope := single left.scopeKey (by simp [legacyScopes]; grind) right.scopeKey
    (by simp [legacyScopes]; grind)
  simp only [Function.comp_apply, upgradedCategory, Prod.mk.injEq] at same
  rw [scope, same.1, same.2.1, same.2.2]

theorem admitsSyncStates_upgraded
    (admitted : LegacyDatabase.AdmitsSyncStates legacy.syncStates) :
    SingleUserDatabase.AdmitsSyncStates (legacy.syncStates.map upgradedSyncState) := by
  refine ⟨?_, ?_⟩
  · rw [List.length_map]
    cases states : legacy.syncStates with
    | nil => exact Nat.zero_le 1
    | cons first rest =>
        cases rest with
        | nil => exact le_rfl
        | cons second rest =>
            have scopes := admitted.1.2
            have same := single first.scopeKey (by simp [legacyScopes, states])
              second.scopeKey (by simp [legacyScopes, states])
            rw [states, List.map_cons, List.map_cons, same] at scopes
            simp at scopes
  · rw [List.map_map]
    exact admitted.2

end Scope

theorem foreignKeys_upgraded (context : MigrationContext) (now : Datetime)
    (constraints : legacy.Constraints) :
    (upgraded context now legacy).ForeignKeys := by
  rcases constraints.foreignKeys with ⟨staging, ledger⟩
  refine ⟨⟨?_, ?_, ?_, ?_, ?_, ?_⟩, ⟨?_, ?_, ?_, ?_, ?_⟩⟩
  · exact staging.runConfigs.map id (fun _ => rfl) fun _ => rfl
  · exact staging.batchRuns.map id (fun _ => rfl) fun _ => rfl
  · exact List.forall_mem_nil _
  · exact List.forall_mem_nil _
  · exact List.forall_mem_nil _
  · exact List.forall_mem_nil _
  · exact ledger.firstRuns.map Prod.fst (fun _ => rfl) fun _ => rfl
  · exact ledger.lastRuns.map (fun key => (key.1, key.2.2)) (fun _ => rfl) fun _ => rfl
  · exact ledger.categories.map Prod.snd (fun _ => rfl) fun _ => rfl
  · intro row member
    rcases List.mem_map.mp member with ⟨link, linkMember, rfl⟩
    exact ledger.categoryRules link linkMember
  · exact ledger.syncRuns.map (fun key => (key.1, key.2.2)) (fun _ => rfl) fun _ => rfl

/-! ## The result -/

private theorem rewrites_upgradedRun (now : Datetime) (runs : List LegacyRun) :
    (runs.map LegacyRun.requestColumns).map (RequestColumns.rewriteOf context false) =
      (runs.map (upgradedRun now)).map fun row => row.requestColumns.rewriteOf context false := by
  rw [List.map_map, List.map_map]
  rfl

private theorem setRequestHash_upgradedRun (now : Datetime) (runs : List LegacyRun) :
    ((runs.map (upgradedRun now)).map fun row =>
        row.setRequestHash (row.requestColumns.newRequestHash context false)) =
      runs.map fun run =>
        (upgradedRun now run).setRequestHash (run.requestColumns.newRequestHash context false) := by
  rw [List.map_map]
  rfl

/-- A completed upgrade has left these rows. -/
theorem eq_upgraded_of_sqliteUpgrade (constraints : legacy.Constraints)
    {content : SingleUserDatabase}
    (completed : sqliteUpgrade now legacy
      (legacy.configVersions.map (configRewriteOf context legacy.toConfigContent false))
      ((legacy.refreshRuns.map LegacyRun.requestColumns).map
        (RequestColumns.rewriteOf context false)) = .ok content) :
    content = upgraded context now legacy := by
  rcases Outcome.bind_eq_ok.mp completed with ⟨_, runs, completed⟩
  rcases Outcome.bind_eq_ok.mp completed with ⟨_, _, completed⟩
  rcases Outcome.bind_eq_ok.mp completed with ⟨_, _, completed⟩
  rcases Outcome.bind_eq_ok.mp completed with ⟨_, _, completed⟩
  rcases Outcome.bind_eq_ok.mp completed with ⟨_, _, completed⟩
  rcases Outcome.bind_eq_ok.mp completed with ⟨configVersions, configs, completed⟩
  rcases Outcome.bind_eq_ok.mp completed with ⟨refreshRuns, requests, completed⟩
  rcases Outcome.bind_eq_ok.mp completed with ⟨_, _, written⟩
  have ids := (Outcome.require_eq_ok.mp runs).1.2
  rw [rewrites_upgradedRun now] at requests
  have versions_eq := eq_of_applyConfigRewrites constraints.config.versionIds configs
  have runs_eq := eq_of_applyRequestHashRewrites RunRow.setRequestHash RunRow.requestColumns ids
    (fun _ => rfl) (fun _ _ => rfl) requests
  rw [setRequestHash_upgradedRun] at runs_eq
  rw [Outcome.pure_eq_ok, versions_eq, runs_eq] at written
  exact written.symm

theorem sqliteUpgrade_eq_ok (digests : ∀ text, IsSha256 (context.environment.sha256 text))
    (constraints : legacy.Constraints) (single : SingleScope context legacy)
    (convertible : legacy.Convertible) :
    sqliteUpgrade now legacy
        (legacy.configVersions.map (configRewriteOf context legacy.toConfigContent false))
        ((legacy.refreshRuns.map LegacyRun.requestColumns).map
          (RequestColumns.rewriteOf context false)) =
      .ok (upgraded context now legacy) := by
  have hashes : applyRequestHashRewrites RunRow.id RunRow.setRequestHash
      ((legacy.refreshRuns.map LegacyRun.requestColumns).map
        (RequestColumns.rewriteOf context false))
      (legacy.refreshRuns.map (upgradedRun now)) =
        .ok (upgraded context now legacy).refreshRuns := by
    rw [rewrites_upgradedRun now]
    have applied := applyRequestHashRewrites_eq_ok false RunRow.setRequestHash
      RunRow.requestColumns digests (@admitsRuns_upgraded now legacy constraints.runs).1.2
        (fun _ => rfl) (fun _ _ => rfl) (by
        intro row member
        rcases List.mem_map.mp member with ⟨run, runMember, rfl⟩
        exact convertible.requests run runMember)
    rw [setRequestHash_upgradedRun] at applied
    exact applied
  unfold sqliteUpgrade
  dsimp only
  rw [Outcome.require_of (admitsRuns_upgraded constraints.runs), Outcome.ok_bind,
    Outcome.require_of (admitsBatches_upgraded constraints.batches), Outcome.ok_bind,
    Outcome.require_of (admitsTransactions_upgraded single constraints.transactions),
    Outcome.ok_bind, Outcome.require_of (admitsCategories_upgraded single constraints.categories),
    Outcome.ok_bind, Outcome.require_of (admitsSyncStates_upgraded single constraints.syncStates),
    Outcome.ok_bind, applyConfigRewrites_eq_ok digests constraints.config.versionIds,
    Outcome.ok_bind, hashes, Outcome.ok_bind]
  have keys := foreignKeys_upgraded context now constraints
  unfold upgraded at keys ⊢
  rw [Outcome.require_of keys, Outcome.ok_bind]
  rfl

end RollingBudget.SingleUser
