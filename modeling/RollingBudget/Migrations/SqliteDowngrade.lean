import RollingBudget.Migrations.UpgradesAgree

namespace RollingBudget.SingleUser

open Sorting

/-! The downgrade from `0003_single_user` on SQLite, and what an upgrade makes of the rows that
it leaves. Metadata that the newer tables do not have is derived or set to a default. -/

variable {context : MigrationContext} {now : Datetime} {content : SingleUserDatabase}

def personal : Text := "personal".toList

/-! ## Rows -/

/-- The values that `json_each` lists. -/
def jsonEach : JsonValue → List JsonValue
  | .arr items => items
  | .obj fields => fields.map Prod.snd
  | value => [value]

/-- The manifest that `json_group_array` makes of a list of accounts. -/
def accountManifest (accounts : JsonValue) : JsonValue :=
  .arr ((jsonEach accounts).map fun value => .obj [
    ("account_id".toList, value), ("pages_complete".toList, .int 1),
    ("observed_count".toList, .int 0), ("source_reported_count".toList, .null)])

def downgradedRun (run : RunRow) : LegacyRun where
  id := run.id
  idempotencyKey := run.idempotencyKey
  requestHash := run.requestHash
  mode := run.mode
  state := run.state
  configVersionId := run.configVersionId
  scopeKey := personal
  sourceFromDate := run.sourceFromDate
  sourceToDate := run.sourceToDate
  expectedAccounts := run.expectedAccounts
  accountManifest :=
    if run.state = .committed then
      some (accountManifest (run.completedAccounts.getD run.expectedAccounts))
    else none
  expectedBatchCount := run.expectedBatchCount
  expectedSourceCount := some run.actualItemCount
  expectedStoreCount := some run.actualItemCount
  expectedSkipCount := some 0
  sourceComplete := run.state = .committed
  inputChecksum := if run.state = .committed then run.computedChecksum else none
  computedChecksum := run.computedChecksum
  cursorBefore := some (.obj [])
  cursorAfter := some (.obj [])
  receivedBatchCount := run.receivedBatchCount
  actualSourceCount := run.actualItemCount
  actualStoreCount := run.actualItemCount
  actualSkipCount := 0
  createdAt := run.createdAt
  uploadedAt := run.uploadedAt
  validatedAt := run.validatedAt
  committedAt := run.committedAt
  failedAt := run.failedAt
  errorCode := run.errorCode

def downgradedBatch (batch : BatchRow) : LegacyBatch where
  runId := batch.runId
  batchIndex := batch.batchIndex
  idempotencyKey := batch.idempotencyKey
  requestHash := batch.requestHash
  checksum := batch.checksum
  itemCount := batch.itemCount
  storeCount := batch.itemCount
  skipCount := 0
  createdAt := batch.createdAt

def statusOf (pending : Bool) : TransactionStatus := if pending then .pending else .posted

def downgradedStaged (staged : StagedTransactionRow) : LegacyStagedTransaction where
  runId := staged.runId
  scopeKey := personal
  configVersionId := staged.configVersionId
  accountId := staged.accountId
  sourceTransactionId := staged.sourceId
  batchIndex := staged.batchIndex
  decision := .store
  transactionDate := some staged.transactionDate
  amount := some staged.amount
  currency := some staged.currency
  status := some (statusOf staged.pending)
  merchant := staged.merchant
  description := staged.name
  refunded := staged.refunded
  refundAmount := staged.refundAmount
  supersedesSourceTransactionId := staged.pendingSourceId
  sourceHash := staged.sourceHash

def downgradedStagedCategory (link : StagedTransactionCategory) :
    LegacyStagedTransactionCategory where
  runId := link.runId
  scopeKey := personal
  configVersionId := link.configVersionId
  accountId := link.accountId
  sourceTransactionId := link.sourceId
  categoryId := link.categoryId
  ruleVersionId := link.ruleVersionId

def downgradedTransaction (transaction : TransactionRow) : LegacyTransaction where
  scopeKey := personal
  accountId := transaction.accountId
  sourceTransactionId := transaction.sourceId
  transactionDate := transaction.transactionDate
  amount := transaction.amount
  currency := transaction.currency
  status := statusOf transaction.pending
  merchant := transaction.merchant
  description := transaction.name
  refunded := transaction.refunded
  refundAmount := transaction.refundAmount
  supersedesSourceTransactionId := transaction.pendingSourceId
  sourceHash := transaction.sourceHash
  configVersionId := transaction.configVersionId
  firstRefreshRunId := transaction.firstRefreshRunId
  lastRefreshRunId := transaction.lastRefreshRunId
  firstSeenAt := transaction.firstSeenAt
  lastSeenAt := transaction.lastSeenAt

def downgradedCategory (link : TransactionCategory) : LegacyTransactionCategory where
  scopeKey := personal
  accountId := link.accountId
  sourceTransactionId := link.sourceId
  categoryId := link.categoryId
  configVersionId := link.configVersionId
  ruleVersionId := link.ruleVersionId

/-- The hash of the empty cursor. -/
def emptyCursorHash : Text :=
  "44136fa355b3678a1146ad16f7e8649e94fb4fc21fe77e8310c060f61caaff8a".toList

theorem isSha256_emptyCursorHash : IsSha256 emptyCursorHash := by decide

def downgradedSyncState (state : SyncState) : LegacySyncState where
  scopeKey := personal
  cursor := .obj []
  cursorHash := emptyCursorHash
  configVersionId := state.configVersionId
  lastRefreshRunId := state.lastRefreshRunId
  revision := state.revision
  updatedAt := state.updatedAt

/-! ## The downgrade -/

/-- `_sqlite_downgrade` -/
def sqliteDowngrade (content : SingleUserDatabase) (configRewrites : List ConfigRewrite)
    (requestRewrites : List RequestRewrite) : Except MigrationError LegacyDatabase := do
  let refreshRuns := content.refreshRuns.map downgradedRun
  require (LegacyDatabase.AdmitsRuns refreshRuns) .integrityError
  let refreshBatches := content.refreshBatches.map downgradedBatch
  require (LegacyDatabase.AdmitsBatches refreshBatches) .integrityError
  let stagedTransactions := content.stagedTransactions.map downgradedStaged
  require (LegacyDatabase.AdmitsStaged stagedTransactions) .integrityError
  let stagedTransactionCategories :=
    content.stagedTransactionCategories.map downgradedStagedCategory
  require (LegacyDatabase.AdmitsStagedCategories stagedTransactionCategories) .integrityError
  let transactions := content.transactions.map downgradedTransaction
  require (LegacyDatabase.AdmitsTransactions transactions) .integrityError
  let transactionCategories := content.transactionCategories.map downgradedCategory
  require (LegacyDatabase.AdmitsCategories transactionCategories) .integrityError
  let syncStates := content.syncStates.map downgradedSyncState
  require (LegacyDatabase.AdmitsSyncStates syncStates) .integrityError
  let configVersions ← applyConfigRewrites configRewrites content.configVersions
  let refreshRuns ←
    applyRequestHashRewrites LegacyRun.id LegacyRun.setRequestHash requestRewrites refreshRuns
  let legacy : LegacyDatabase := {
    categories := content.categories
    ruleVersions := content.ruleVersions
    configVersions := configVersions
    configVersionRules := content.configVersionRules
    refreshRuns := refreshRuns
    refreshBatches := refreshBatches
    stagedTransactions := stagedTransactions
    stagedTransactionCategories := stagedTransactionCategories
    transactions := transactions
    transactionCategories := transactionCategories
    syncStates := syncStates }
  require legacy.ForeignKeys .foreignKeyViolations
  pure legacy

/-- `downgrade` on SQLite. -/
def downgrade (context : MigrationContext) (content : SingleUserDatabase) :
    Except MigrationError LegacyDatabase := do
  let configRewrites ← configRewrites context content.toConfigContent true
  let requestRewrites ← requestHashRewrites context .sqlite true
    (content.refreshRuns.map RunRow.requestColumns)
  sqliteDowngrade content configRewrites requestRewrites

/-! ## What it leaves -/

structure SingleUserDatabase.Convertible (content : SingleUserDatabase) : Prop where
  documents : ∀ config ∈ content.configVersions, IsObject config.sourceConfig
  requests : ∀ run ∈ content.refreshRuns, run.requestColumns.Complete

def downgraded (context : MigrationContext) (content : SingleUserDatabase) : LegacyDatabase where
  categories := content.categories
  ruleVersions := content.ruleVersions
  configVersions :=
    content.configVersions.map (rewrittenConfig context content.toConfigContent true)
  configVersionRules := content.configVersionRules
  refreshRuns := content.refreshRuns.map fun run =>
    (downgradedRun run).setRequestHash (run.requestColumns.newRequestHash context true)
  refreshBatches := content.refreshBatches.map downgradedBatch
  stagedTransactions := content.stagedTransactions.map downgradedStaged
  stagedTransactionCategories :=
    content.stagedTransactionCategories.map downgradedStagedCategory
  transactions := content.transactions.map downgradedTransaction
  transactionCategories := content.transactionCategories.map downgradedCategory
  syncStates := content.syncStates.map downgradedSyncState

/-! ## Constraints of the old rows -/

theorem Admits.map {α β κ ι : Type} [DecidableEq κ] [DecidableEq ι] {checks : α → Prop}
    {key : α → κ} {rows : List α} {checks' : β → Prop} {key' : β → ι} {transform : α → β}
    (admitted : Admits checks key rows) (each : ∀ row, checks row → checks' (transform row))
    (separates : ∀ left right, key' (transform left) = key' (transform right) →
      key left = key right) : Admits checks' key' (rows.map transform) := by
  refine ⟨?_, ?_⟩
  · intro row member
    rcases List.mem_map.mp member with ⟨source, sourceMember, rfl⟩
    exact each source (admitted.1 source sourceMember)
  · rw [List.map_map]
    exact Table.nodup_map_of_separates admitted.2 fun left _ right _ => separates left right

theorem checks_downgradedRun {run : RunRow} (checks : run.Checks) : (downgradedRun run).Checks where
  dates := checks.dates
  actualCounts := rfl
  expectedCounts source sourceMember store storeMember skip skipMember := by
    cases sourceMember
    cases storeMember
    cases skipMember
    rfl
  inputChecksum := by
    intro checksum member
    change checksum ∈ (if run.state = .committed then run.computedChecksum else none) at member
    split at member
    · exact checks.computedChecksum checksum member
    · cases member
  computedChecksum := checks.computedChecksum
  requestHash := checks.requestHash
  failed := checks.failed
  committed state := by
    have committed : run.state = .committed := state
    have complete := checks.committed committed
    exact {
      sourceComplete := decide_eq_true committed
      batchCount := complete.batchCount
      sourceCount := rfl
      storeCount := rfl
      skipCount := rfl
      checksum := complete.checksum
      inputChecksum := if_pos committed
      accountManifest := by
        change (if run.state = .committed then some _ else none).isSome
        rw [if_pos committed, Option.isSome_some]
      uploadedAt := complete.uploadedAt
      validatedAt := complete.validatedAt
      committedAt := complete.committedAt }

theorem checks_downgradedStaged {staged : StagedTransactionRow} (checks : staged.Checks) :
    (downgradedStaged staged).Checks := by
  refine ⟨fun _ => ⟨rfl, rfl, rfl, rfl⟩, ?_, checks.2⟩
  rcases checks.1 with posted | refunded
  · exact Or.inl posted
  · exact Or.inr ⟨staged.amount, rfl, refunded⟩

theorem admitsRuns_downgraded (admitted : SingleUserDatabase.AdmitsRuns content.refreshRuns) :
    LegacyDatabase.AdmitsRuns (content.refreshRuns.map downgradedRun) := by
  refine ⟨admitted.1.map (fun _ => checks_downgradedRun) fun _ _ same => same, ?_⟩
  rw [List.map_map]
  exact admitted.2

theorem admitsBatches_downgraded
    (admitted : SingleUserDatabase.AdmitsBatches content.refreshBatches) :
    LegacyDatabase.AdmitsBatches (content.refreshBatches.map downgradedBatch) := by
  refine ⟨admitted.1.map (fun _ checks => ⟨rfl, checks⟩) fun _ _ same => same, ?_⟩
  rw [List.map_map]
  exact admitted.2

theorem admitsStaged_downgraded
    (admitted : SingleUserDatabase.AdmitsStaged content.stagedTransactions) :
    LegacyDatabase.AdmitsStaged (content.stagedTransactions.map downgradedStaged) := by
  refine Admits.map admitted (fun _ => checks_downgradedStaged) fun left right same => ?_
  simp only [downgradedStaged, Prod.mk.injEq] at same ⊢
  exact ⟨same.1, same.2.2⟩

theorem admitsStagedCategories_downgraded
    (admitted : SingleUserDatabase.AdmitsStagedCategories content.stagedTransactionCategories) :
    LegacyDatabase.AdmitsStagedCategories
      (content.stagedTransactionCategories.map downgradedStagedCategory) := by
  unfold LegacyDatabase.AdmitsStagedCategories
  rw [List.map_map]
  refine Table.nodup_map_of_separates admitted fun left _ right _ same => ?_
  simp only [Function.comp_apply, downgradedStagedCategory, Prod.mk.injEq] at same ⊢
  exact ⟨same.1, same.2.2⟩

theorem admitsTransactions_downgraded
    (admitted : SingleUserDatabase.AdmitsTransactions content.transactions) :
    LegacyDatabase.AdmitsTransactions (content.transactions.map downgradedTransaction) := by
  refine Admits.map admitted (fun _ checks => checks) fun left right same => ?_
  simp only [downgradedTransaction, Prod.mk.injEq] at same ⊢
  exact same.2

theorem admitsCategories_downgraded
    (admitted : SingleUserDatabase.AdmitsCategories content.transactionCategories) :
    LegacyDatabase.AdmitsCategories (content.transactionCategories.map downgradedCategory) := by
  unfold LegacyDatabase.AdmitsCategories
  rw [List.map_map]
  refine Table.nodup_map_of_separates admitted fun left _ right _ same => ?_
  simp only [Function.comp_apply, downgradedCategory, Prod.mk.injEq] at same ⊢
  exact same.2

theorem admitsSyncStates_downgraded
    (admitted : SingleUserDatabase.AdmitsSyncStates content.syncStates) :
    LegacyDatabase.AdmitsSyncStates (content.syncStates.map downgradedSyncState) := by
  refine ⟨⟨?_, ?_⟩, ?_⟩
  · intro row member
    rcases List.mem_map.mp member with ⟨state, _, rfl⟩
    exact isSha256_emptyCursorHash
  · cases states : content.syncStates with
    | nil => simp
    | cons first rest =>
        have single := admitted.1
        rw [states, List.length_cons] at single
        rw [List.eq_nil_of_length_eq_zero (by omega : rest.length = 0)]
        simp
  · rw [List.map_map]
    exact admitted.2

theorem foreignKeys_downgraded (context : MigrationContext) (constraints : content.Constraints) :
    (downgraded context content).ForeignKeys := by
  rcases constraints.foreignKeys with ⟨staging, ledger⟩
  refine ⟨⟨?_, ?_, ?_, ?_, ?_, ?_⟩, ⟨?_, ?_, ?_, ?_, ?_⟩⟩
  · exact staging.runConfigs.map id (fun _ => rfl) fun _ => rfl
  · exact staging.batchRuns.map id (fun _ => rfl) fun _ => rfl
  · exact staging.stagedRuns.map (fun key => (key.1, personal, key.2)) (fun _ => rfl) fun _ => rfl
  · exact staging.stagedBatches.map id (fun _ => rfl) fun _ => rfl
  · exact staging.stagedCategories.map
      (fun key => (key.1, personal, key.2.1, key.2.2.1, key.2.2.2)) (fun _ => rfl) fun _ => rfl
  · intro row member
    rcases List.mem_map.mp member with ⟨link, linkMember, rfl⟩
    exact staging.stagedRules link linkMember
  · exact ledger.firstRuns.map (fun key => (key, personal)) (fun _ => rfl) fun _ => rfl
  · exact ledger.lastRuns.map (fun key => (key.1, personal, key.2)) (fun _ => rfl) fun _ => rfl
  · exact ledger.categories.map (fun key => (personal, key)) (fun _ => rfl) fun _ => rfl
  · intro row member
    rcases List.mem_map.mp member with ⟨link, linkMember, rfl⟩
    exact ledger.categoryRules link linkMember
  · exact ledger.syncRuns.map (fun key => (key.1, personal, key.2)) (fun _ => rfl) fun _ => rfl

/-! ## The result -/

private theorem rewrites_downgradedRun (runs : List RunRow) :
    (runs.map RunRow.requestColumns).map (RequestColumns.rewriteOf context true) =
      (runs.map downgradedRun).map fun row => row.requestColumns.rewriteOf context true := by
  rw [List.map_map, List.map_map]
  rfl

private theorem setRequestHash_downgradedRun (runs : List RunRow) :
    ((runs.map downgradedRun).map fun row =>
        row.setRequestHash (row.requestColumns.newRequestHash context true)) =
      runs.map fun run =>
        (downgradedRun run).setRequestHash (run.requestColumns.newRequestHash context true) := by
  rw [List.map_map]
  rfl

theorem downgrade_eq_ok (digests : ∀ text, IsSha256 (context.environment.sha256 text))
    (constraints : content.Constraints) (convertible : content.Convertible) :
    downgrade context content = .ok (downgraded context content) := by
  have requests : ∀ row ∈ content.refreshRuns.map RunRow.requestColumns, row.Complete := by
    intro row member
    rcases List.mem_map.mp member with ⟨run, runMember, rfl⟩
    exact convertible.requests run runMember
  have hashes := applyRequestHashRewrites_eq_ok true LegacyRun.setRequestHash
    LegacyRun.requestColumns digests (admitsRuns_downgraded constraints.runs).1.2 (fun _ => rfl)
    (fun _ _ => rfl) (by
      intro row member
      rcases List.mem_map.mp member with ⟨run, runMember, rfl⟩
      exact convertible.requests run runMember)
  rw [setRequestHash_downgradedRun] at hashes
  have keys := foreignKeys_downgraded context constraints
  unfold downgrade
  rw [configRewrites_eq_ok_iff.mpr ⟨convertible.documents, rfl⟩, Outcome.ok_bind,
    requestHashRewrites_eq_ok_iff.mpr ⟨requests, rfl⟩, Outcome.ok_bind, rewrites_downgradedRun]
  unfold sqliteDowngrade
  dsimp only
  rw [Outcome.require_of (admitsRuns_downgraded constraints.runs), Outcome.ok_bind,
    Outcome.require_of (admitsBatches_downgraded constraints.batches), Outcome.ok_bind,
    Outcome.require_of (admitsStaged_downgraded constraints.staged), Outcome.ok_bind,
    Outcome.require_of (admitsStagedCategories_downgraded constraints.stagedCategories),
    Outcome.ok_bind, Outcome.require_of (admitsTransactions_downgraded constraints.transactions),
    Outcome.ok_bind, Outcome.require_of (admitsCategories_downgraded constraints.categories),
    Outcome.ok_bind, Outcome.require_of (admitsSyncStates_downgraded constraints.syncStates),
    Outcome.ok_bind, applyConfigRewrites_eq_ok digests constraints.config.versionIds,
    Outcome.ok_bind, hashes, Outcome.ok_bind]
  unfold downgraded at keys ⊢
  rw [Outcome.require_of keys, Outcome.ok_bind]
  rfl

/-- The rows that the downgrade leaves are rows of the old schema. -/
theorem constraints_downgraded (digests : ∀ text, IsSha256 (context.environment.sha256 text))
    (constraints : content.Constraints) (convertible : content.Convertible) :
    (downgraded context content).Constraints where
  config := {
    constraints.config with
    versionIds := by
      unfold downgraded
      rw [List.map_map]
      exact constraints.config.versionIds }
  runs := by
    rcases constraints.runs with ⟨⟨checks, ids⟩, keys⟩
    refine ⟨⟨?_, ?_⟩, ?_⟩
    · intro row member
      rcases List.mem_map.mp member with ⟨run, runMember, rfl⟩
      have checked := checks_downgradedRun (checks run runMember)
      exact { checked with
        requestHash := isSha256_newRequestHash true digests (convertible.requests run runMember)
        committed := fun state => { checked.committed state with } }
    · unfold downgraded
      rw [List.map_map]
      exact ids
    · unfold downgraded
      rw [List.map_map]
      exact keys
  batches := admitsBatches_downgraded constraints.batches
  staged := admitsStaged_downgraded constraints.staged
  stagedCategories := admitsStagedCategories_downgraded constraints.stagedCategories
  transactions := admitsTransactions_downgraded constraints.transactions
  categories := admitsCategories_downgraded constraints.categories
  syncStates := admitsSyncStates_downgraded constraints.syncStates
  foreignKeys := foreignKeys_downgraded context constraints

theorem sourceScope_rewrittenSource {value : JsonValue} {scope : Text}
    (named : sourceScope context (rewrittenSource true value) = some scope)
    (object : IsObject value) : scope = personal := by
  rcases object with ⟨fields, rfl⟩
  have found : JsonValue.get (rewrittenFields true fields) "scope_key".toList =
      some (.str personal) := by
    unfold rewrittenFields JsonValue.get
    rw [if_pos rfl, List.reverse_append]
    rfl
  unfold rewrittenSource sourceScope at named
  dsimp only at named
  rw [found] at named
  exact (Option.some.inj named).symm

/-- The structural scope is the only one. -/
theorem singleScope_downgraded (convertible : content.Convertible) :
    SingleScope context (downgraded context content) := by
  have all : ∀ scope ∈ legacyScopes context (downgraded context content), scope = personal := by
    intro scope member
    simp only [legacyScopes, downgraded, List.map_map, List.mem_append, List.mem_map,
      List.mem_filterMap] at member
    rcases member with (((((run | staged) | link) | transaction) | link) | state) | source
    · rcases run with ⟨_, _, rfl⟩
      rfl
    · rcases staged with ⟨_, _, rfl⟩
      rfl
    · rcases link with ⟨_, _, rfl⟩
      rfl
    · rcases transaction with ⟨_, _, rfl⟩
      rfl
    · rcases link with ⟨_, _, rfl⟩
      rfl
    · rcases state with ⟨_, _, rfl⟩
      rfl
    · rcases source with ⟨row, ⟨config, configMember, rfl⟩, named⟩
      exact sourceScope_rewrittenSource named (convertible.documents config configMember)
  intro left leftMember right rightMember
  rw [all left leftMember, all right rightMember]

theorem convertible_downgraded (convertible : content.Convertible) :
    (downgraded context content).Convertible := by
  constructor
  · intro row member
    rcases List.mem_map.mp member with ⟨config, configMember, rfl⟩
    rcases convertible.documents config configMember with ⟨fields, object⟩
    refine ⟨rewrittenFields true fields, ?_⟩
    change rewrittenSource true config.sourceConfig = _
    rw [object]
    rfl
  · intro row member
    rcases List.mem_map.mp member with ⟨run, runMember, rfl⟩
    exact convertible.requests run runMember

/-- The downgraded rows can be upgraded again. -/
theorem upgrade_downgraded (digests : ∀ text, IsSha256 (context.environment.sha256 text))
    (constraints : content.Constraints) (convertible : content.Convertible) :
    upgrade context .sqlite now (downgraded context content) =
      .ok (upgraded context now (downgraded context content)) := by
  have single : SingleScope context (downgraded context content) :=
    singleScope_downgraded convertible
  have again : (downgraded context content).Convertible := convertible_downgraded convertible
  rw [upgrade_eq .sqlite single again]
  exact sqliteUpgrade_eq_ok digests (constraints_downgraded digests constraints convertible)
    single again

end RollingBudget.SingleUser
