import RollingBudget.Migrations.MigratedHashes
import RollingBudget.Migrations.RepairedDatabase
import RollingBudget.Migrations.SqliteDowngrade

namespace RollingBudget.SingleUser

open Sorting ConfigService RefreshService

/-! A downgrade from `0003_single_user` and the upgrade after it, on what the services wrote. -/

variable {context : MigrationContext} {environment : Environment} {now : Datetime}
  {content : SingleUserDatabase} {database committed : Database}

/-! ## Runs of the services -/

/-- A run keeps the request it was begun with, and its completed accounts come with its commit. -/
structure KeepsRequest (environment : Environment) (run : RefreshRun) : Prop where
  requestHash : run.requestHash = environment.sha256Hex (RefreshBeginRequest.toJson
    ⟨modeLiteral run.mode, run.sourceFromDate, run.sourceToDate, run.expectedAccounts⟩)
  accounts : sorted run.expectedAccounts = run.expectedAccounts
  whileOpen : run.state ≠ .committed → run.completedAccounts = none

def RunsKeepRequests (environment : Environment) (database : Database) : Prop :=
  ∀ run ∈ database.refresh.refreshRuns, KeepsRequest environment run

theorem keepsRequest_newRun (clock : Clock) {request : RefreshBeginRequest} (valid : request.Valid)
    (idempotencyKey : Text) (target : ConfigVersion) :
    KeepsRequest environment (newRun environment clock database request idempotencyKey target) where
  requestHash := by
    change environment.sha256Hex request.toJson = environment.sha256Hex (RefreshBeginRequest.toJson
      ⟨modeLiteral (mode request.mode), request.sourceFromDate, request.sourceToDate,
        sorted request.expectedAccounts⟩)
    rw [← mode_eq_iff.mp rfl, valid.sorted_accounts]
  accounts := by
    change sorted (sorted request.expectedAccounts) = sorted request.expectedAccounts
    rw [valid.sorted_accounts, valid.sorted_accounts]
  whileOpen _ := rfl

theorem keepRequests_of_succeeds {event : Event} {response : Response}
    (invariant : SystemInvariant environment database)
    (succeeds : Succeeds environment database event committed response)
    (holds : RunsKeepRequests environment database) : RunsKeepRequests environment committed := by
  cases succeeds with
  | putConfig validated result =>
      rw [result.committed]
      exact holds
  | putConfigChecked validated result =>
      rw [result.committed]
      exact holds
  | beginRefresh validated result =>
      cases result with
      | replay existing config found hash configFound result answer => exact result ▸ holds
      | new target missing begun result answer =>
          intro run member
          rw [result] at member
          rcases List.mem_append.mp member with old | new
          · exact holds run old
          · rw [List.mem_singleton.mp new]
            exact keepsRequest_newRun _ (RefreshBeginRequest.valid_of_validate validated) _ target
  | uploadBatch validated limits result =>
      cases result with
      | replay run existing runFound found hash checksum result answer => exact result ▸ holds
      | new uploadedRun config runId_eq uploaded result answer =>
          intro run member
          rw [result] at member
          rcases Table.mem_modify.mp member with ⟨before, _⟩ | ⟨old, before, isRun, rfl⟩
          · exact holds run before
          · have found := invariant.refresh.find_run before
            rw [isRun, uploaded.runFound, Option.some.injEq] at found
            have kept := holds old before
            refine ⟨kept.requestHash, kept.accounts, fun _ => kept.whileOpen ?_⟩
            rw [← found]
            exact uploaded.isOpen
  | commitRefresh validated result =>
      cases result with
      | replay run found state count accounts result answer => exact result ▸ holds
      | new publishedRun config tables ledger runId_eq published answer =>
          intro run member
          rw [published.refreshEq] at member
          rcases Table.mem_modify.mp member with ⟨before, _⟩ | ⟨old, before, isRun, rfl⟩
          · exact holds run before
          · have kept := holds old before
            exact ⟨kept.requestHash, kept.accounts, fun isOpen => absurd rfl isOpen⟩

theorem runsKeepRequests_run (environment : Environment) (history : List Event) :
    RunsKeepRequests environment ((service environment).run history) := by
  induction history using List.reverseRecOn with
  | nil => exact fun run member => absurd member List.not_mem_nil
  | append_singleton history event induction =>
      have invariant := invariant_run environment history
      rw [Machine.run_concat]
      rcases event.next_cases invariant.config with unchanged | ⟨response, succeeds⟩
      · change RunsKeepRequests environment (event.next environment _)
        rw [unchanged]
        exact induction
      · exact keepRequests_of_succeeds invariant succeeds induction

/-! ## The rows of the services -/

/-- The content is what the services read as the database. -/
structure Reads (content : SingleUserDatabase) (database : Database) : Prop
    extends ReadsRequests content database where
  documents : List.Forall₂ (fun row config =>
      row.sourceConfig = JsonValue.ofJson config.sourceConfig.toJson)
    content.configVersions database.config.configVersions
  refreshBatches : content.refreshBatches.map batchOf = database.refresh.refreshBatches
  stagedTransactions :
    content.stagedTransactions.map stagedTransactionOf = database.refresh.stagedTransactions
  stagedTransactionCategories :
    content.stagedTransactionCategories = database.refresh.stagedTransactionCategories
  transactions : content.transactions.map transactionOf = database.ledger.transactions
  transactionCategories : content.transactionCategories = database.ledger.transactionCategories
  syncStates : content.syncStates = database.syncState.toList

/-! ## What a round trip does -/

/-- A run that was not committed has failed. -/
def roundTrippedRun (now : Datetime) (run : RunRow) : RunRow :=
  { run with
    state := if nonterminal run.state then .failed else run.state
    syncRevisionBefore := none
    failedAt := if nonterminal run.state then some now else run.failedAt
    errorCode := if nonterminal run.state then some "upgrade_invalidated".toList
      else run.errorCode }

def roundTripped (now : Datetime) (content : SingleUserDatabase) : SingleUserDatabase :=
  { content with
    refreshRuns := content.refreshRuns.map (roundTrippedRun now)
    stagedTransactions := []
    stagedTransactionCategories := []
    transactions := content.transactions.map fun transaction =>
      { transaction with accountName := none } }

/-! ### Configurations -/

/-- Restoring the structural scope and taking it out again changes nothing where neither
legacy key is used. -/
theorem rewrittenFields_rewrittenFields {fields : List (JsonString × JsonValue)}
    (current : ∀ field ∈ fields,
      field.1 ≠ .text "account_ids".toList ∧ field.1 ≠ .text "scope_key".toList) :
    rewrittenFields false (rewrittenFields true fields) = fields := by
  have kept : (fields.filter fun field =>
      field.1 ≠ .text "account_ids".toList ∧ field.1 ≠ .text "scope_key".toList) = fields :=
    List.filter_eq_self.mpr fun field member => decide_eq_true (current field member)
  unfold rewrittenFields
  dsimp only
  rw [if_pos rfl, if_neg Bool.false_ne_true, List.filter_append, kept, kept]
  exact List.append_nil fields

theorem rewrittenSource_ofJson (request : ConfigPutRequest) :
    rewrittenSource false (rewrittenSource true (JsonValue.ofJson request.toJson)) =
      JsonValue.ofJson request.toJson := by
  change JsonValue.obj (rewrittenFields false (rewrittenFields true _)) = JsonValue.obj _
  rw [rewrittenFields_rewrittenFields]
  simp [JsonValue.ofFields]

theorem configHash_eq_semanticHash (constraints : content.Constraints)
    (reads : Reads content database) (config : ConfigInvariant context.environment database.config)
    {row : ConfigVersionRow} {version : ConfigVersion}
    (member : version ∈ database.config.configVersions)
    (columns : row = configColumns row.sourceConfig version) :
    semanticHash context content.toConfigContent row = row.configHash := by
  have hash : row.configHash = version.configHash := congrArg ConfigVersionRow.configHash columns
  rw [hash, ← (config.wellFormed.sound version member).semanticHashForConfig_eq]
  exact semanticHash_eq constraints.config reads.categories reads.ruleVersions
    reads.configVersionRules (congrArg ConfigVersionRow.id columns)
    (congrArg ConfigVersionRow.timezone columns)
    (congrArg ConfigVersionRow.displayCurrency columns)
    (congrArg ConfigVersionRow.aggregationVersion columns)

/-- The document and the hash of a version are as they were. -/
theorem configVersions_roundTripped (constraints : content.Constraints)
    (reads : Reads content database) (config : ConfigInvariant context.environment database.config) :
    (upgraded context now (downgraded context content)).configVersions =
      content.configVersions := by
  have rewritten : ∀ row ∈ content.configVersions,
      rewrittenConfig context (downgraded context content).toConfigContent false
        (rewrittenConfig context content.toConfigContent true row) = row := by
    intro row member
    have source : rewrittenSource false (rewrittenSource true row.sourceConfig) =
        row.sourceConfig := by
      rcases exists_right reads.documents member with ⟨version, _, document⟩
      rw [document]
      exact rewrittenSource_ofJson version.sourceConfig
    have hash : semanticHash context (downgraded context content).toConfigContent
        (rewrittenConfig context content.toConfigContent true row) = row.configHash := by
      rcases exists_right reads.configVersions member with ⟨version, versionMember, columns⟩
      exact configHash_eq_semanticHash constraints reads config versionMember columns
    unfold rewrittenConfig at hash ⊢
    rw [hash, source]
  unfold upgraded
  change (content.configVersions.map _).map _ = content.configVersions
  rw [List.map_map]
  exact (List.map_congr_left rewritten).trans (List.map_id' _)

/-! ### Runs -/

theorem requestHash_roundTripped {run : RefreshRun} (kept : KeepsRequest context.environment run)
    {row : RunRow} (columns : row = runColumns row.failedAt run) :
    row.requestColumns.newRequestHash context false = row.requestHash := by
  have listed : row.requestColumns.expectedAccounts = stringsJson run.expectedAccounts :=
    congrArg RunRow.expectedAccounts columns
  have first : row.requestColumns.sourceFromDate = some run.sourceFromDate :=
    congrArg RunRow.sourceFromDate columns
  have last : row.requestColumns.sourceToDate = some run.sourceToDate :=
    congrArg RunRow.sourceToDate columns
  have mode_eq : row.requestColumns.mode = run.mode := congrArg RunRow.mode columns
  have hash : row.requestHash = run.requestHash := congrArg RunRow.requestHash columns
  rw [newRequestHash_of_columns listed first last, mode_eq, requestPayload_eq, kept.accounts, hash,
    kept.requestHash]
  rfl

/-- The state of a run after the round trip decides its completed accounts as before. -/
theorem completedAccounts_roundTripped {run : RefreshRun}
    (kept : KeepsRequest context.environment run)
    (committed : run.state = .committed →
      run.completedAccounts = some (sorted run.expectedAccounts))
    {row : RunRow} (columns : row = runColumns row.failedAt run) :
    (if row.state = .committed then some row.expectedAccounts else none) =
      row.completedAccounts := by
  have state : row.state = run.state := congrArg RunRow.state columns
  have expected : row.expectedAccounts = stringsJson run.expectedAccounts :=
    congrArg RunRow.expectedAccounts columns
  have completed : row.completedAccounts = run.completedAccounts.map stringsJson :=
    congrArg RunRow.completedAccounts columns
  rw [state, expected, completed]
  split
  · next isCommitted =>
    rw [committed isCommitted, kept.accounts]
    rfl
  · next isOpen =>
    rw [kept.whileOpen isOpen]
    rfl

theorem refreshRuns_roundTripped (reads : Reads content database)
    (kept : RunsKeepRequests context.environment database)
    (refresh : RefreshInvariant context.environment database.config database.refresh) :
    (upgraded context now (downgraded context content)).refreshRuns =
      content.refreshRuns.map (roundTrippedRun now) := by
  unfold upgraded
  change (content.refreshRuns.map _).map _ = _
  rw [List.map_map]
  apply List.map_congr_left
  intro row member
  rcases exists_right reads.refreshRuns member with ⟨run, runMember, columns⟩
  have hash := requestHash_roundTripped (kept run runMember) columns
  have completed := completedAccounts_roundTripped (kept run runMember)
    (fun committed => ((refresh.runs run runMember).committed committed).accounts) columns
  change RunRow.setRequestHash (row.requestColumns.newRequestHash context false)
    (upgradedRun now ((downgradedRun row).setRequestHash _)) = roundTrippedRun now row
  rw [hash]
  unfold RunRow.setRequestHash upgradedRun roundTrippedRun
  change ({ row with
    state := _, completedAccounts := if row.state = .committed then _ else _,
    syncRevisionBefore := _, failedAt := _, errorCode := _ } : RunRow) = _
  rw [← completed]
  rfl

/-! ### The whole database -/

theorem upgradedTransaction_downgradedTransaction (transaction : TransactionRow) :
    upgradedTransaction (downgradedTransaction transaction) =
      { transaction with accountName := none } := by
  have status : decide (statusOf transaction.pending = .pending) = transaction.pending := by
    unfold statusOf
    cases transaction.pending <;> rfl
  unfold upgradedTransaction downgradedTransaction
  dsimp only
  rw [status]

theorem upgraded_downgraded (constraints : content.Constraints) (reads : Reads content database)
    (config : ConfigInvariant context.environment database.config)
    (refresh : RefreshInvariant context.environment database.config database.refresh)
    (kept : RunsKeepRequests context.environment database) :
    upgraded context now (downgraded context content) = roundTripped now content := by
  have configVersions : (upgraded context now (downgraded context content)).configVersions =
      content.configVersions := configVersions_roundTripped constraints reads config
  have refreshRuns : (upgraded context now (downgraded context content)).refreshRuns =
      content.refreshRuns.map (roundTrippedRun now) := refreshRuns_roundTripped reads kept refresh
  have transactions : (upgraded context now (downgraded context content)).transactions =
      content.transactions.map fun transaction => { transaction with accountName := none } := by
    change (content.transactions.map _).map _ = _
    rw [List.map_map]
    exact List.map_congr_left fun transaction _ =>
      upgradedTransaction_downgradedTransaction transaction
  have refreshBatches : (upgraded context now (downgraded context content)).refreshBatches =
      content.refreshBatches := by
    change (content.refreshBatches.map _).map _ = _
    rw [List.map_map]
    exact List.map_id _
  have categories : (upgraded context now (downgraded context content)).transactionCategories =
      content.transactionCategories := by
    change (content.transactionCategories.map _).map _ = _
    rw [List.map_map]
    exact List.map_id _
  have syncStates : (upgraded context now (downgraded context content)).syncStates =
      content.syncStates := by
    change (content.syncStates.map _).map _ = _
    rw [List.map_map]
    exact List.map_id _
  generalize result_eq : upgraded context now (downgraded context content) = result at *
  have others : result = { content with
      configVersions := result.configVersions
      refreshRuns := result.refreshRuns
      refreshBatches := result.refreshBatches
      stagedTransactions := []
      stagedTransactionCategories := []
      transactions := result.transactions
      transactionCategories := result.transactionCategories
      syncStates := result.syncStates } := by
    rw [← result_eq]
    rfl
  rw [others, configVersions, refreshRuns, transactions, refreshBatches, categories, syncStates]
  rfl

theorem convertible_of_reads (reads : Reads content database) : content.Convertible where
  documents row member := by
    rcases exists_right reads.documents member with ⟨config, _, document⟩
    exact ⟨_, document⟩
  requests row member := by
    rcases exists_right reads.refreshRuns member with ⟨run, _, columns⟩
    exact {
      accounts := ⟨run.expectedAccounts, congrArg RunRow.expectedAccounts columns⟩
      sourceFromDate := by
        rw [congrArg RunRow.requestColumns columns]
        rfl
      sourceToDate := by
        rw [congrArg RunRow.requestColumns columns]
        rfl }

/-- The user's data survives the way back and forth. -/
theorem downgrade_upgrade (context : MigrationContext)
    (digests : ∀ text, IsSha256 (context.environment.sha256 text)) (history : List Event)
    (content : SingleUserDatabase) (constraints : content.Constraints)
    (reads : Reads content ((service context.environment).run history)) (now : Datetime) :
    (∃ legacy, downgrade context content = .ok legacy ∧
      upgrade context .sqlite now legacy = .ok (roundTripped now content)) ∧
    ∀ run ∈ content.refreshRuns, run.state = .created ∨ run.state = .uploaded ∨
      run.state = .committed := by
  have invariant := invariant_run context.environment history
  have convertible := convertible_of_reads reads
  refine ⟨⟨downgraded context content, downgrade_eq_ok digests constraints convertible, ?_⟩, ?_⟩
  · rw [upgrade_downgraded digests constraints convertible,
      upgraded_downgraded constraints reads invariant.config invariant.refresh
        (runsKeepRequests_run context.environment history)]
  · intro row member
    rcases exists_right reads.refreshRuns member with ⟨run, runMember, columns⟩
    rw [show row.state = run.state from congrArg RunRow.state columns]
    exact (invariant.refresh.runs run runMember).state

namespace Sample

/-- The rows of a database, each batch written at one time. -/
def rows (createdAt : Datetime) (database : Database) : SingleUserDatabase where
  categories := database.config.categories
  ruleVersions := database.config.ruleVersions
  configVersions := database.config.configVersions.map fun config =>
    configColumns (JsonValue.ofJson config.sourceConfig.toJson) config
  configVersionRules := database.config.configVersionRules
  refreshRuns := database.refresh.refreshRuns.map (runColumns none)
  refreshBatches := database.refresh.refreshBatches.map fun batch =>
    ⟨batch.runId, batch.batchIndex, batch.idempotencyKey, batch.requestHash, batch.checksum,
      batch.itemCount, createdAt⟩
  stagedTransactions := database.refresh.stagedTransactions.map fun staged =>
    ⟨staged.runId, staged.configVersionId, staged.accountId, staged.accountName, staged.sourceId,
      staged.batchIndex, staged.transactionDate, Money.units staged.amount, staged.currency,
      staged.pending, staged.merchant, staged.name, staged.refunded,
      Money.units staged.refundAmount, staged.pendingSourceId, staged.sourceHash⟩
  stagedTransactionCategories := database.refresh.stagedTransactionCategories
  transactions := database.ledger.transactions.map fun live =>
    ⟨live.accountId, live.accountName, live.sourceId, live.transactionDate,
      Money.units live.amount, live.currency, live.pending, live.merchant, live.name,
      live.refunded, Money.units live.refundAmount, live.pendingSourceId, live.sourceHash,
      live.configVersionId, live.firstRefreshRunId, live.lastRefreshRunId, live.firstSeenAt,
      live.lastSeenAt⟩
  transactionCategories := database.ledger.transactionCategories
  syncStates := database.syncState.toList

/-- One purchase is live, and a second full run has staged another. -/
def restaged : Database :=
  (service constantDigest.environment).run
    (RollingBudget.Sample.rebuilding RollingBudget.Sample.purchase RollingBudget.Sample.posted)

theorem reads_restaged : Reads (rows today restaged) restaged where
  categories := rfl
  ruleVersions := rfl
  configVersionRules := rfl
  configVersions := by
    rw [rows, List.forall₂_map_left_iff]
    exact List.forall₂_same.mpr fun _ _ => rfl
  refreshRuns := by
    rw [rows, List.forall₂_map_left_iff]
    exact List.forall₂_same.mpr fun _ _ => rfl
  documents := by
    rw [rows, List.forall₂_map_left_iff]
    exact List.forall₂_same.mpr fun _ _ => rfl
  refreshBatches := by
    rw [rows, List.map_map]
    exact List.map_id _
  stagedTransactions := by decide +kernel
  stagedTransactionCategories := rfl
  transactions := by decide +kernel
  transactionCategories := rfl
  syncStates := rfl

theorem constraints_restaged : (rows today restaged).Constraints := by
  constructor
  · constructor <;> decide +kernel
  all_goals decide +kernel

end Sample

theorem downgrade_upgrade_restaged :
    (∃ legacy, downgrade Sample.constantDigest (Sample.rows Sample.today Sample.restaged) =
        .ok legacy ∧
      upgrade Sample.constantDigest .sqlite Sample.today legacy =
        .ok (roundTripped Sample.today (Sample.rows Sample.today Sample.restaged))) ∧
    ∀ run ∈ (Sample.rows Sample.today Sample.restaged).refreshRuns,
      run.state = .created ∨ run.state = .uploaded ∨ run.state = .committed :=
  downgrade_upgrade Sample.constantDigest Sample.digests
    (RollingBudget.Sample.rebuilding RollingBudget.Sample.purchase RollingBudget.Sample.posted)
    (Sample.rows Sample.today Sample.restaged) Sample.constraints_restaged Sample.reads_restaged
    Sample.today

end RollingBudget.SingleUser
