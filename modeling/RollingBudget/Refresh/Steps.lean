import RollingBudget.Services.RefreshService

namespace RollingBudget

open Sorting ConfigService RefreshService

/-! What a successful call of each refresh step went through: it either answers from
rows that exist, or it passed every check and wrote exactly these rows. -/

variable {environment : Environment} {clock : Clock} {database committed : Database}

/-! ## `begin_refresh` -/

section Begin

variable {request : RefreshBeginRequest} {idempotencyKey : Text}
  {maxBatchItems maxRequestBytes : Nat} {response : RefreshBeginResponse}

/-- The checks a new run passed. -/
structure Begun (database : Database) (request : RefreshBeginRequest) (target : ConfigVersion) :
    Prop where
  targetCase : (mode request.mode = .incremental ∧ database.config.pending = none ∧
      database.config.active = some target) ∨
    (mode request.mode = .full ∧ database.config.active.isSome ∧
      database.config.pending.or database.config.active = some target)
  window : mode request.mode = .full →
    request.sourceFromDate.ordinal + (maxLookback (enabledRules database.config target.id) - 1) ≤
      request.sourceToDate.ordinal
  continues : mode request.mode = .incremental → ∃ syncState,
    database.syncState = some syncState ∧
      ∀ previous, database.refresh.run syncState.lastRefreshRunId = some previous →
        previous.expectedAccounts.toFinset = request.expectedAccounts.toFinset

inductive BeginCase (environment : Environment) (clock : Clock) (database : Database)
    (request : RefreshBeginRequest) (idempotencyKey : Text) (maxBatchItems maxRequestBytes : Nat)
    (committed : Database) (response : RefreshBeginResponse) : Prop where
  | replay (existing : RefreshRun) (config : ConfigVersion)
      (found : Table.get RefreshRun.idempotencyKey database.refresh.refreshRuns idempotencyKey =
        some existing)
      (hash : existing.requestHash = environment.sha256Hex request.toJson)
      (configFound : database.config.configVersion existing.configVersionId = some config)
      (result : committed = database)
      (answer : response = beginResponse database.config existing config maxBatchItems
        maxRequestBytes)
  | new (target : ConfigVersion)
      (missing : Table.get RefreshRun.idempotencyKey database.refresh.refreshRuns idempotencyKey =
        none)
      (begun : Begun database request target)
      (result : committed = insertRun database
        (newRun environment clock database request idempotencyKey target))
      (answer : response = beginResponse database.config
        (newRun environment clock database request idempotencyKey target) target maxBatchItems
        maxRequestBytes)

private theorem beginTarget_ok {tables : ConfigTables} {target : ConfigVersion}
    (completed : beginTarget tables request = .ok target) :
    (mode request.mode = .incremental ∧ tables.pending = none ∧ tables.active = some target) ∨
      (mode request.mode = .full ∧ tables.active.isSome ∧
        tables.pending.or tables.active = some target) := by
  rcases Outcome.bind_eq_ok.mp completed with ⟨active, activeRead, afterActive⟩
  rcases Outcome.bind_eq_ok.mp afterActive with ⟨_, noPending, finished⟩
  rw [Outcome.orRaise_eq_ok] at activeRead
  rw [Outcome.require_eq_ok] at noPending
  rw [Outcome.pure_eq_ok] at finished
  cases kind : mode request.mode with
  | incremental =>
      rw [kind] at finished noPending
      refine Or.inl ⟨rfl, ?_, ?_⟩
      · simpa using noPending
      · simpa [activeRead] using finished
  | full =>
      rw [kind] at finished
      refine Or.inr ⟨rfl, by simp [activeRead], ?_⟩
      rw [← finished, activeRead]
      cases tables.pending <;> rfl

theorem beginRefresh_cases
    (completed : beginRefresh environment clock database request idempotencyKey maxBatchItems
      maxRequestBytes = .ok (committed, response)) :
    BeginCase environment clock database request idempotencyKey maxBatchItems maxRequestBytes
      committed response := by
  unfold beginRefresh at completed
  split at completed
  · next existing found =>
    rcases Outcome.bind_eq_ok.mp completed with ⟨_, sameHash, afterHash⟩
    rcases Outcome.bind_eq_ok.mp afterHash with ⟨config, configRead, finished⟩
    rw [Outcome.pure_eq_ok, Prod.mk.injEq] at finished
    exact BeginCase.replay existing config found (Outcome.require_eq_ok.mp sameHash)
      (Outcome.orRaise_eq_ok.mp configRead) finished.1.symm finished.2.symm
  · next missing =>
    rcases Outcome.bind_eq_ok.mp completed with ⟨target, targetRead, afterTarget⟩
    have targetCases := beginTarget_ok targetRead
    cases kind : mode request.mode with
    | full =>
        simp only [kind] at afterTarget
        rcases Outcome.bind_eq_ok.mp afterTarget with ⟨_, windowChecked, finished⟩
        rw [Outcome.pure_eq_ok, Prod.mk.injEq] at finished
        rcases Outcome.bind_eq_ok.mp windowChecked with ⟨start, subtracted, notAfter⟩
        rw [Outcome.orRaise_eq_ok, Date.minusDays_eq_some_iff] at subtracted
        rw [Outcome.require_eq_ok, Date.lt_iff] at notAfter
        refine BeginCase.new target missing ⟨targetCases, ?_, ?_⟩ finished.1.symm finished.2.symm
        · intro _
          omega
        · intro incremental
          rw [kind] at incremental
          cases incremental
    | incremental =>
        simp only [kind] at afterTarget
        rcases Outcome.bind_eq_ok.mp afterTarget with ⟨_, accountsChecked, finished⟩
        rw [Outcome.pure_eq_ok, Prod.mk.injEq] at finished
        rcases Outcome.bind_eq_ok.mp accountsChecked with ⟨syncState, syncRead, sameAccounts⟩
        rw [Outcome.orRaise_eq_ok] at syncRead
        rw [Outcome.require_eq_ok] at sameAccounts
        refine BeginCase.new target missing ⟨targetCases, ?_, ?_⟩ finished.1.symm finished.2.symm
        · intro full
          rw [kind] at full
          cases full
        · intro _
          refine ⟨syncState, syncRead, fun previous found => ?_⟩
          rw [found] at sameAccounts
          simpa using sameAccounts

end Begin

/-! ## `upload_batch` -/

section Upload

variable {request : RefreshBatchRequest} {runId : Nat} {batchIndex : Int}
  {maxBatchItems maxRequestBytes : Nat} {response : RefreshBatchResponse}

/-- One item passed the checks that do not look at the rest of its batch. -/
structure ItemChecked (tables : RefreshTables) (run : RefreshRun) (config : ConfigVersion)
    (allowed : List (Text × Nat × Nat)) (item : TransactionUpload) : Prop where
  account : item.accountId ∈ run.expectedAccounts
  currency : item.currency = config.displayCurrency
  window : ¬outsideWindow run item.date
  categories : ∀ key ∈ item.categories, key ∈ allowed.map Prod.fst
  fresh : TransactionUpload.identity item ∉ (tables.stagedOf run.id).map StagedTransaction.identity

private theorem categories_allowed {allowed : List (Text × Nat × Nat)} {item : TransactionUpload}
    (none : unknownCategories allowed item = []) :
    ∀ key ∈ item.categories, key ∈ allowed.map Prod.fst := by
  intro key member
  by_contra unknown
  have listed : key ∈ unknownCategories allowed item :=
    mem_sortedOn.mpr (List.mem_filter.mpr ⟨List.mem_dedup.mpr member, decide_eq_true unknown⟩)
  rw [none] at listed
  cases listed

private theorem checkItem_ok {tables : RefreshTables} {run : RefreshRun} {config : ConfigVersion}
    {allowed : List (Text × Nat × Nat)} {seen seen' : List Identity} {item : TransactionUpload}
    (completed : checkItem tables run config allowed seen item = .ok seen') :
    TransactionUpload.identity item ∉ seen ∧ ItemChecked tables run config allowed item ∧
      seen' = seen ++ [TransactionUpload.identity item] := by
  unfold checkItem at completed
  rcases Outcome.bind_eq_ok.mp completed with ⟨_, unseen, completed⟩
  rcases Outcome.bind_eq_ok.mp completed with ⟨_, account, completed⟩
  rcases Outcome.bind_eq_ok.mp completed with ⟨_, currency, completed⟩
  rcases Outcome.bind_eq_ok.mp completed with ⟨_, window, completed⟩
  rcases Outcome.bind_eq_ok.mp completed with ⟨_, known, completed⟩
  rcases Outcome.bind_eq_ok.mp completed with ⟨_, fresh, finished⟩
  rw [Outcome.require_eq_ok] at unseen account currency window known fresh
  rw [Outcome.pure_eq_ok] at finished
  exact ⟨unseen, ⟨account, currency, window, categories_allowed known, fresh⟩, finished.symm⟩

/-- A batch that passed the loop: distinct identities, and every item checked. -/
structure ItemsChecked (tables : RefreshTables) (run : RefreshRun) (config : ConfigVersion)
    (allowed : List (Text × Nat × Nat)) (items : List TransactionUpload) : Prop where
  identities : (items.map TransactionUpload.identity).Nodup
  items : ∀ item ∈ items, ItemChecked tables run config allowed item

private theorem checkItems_ok {tables : RefreshTables} {run : RefreshRun} {config : ConfigVersion}
    {allowed : List (Text × Nat × Nat)} {items : List TransactionUpload} {seen : List Identity}
    (completed : items.foldlM (checkItem tables run config allowed) [] = .ok seen) :
    ItemsChecked tables run config allowed items := by
  have loop := Outcome.foldlM_induction
    (motive := fun done seen => seen = done.map TransactionUpload.identity ∧
      ItemsChecked tables run config allowed done) completed
    ⟨rfl, ⟨List.nodup_nil, by simp⟩⟩
    (by
      rintro done item state state' _ ⟨rfl, checked⟩ stepped
      rcases checkItem_ok stepped with ⟨unseen, passed, rfl⟩
      refine ⟨by simp, ⟨?_, ?_⟩⟩
      · refine Table.nodup_map_concat checked.identities fun old member equal => unseen ?_
        rw [← equal]
        exact List.mem_map_of_mem member
      · intro other member
        rcases List.mem_append.mp member with old | new
        · exact checked.items other old
        · rw [List.mem_singleton.mp new]
          exact passed)
  exact loop.2

/-- The checks a new batch passed. -/
structure Uploaded (database : Database) (run : RefreshRun) (config : ConfigVersion)
    (index : Nat) (request : RefreshBatchRequest) : Prop where
  runFound : database.refresh.run run.id = some run
  state : run.state = .created ∨ run.state = .uploaded
  free : database.refresh.batch run.id index = none
  key : ∀ batch ∈ database.refresh.batchesOf run.id, batch.idempotencyKey ≠ request.idempotencyKey
  configFound : database.config.configVersion run.configVersionId = some config
  items : ItemsChecked database.refresh run config
    (allowedCategories database.config run.configVersionId) request.transactions

/-- The limits that come before everything else. -/
structure WithinLimits (request : RefreshBatchRequest) (batchIndex : Int)
    (maxBatchItems maxRequestBytes : Nat) : Prop where
  index : 0 ≤ batchIndex
  items : request.transactions.length ≤ maxBatchItems
  bytes : request.toJson.dumps.utf8Length ≤ maxRequestBytes

inductive UploadCase (environment : Environment) (clock : Clock) (database : Database)
    (runId index : Nat) (request : RefreshBatchRequest) (committed : Database)
    (response : RefreshBatchResponse) : Prop where
  | replay (run : RefreshRun) (existing : RefreshBatch)
      (runFound : database.refresh.run runId = some run)
      (found : database.refresh.batch runId index = some existing)
      (hash : existing.requestHash = environment.sha256Hex request.toJson)
      (checksum : existing.checksum = itemsChecksum environment request)
      (result : committed = database)
      (answer : response = batchResponse existing true)
  | new (run : RefreshRun) (config : ConfigVersion) (runId_eq : run.id = runId)
      (uploaded : Uploaded database run config index request)
      (result : committed = { database with
        refresh := insertBatch environment clock database.refresh run
          (newBatch environment run index request)
          (allowedCategories database.config run.configVersionId) request })
      (answer : response = batchResponse (newBatch environment run index request) false)

theorem uploadBatch_cases
    (completed : uploadBatch environment clock database runId batchIndex request maxBatchItems
      maxRequestBytes = .ok (committed, response)) :
    WithinLimits request batchIndex maxBatchItems maxRequestBytes ∧
      UploadCase environment clock database runId batchIndex.toNat request committed response := by
  unfold uploadBatch at completed
  rcases Outcome.bind_eq_ok.mp completed with ⟨_, index, completed⟩
  rcases Outcome.bind_eq_ok.mp completed with ⟨_, items, completed⟩
  rcases Outcome.bind_eq_ok.mp completed with ⟨_, bytes, completed⟩
  rcases Outcome.bind_eq_ok.mp completed with ⟨run, runRead, completed⟩
  rw [Outcome.require_eq_ok] at index items bytes
  rw [Outcome.orRaise_eq_ok] at runRead
  refine ⟨⟨index, items, bytes⟩, ?_⟩
  split at completed
  · next existing found =>
    rcases Outcome.bind_eq_ok.mp completed with ⟨_, same, finished⟩
    rw [Outcome.require_eq_ok] at same
    rw [Outcome.pure_eq_ok, Prod.mk.injEq] at finished
    exact UploadCase.replay run existing runRead found same.1 same.2 finished.1.symm
      finished.2.symm
  · next free =>
    have runId_eq : run.id = runId := Table.key_of_get runRead
    unfold storeBatch at completed
    rcases Outcome.bind_eq_ok.mp completed with ⟨_, key, completed⟩
    rcases Outcome.bind_eq_ok.mp completed with ⟨_, state, completed⟩
    rcases Outcome.bind_eq_ok.mp completed with ⟨config, configRead, completed⟩
    rcases Outcome.bind_eq_ok.mp completed with ⟨seen, checked, finished⟩
    rw [Outcome.require_eq_ok] at key state
    rw [Outcome.orRaise_eq_ok] at configRead
    rw [Outcome.pure_eq_ok, Prod.mk.injEq] at finished
    refine UploadCase.new run config runId_eq ⟨?_, state, ?_, key, configRead, checkItems_ok checked⟩
      finished.1.symm finished.2.symm
    · rw [runId_eq]
      exact runRead
    · rw [runId_eq]
      exact free

end Upload

/-! ## `commit_refresh` -/

section Commit

variable {request : RefreshCommitRequest} {runId : Nat} {view : RefreshRunView}

/-- The checks a run passed before its rows were published. -/
structure Committable (database : Database) (run : RefreshRun) (config : ConfigVersion)
    (request : RefreshCommitRequest) : Prop where
  runFound : database.refresh.run run.id = some run
  state : run.state = .uploaded ∨ (run.state = .created ∧ request.expectedBatchCount = 0)
  configFound : database.config.configVersion run.configVersionId = some config
  targetCase : (run.mode = .incremental ∧ config.status = .active ∧ database.config.pending = none ∧
      database.config.active.map ConfigVersion.id = some config.id) ∨
    (run.mode = .full ∧ config.status ≠ .superseded ∧
      (database.config.pending.or database.config.active).map ConfigVersion.id = some config.id)
  indices : (sortedOn RefreshBatch.batchIndex (database.refresh.batchesOf run.id)).map
    RefreshBatch.batchIndex = List.range request.expectedBatchCount
  accounts : request.completedAccounts = sorted run.expectedAccounts
  revision : database.syncState.map SyncState.revision = run.syncRevisionBefore
  continues : run.mode = .incremental → ∃ syncState previous,
    database.syncState = some syncState ∧
      database.refresh.run syncState.lastRefreshRunId = some previous ∧
        previous.expectedAccounts.toFinset = run.expectedAccounts.toFinset

/-- The batches of a run in the order its commit reads them. -/
abbrev orderedBatches (tables : RefreshTables) (runId : Nat) : List RefreshBatch :=
  sortedOn RefreshBatch.batchIndex (tables.batchesOf runId)

/-- A run as its commit leaves it. -/
def finalRun (environment : Environment) (clock : Clock) (database : Database) (run : RefreshRun)
    (request : RefreshCommitRequest) : RefreshRun :=
  completeRun environment clock.now request (orderedBatches database.refresh run.id) run

def finalRefresh (environment : Environment) (clock : Clock) (database : Database)
    (run : RefreshRun) (request : RefreshCommitRequest) : RefreshTables :=
  clearStaging
    { database.refresh with
      refreshRuns := Table.modify RefreshRun.id run.id
        (completeRun environment clock.now request (orderedBatches database.refresh run.id))
        database.refresh.refreshRuns } run.id

/-- The publication of a run that passed its checks. -/
structure Published (environment : Environment) (clock : Clock) (database : Database)
    (run : RefreshRun) (config : ConfigVersion) (request : RefreshCommitRequest)
    (committed : Database) (tables : ConfigTables) (published : LedgerTables) : Prop where
  committable : Committable database run config request
  publishes : publishedLedger clock.now database run = .ok published
  prunes : pruneOutsideWindows database.config run published = .ok committed.ledger
  activates : activate clock.now database.config config = .ok tables
  configEq : committed.config = ConfigService.commit environment tables
  refreshEq : committed.refresh = finalRefresh environment clock database run request
  syncStateEq : committed.syncState =
    some (nextSyncState clock config (finalRun environment clock database run request)
      database.syncState)

inductive CommitCase (environment : Environment) (clock : Clock) (database : Database)
    (runId : Nat) (request : RefreshCommitRequest) (committed : Database)
    (view : RefreshRunView) : Prop where
  | replay (run : RefreshRun) (found : database.refresh.run runId = some run)
      (state : run.state = .committed)
      (count : run.expectedBatchCount = some request.expectedBatchCount)
      (accounts : sorted (run.completedAccounts.getD []) = request.completedAccounts)
      (result : committed = database) (answer : view = runView environment run)
  | new (run : RefreshRun) (config : ConfigVersion) (tables : ConfigTables)
      (ledger : LedgerTables) (runId_eq : run.id = runId)
      (published : Published environment clock database run config request committed tables
        ledger)
      (answer : view = runView environment (finalRun environment clock database run request))

theorem commitTarget_eq_ok_iff {tables : ConfigTables} {run : RefreshRun} {config : ConfigVersion} :
    commitTarget tables run = .ok config ↔
      tables.configVersion run.configVersionId = some config ∧
        ((run.mode = .incremental ∧ config.status = .active ∧ tables.pending = none ∧
            tables.active.map ConfigVersion.id = some config.id) ∨
          (run.mode = .full ∧ config.status ≠ .superseded ∧
            (tables.pending.or tables.active).map ConfigVersion.id = some config.id)) := by
  unfold commitTarget
  simp only [Outcome.bind_eq_ok, Outcome.orRaise_eq_ok, Outcome.require_eq_ok, Outcome.pure_eq_ok,
    exists_const]
  constructor
  · rintro ⟨found, read, notSuperseded, stillActive, noPending, current, rfl⟩
    refine ⟨read, ?_⟩
    cases kind : run.mode with
    | incremental =>
        simp only [kind, true_and, not_not, Option.not_isSome_iff_eq_none] at stillActive noPending
        simp only [kind, reduceCtorEq, if_false] at current
        exact Or.inl ⟨rfl, stillActive, noPending, current⟩
    | full =>
        simp only [kind, if_true] at current
        exact Or.inr ⟨rfl, notSuperseded, current⟩
  · rintro ⟨read, ⟨kind, isActive, noPending, current⟩ | ⟨kind, notSuperseded, current⟩⟩
    · exact ⟨config, read, by simp [isActive], by simp [isActive], by simp [noPending],
        by simpa [kind] using current, rfl⟩
    · exact ⟨config, read, notSuperseded, by simp [kind], by simp [kind],
        by simpa [kind] using current, rfl⟩

theorem checkRevision_eq_ok_iff {run : RefreshRun} :
    checkRevision database run = .ok () ↔
      database.syncState.map SyncState.revision = run.syncRevisionBefore ∧
        (run.mode = .incremental → ∃ syncState previous, database.syncState = some syncState ∧
          database.refresh.run syncState.lastRefreshRunId = some previous ∧
            previous.expectedAccounts.toFinset = run.expectedAccounts.toFinset) := by
  unfold checkRevision
  simp only [Outcome.bind_eq_ok, Outcome.require_eq_ok, exists_const]
  refine and_congr_right fun _ => imp_congr_right fun _ => ?_
  cases database.syncState with
  | none => simp
  | some syncState =>
      cases found : database.refresh.run syncState.lastRefreshRunId <;> simp [found]

/-- The checks of `commit_refresh` before the rows of the run are looked at. -/
def commitChecks (database : Database) (run : RefreshRun) (request : RefreshCommitRequest) :
    Except ServiceError (ConfigVersion × List RefreshBatch) := do
  require (run.state = .uploaded ∨ (run.state = .created ∧ request.expectedBatchCount = 0))
    (ServiceError.conflictError .refreshRunNotCommittable
      ("Cannot commit a ".toList ++ run.state.value ++ " refresh run".toList))
  let config ← commitTarget database.config run
  let batches ← commitBatches database.refresh run request
  checkRevision database run
  pure (config, batches)

theorem commitOpenRun_eq {run : RefreshRun} :
    commitOpenRun environment clock database run request =
      commitChecks database run request >>= fun checked =>
        publishRun environment clock database run checked.1 request checked.2 := by
  unfold commitOpenRun commitChecks
  simp only [bind_assoc, pure_bind]

theorem commitChecks_eq_ok_iff {run : RefreshRun} {config : ConfigVersion}
    {batches : List RefreshBatch} (runFound : database.refresh.run run.id = some run) :
    commitChecks database run request = .ok (config, batches) ↔
      Committable database run config request ∧ batches = orderedBatches database.refresh run.id := by
  unfold commitChecks commitBatches
  simp only [Outcome.bind_eq_ok, Outcome.require_eq_ok, Outcome.pure_eq_ok, exists_const,
    commitTarget_eq_ok_iff, Prod.mk.injEq]
  constructor
  · rintro ⟨state, found, ⟨configFound, target⟩, ordered, ⟨indices, accounts, rfl⟩, _,
      revisionRead, rfl, rfl⟩
    rcases checkRevision_eq_ok_iff.mp revisionRead with ⟨revision, continues⟩
    exact ⟨⟨runFound, state, configFound, target, indices, accounts, revision, continues⟩, rfl⟩
  · rintro ⟨committable, rfl⟩
    exact ⟨committable.state, config, ⟨committable.configFound, committable.targetCase⟩, _,
      ⟨committable.indices, committable.accounts, rfl⟩,
      (), checkRevision_eq_ok_iff.mpr ⟨committable.revision, committable.continues⟩, rfl, rfl⟩

theorem commitRefresh_cases
    (completed : commitRefresh environment clock database runId request = .ok (committed, view)) :
    CommitCase environment clock database runId request committed view := by
  unfold commitRefresh at completed
  rcases Outcome.bind_eq_ok.mp completed with ⟨run, runRead, completed⟩
  rw [Outcome.orRaise_eq_ok] at runRead
  split at completed
  · next state =>
    rcases Outcome.bind_eq_ok.mp completed with ⟨_, same, finished⟩
    rw [Outcome.require_eq_ok] at same
    rw [Outcome.pure_eq_ok, Prod.mk.injEq] at finished
    exact CommitCase.replay run runRead state same.1 same.2 finished.1.symm finished.2.symm
  · next isOpen =>
    rcases Outcome.bind_eq_ok.mp completed with ⟨⟨result, final⟩, opened, finished⟩
    simp only [Outcome.pure_eq_ok, Prod.mk.injEq] at finished
    rcases finished with ⟨rfl, rfl⟩
    have runId_eq : run.id = runId := Table.key_of_get runRead
    have runFound : database.refresh.run run.id = some run := by
      rw [runId_eq]
      exact runRead
    rw [commitOpenRun_eq] at opened
    rcases Outcome.bind_eq_ok.mp opened with ⟨⟨config, batches⟩, checked, publishes⟩
    rcases (commitChecks_eq_ok_iff runFound).mp checked with ⟨committable, rfl⟩
    unfold publishRun at publishes
    rcases Outcome.bind_eq_ok.mp publishes with ⟨published, merged, publishes⟩
    rcases Outcome.bind_eq_ok.mp publishes with ⟨ledger, pruned, publishes⟩
    rcases Outcome.bind_eq_ok.mp publishes with ⟨tables, activated, finished⟩
    rw [Outcome.pure_eq_ok, Prod.mk.injEq] at finished
    rcases finished with ⟨rfl, rfl⟩
    exact CommitCase.new run config tables published runId_eq
      ⟨committable, merged, pruned, activated, rfl, rfl, rfl⟩ rfl

end Commit

end RollingBudget
