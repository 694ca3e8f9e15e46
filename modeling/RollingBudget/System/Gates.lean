import RollingBudget.System.Isolation

namespace RollingBudget

open Sorting ConfigService RefreshService DashboardService ServiceError Outcome

/-! `begin_refresh`, the dashboard and the configuration view each decide on their own
whether the live data can be continued, and `commit_refresh` decides once more. The live
data of every reachable state belong to the active version, and so the gates agree. -/

variable {environment : Environment} {clock : Clock} {database : Database}
  {active : ConfigVersion}

/-! ## The gates -/

/-- The live data can be continued by an incremental run. -/
structure Continuable (database : Database) : Prop where
  noPending : database.config.pending = none
  synced : database.syncState.isSome

theorem continuable_iff :
    Continuable database ↔ database.config.pending = none ∧ database.syncState.isSome :=
  ⟨fun ⟨noPending, synced⟩ => ⟨noPending, synced⟩, fun ⟨noPending, synced⟩ => ⟨noPending, synced⟩⟩

/-- The last committed run, if any, has the accounts of the request. -/
def SameAccounts (database : Database) (request : RefreshBeginRequest) : Prop :=
  ∀ syncState previous, database.syncState = some syncState →
    database.refresh.run syncState.lastRefreshRunId = some previous →
      previous.expectedAccounts.toFinset = request.expectedAccounts.toFinset

/-- The sync state names the active version as soon as it names any. -/
theorem SystemInvariant.synced_iff (invariant : SystemInvariant environment database)
    (found : database.config.active = some active) :
    database.syncState.map SyncState.configVersionId = some active.id ↔
      database.syncState.isSome := by
  cases sync : database.syncState with
  | none => simp
  | some syncState =>
      have owner := (invariant.live.sync syncState sync).1
      rw [found, Option.map_some, Option.some.injEq] at owner
      simp [owner]

theorem begin_accepted_iff {raw request : RefreshBeginRequest} {idempotencyKey : Text}
    {maxBatchItems maxRequestBytes : Nat} (validated : raw.validate = some request)
    (incremental : request.mode = .incremental)
    (fresh : Table.get RefreshRun.idempotencyKey database.refresh.refreshRuns idempotencyKey = none)
    (found : database.config.active = some active) (accounts : SameAccounts database request) :
    (∃ committed response, Event.outcome environment database
        ⟨.beginRefresh raw idempotencyKey maxBatchItems maxRequestBytes, clock⟩ =
          .ok (committed, .begun response)) ↔ Continuable database := by
  have kind : mode request.mode = .incremental := by rw [incremental]; rfl
  constructor
  · rintro ⟨committed, response, completed⟩
    rcases Outcome.bind_eq_ok.mp completed with ⟨request', validated', completed⟩
    rcases Outcome.bind_eq_ok.mp completed with ⟨begun, begins, _⟩
    rw [Outcome.orRaise_eq_ok, validated, Option.some.injEq] at validated'
    rw [← validated'] at begins
    cases beginRefresh_cases begins with
    | replay existing config known hash configFound result answer =>
        rw [fresh] at known
        cases known
    | new target missing begun result answer =>
        rcases begun.continues kind with ⟨syncState, sync, _⟩
        rcases begun.targetCase with ⟨_, noPending, _⟩ | ⟨full, _⟩
        · exact ⟨noPending, by rw [sync]; rfl⟩
        · rw [kind] at full
          cases full
  · rintro ⟨noPending, synced⟩
    rcases Option.isSome_iff_exists.mp synced with ⟨syncState, sync⟩
    have target : beginTarget database.config request = .ok active := by
      unfold beginTarget
      rw [found, noPending, kind]
      rfl
    have continues : checkIncremental database request = .ok () := by
      unfold checkIncremental
      rw [sync]
      refine Outcome.require_of ?_
      cases last : database.refresh.run syncState.lastRefreshRunId with
      | none => rfl
      | some previous => exact decide_eq_true (accounts syncState previous sync last)
    have begins : beginRefresh environment clock database request idempotencyKey maxBatchItems
        maxRequestBytes = .ok (insertRun database
          (newRun environment clock database request idempotencyKey active),
            beginResponse database.config
              (newRun environment clock database request idempotencyKey active) active
              maxBatchItems maxRequestBytes) := by
      unfold beginRefresh
      rw [fresh]
      dsimp only
      rw [target, Outcome.ok_bind, kind]
      dsimp only
      rw [continues]
      rfl
    unfold Event.outcome
    dsimp only
    rw [validated, Outcome.orRaise_some, Outcome.ok_bind, begins]
    exact ⟨_, _, rfl⟩

/-- What the active view says about the next refresh. -/
theorem SystemInvariant.view_gate (invariant : SystemInvariant environment database)
    (found : database.config.active = some active) :
    ∃ view activeView,
      getConfig environment database.config database.syncState = .ok view ∧
        view.active = some activeView ∧
          ((view.pending = none ∧ activeView.requiresFullRebuild = false) ↔
            Continuable database) := by
  have wellFormed := invariant.config.wellFormed
  rcases ConfigTables.active_mem found with ⟨member, isActive⟩
  rcases wellFormed.getConfig_active database.syncState found with
    ⟨view, activeView, read, isActiveView, activeRead⟩
  refine ⟨view, activeView, read, isActiveView, ?_⟩
  have noPending : view.pending = none ↔ database.config.pending = none := by
    rcases Outcome.bind_eq_ok.mp read with ⟨_, _, read⟩
    rcases Outcome.bind_eq_ok.mp read with ⟨pending, pendingRead, finished⟩
    rw [Outcome.pure_eq_ok] at finished
    rw [← finished]
    cases isPending : database.config.pending with
    | none =>
        rw [isPending] at pendingRead
        cases pendingRead
        exact iff_of_true rfl rfl
    | some config =>
        rw [isPending] at pendingRead
        rcases Outcome.bind_eq_ok.mp pendingRead with ⟨pendingView, _, shown⟩
        cases shown
        simp
  have required : activeView.requiresFullRebuild = false ↔ database.syncState.isSome := by
    rcases Outcome.bind_eq_ok.mp activeRead with ⟨_, _, activeRead⟩
    rcases Outcome.bind_eq_ok.mp activeRead with ⟨_, _, activeRead⟩
    rcases Outcome.bind_eq_ok.mp activeRead with ⟨_, _, finished⟩
    rw [Outcome.pure_eq_ok] at finished
    rw [← finished, ← invariant.synced_iff found]
    simp [isActive]
  rw [noPending, required]
  exact continuable_iff.symm

/-- What the dashboard says about it. -/
theorem SystemInvariant.dashboard_gate (invariant : SystemInvariant environment database)
    (found : database.config.active = some active) {asOf : Option Date} {staleAfterHours : Nat}
    {response : DashboardResponse}
    (read : getDashboard environment clock database asOf staleAfterHours = .ok response) :
    response.fullRebuildRequired = false ↔ Continuable database := by
  rcases Outcome.bind_eq_ok.mp read with ⟨active', activeRead, read⟩
  rcases Outcome.bind_eq_ok.mp read with ⟨_, _, read⟩
  rcases Outcome.bind_eq_ok.mp read with ⟨_, _, read⟩
  rcases Outcome.bind_eq_ok.mp read with ⟨_, _, finished⟩
  rw [Outcome.orRaise_eq_ok, found, Option.some.injEq] at activeRead
  rw [Outcome.pure_eq_ok] at finished
  rw [← finished, ← activeRead]
  have synced := invariant.synced_iff found
  simp only [decide_eq_false_iff_not, not_or, Option.not_isSome_iff_eq_none, not_not, synced]
  exact continuable_iff.symm

/-! ## The gate of the commit -/

/-- The codes of a commit whose run is no longer the one to publish. -/
def gateCodes : List ErrorCode :=
  [.configVersionConflict, .fullRebuildRequired, .refreshRunSuperseded, .accountScopeChanged]

def ServiceError.Gated (error : ServiceError) : Prop := ∃ code ∈ gateCodes, error.code = some code

theorem not_gated {code : ErrorCode} {message : Text} (other : code ∉ gateCodes) :
    ¬ServiceError.Gated (conflictError code message) := by
  rintro ⟨code', member, same⟩
  cases same
  exact other member

theorem overflow_not_gated : ¬ServiceError.Gated overflowError := by
  rintro ⟨_, _, same⟩
  cases same

/-- An incremental run that the state it began in still admits. -/
structure Admitted (database : Database) (run : RefreshRun) (active : ConfigVersion) : Prop where
  mode : run.mode = .incremental
  config : run.configVersionId = active.id
  isActive : database.config.active = some active
  noPending : database.config.pending = none
  revision : database.syncState.map SyncState.revision = run.syncRevisionBefore
  accounts : ∃ syncState previous, database.syncState = some syncState ∧
    database.refresh.run syncState.lastRefreshRunId = some previous ∧
      previous.expectedAccounts.toFinset = run.expectedAccounts.toFinset

theorem Admitted.commitTarget_eq {run : RefreshRun}
    (wellFormed : WellFormed environment database.config)
    (admitted : Admitted database run active) :
    commitTarget database.config run = .ok active := by
  rcases ConfigTables.active_mem admitted.isActive with ⟨member, isActive⟩
  unfold commitTarget
  rw [admitted.config, wellFormed.find_version member, Outcome.orRaise_some, Outcome.ok_bind,
    admitted.mode, admitted.noPending, admitted.isActive, isActive]
  simp [pure, Except.pure]

theorem Admitted.checkRevision_eq {run : RefreshRun} (admitted : Admitted database run active) :
    checkRevision database run = .ok () := by
  rcases admitted.accounts with ⟨syncState, previous, sync, last, same⟩
  unfold checkRevision
  rw [Outcome.require_of admitted.revision, Outcome.ok_bind]
  refine Outcome.require_of fun _ => ?_
  rw [sync, Option.bind_some, last]
  exact decide_eq_true same

private theorem avoids_commitBatches (tables : RefreshTables) (run : RefreshRun)
    (request : RefreshCommitRequest) :
    Avoids ServiceError.Gated (commitBatches tables run request) := by
  refine avoids_bind (avoids_require (not_gated (by decide))) fun _ _ => ?_
  exact avoids_bind (avoids_require (not_gated (by decide))) fun _ _ => avoids_pure _

private theorem avoids_addReplacement (ledger : LedgerTables) (items : List StagedTransaction)
    (targets : List Identity) (staged : StagedTransaction) :
    Avoids ServiceError.Gated (addReplacement ledger items targets staged) := by
  unfold addReplacement
  split
  · exact avoids_pure _
  · refine avoids_bind (avoids_require (not_gated (by decide))) fun _ _ => ?_
    refine avoids_bind (avoids_require (not_gated (by decide))) fun _ _ => ?_
    refine avoids_bind (avoids_require (not_gated (by decide))) fun _ _ => ?_
    exact avoids_bind (avoids_require (not_gated (by decide))) fun _ _ => avoids_pure _

private theorem avoids_storeStaged (now : Datetime) (tables : RefreshTables) (run : RefreshRun)
    (ledger : LedgerTables) (staged : StagedTransaction) (existing : Option Transaction) :
    Avoids ServiceError.Gated (storeStaged now tables run ledger staged existing) :=
  avoids_bind (avoids_require (not_gated (by decide))) fun _ _ => avoids_pure _

private theorem publishedLedger_not_gated (now : Datetime) (database : Database)
    (run : RefreshRun) :
    Avoids ServiceError.Gated (publishedLedger now database run) := by
  have each : ∀ (targets : List Identity) (ledger : LedgerTables) (staged : StagedTransaction)
      (outcome : Except ServiceError LedgerTables), Avoids ServiceError.Gated outcome →
        Avoids ServiceError.Gated (if staged.identity ∈ targets then pure ledger else outcome) := by
    intro targets ledger staged outcome avoids
    split
    · exact avoids_pure _
    · exact avoids
  refine avoids_bind (avoids_foldlM (avoids_addReplacement _ _) _ _) fun targets _ => ?_
  split
  · exact avoids_foldlM (fun _ _ => each _ _ _ _ (avoids_storeStaged _ _ _ _ _ _)) _ _
  · exact avoids_foldlM (fun _ _ => each _ _ _ _ (avoids_storeStaged _ _ _ _ _ _)) _ _

private theorem avoids_prune (tables : ConfigTables) (run : RefreshRun) (ledger : LedgerTables) :
    Avoids ServiceError.Gated (pruneOutsideWindows tables run ledger) := by
  refine avoids_bind (avoids_foldlM (fun _ _ => ?_) _ _) fun _ _ => avoids_pure _
  exact avoids_bind (avoids_orRaise overflow_not_gated _) fun _ _ => avoids_pure _

/-- The gate of the commit lets such a run pass. -/
theorem Admitted.avoids_commit {run : RefreshRun} {runId : Nat} {request : RefreshCommitRequest}
    (wellFormed : WellFormed environment database.config)
    (runFound : database.refresh.run runId = some run)
    (admitted : Admitted database run active) :
    Avoids ServiceError.Gated (commitRefresh environment clock database runId request) := by
  have notPending : active.status ≠ .pending := by
    simp [(ConfigTables.active_mem admitted.isActive).2]
  unfold commitRefresh
  rw [runFound, Outcome.orRaise_some, Outcome.ok_bind]
  split
  · exact avoids_bind (avoids_require (not_gated (by decide))) fun _ _ => avoids_pure _
  · refine avoids_bind ?_ fun _ _ => avoids_pure _
    refine avoids_bind (avoids_require (not_gated (by decide))) fun _ _ => ?_
    rw [admitted.commitTarget_eq wellFormed, Outcome.ok_bind]
    refine avoids_bind (avoids_commitBatches _ _ _) fun batches _ => ?_
    rw [admitted.checkRevision_eq, Outcome.ok_bind]
    refine avoids_bind (publishedLedger_not_gated _ _ _) fun _ _ => ?_
    refine avoids_bind (avoids_prune _ _ _) fun _ _ => ?_
    unfold activate
    rw [if_neg notPending]
    exact avoids_pure _

/-! ## From the begin to the commit -/

/-- No commit and no configuration write succeeds in the continuation of a history. -/
def Undisturbed (environment : Environment) (history continuation : List Event) : Prop :=
  ∀ earlier event later, continuation = earlier ++ event :: later →
    event.call.isStaging = false →
      ∃ error, event.outcome environment ((service environment).run (history ++ earlier)) =
        .error error

theorem Undisturbed.concat {history continuation : List Event} {event : Event}
    (undisturbed : Undisturbed environment history (continuation ++ [event])) :
    Undisturbed environment history continuation := by
  intro earlier other later split
  exact undisturbed earlier other (later ++ [event]) (by simp [split])

theorem SystemInvariant.undisturbed_next (invariant : SystemInvariant environment database)
    {event : Event} (quiet : event.call.isStaging = false → ∃ error,
      event.outcome environment database = .error error) :
    (event.next environment database).config = database.config ∧
      (event.next environment database).syncState = database.syncState := by
  cases kind : event.call.isStaging with
  | false =>
      rcases quiet kind with ⟨error, raised⟩
      rw [Event.next_of_error raised]
      exact ⟨rfl, rfl⟩
  | true =>
      rcases event.next_cases invariant.config with unchanged | ⟨response, succeeds⟩
      · rw [unchanged]
        exact ⟨rfl, rfl⟩
      · rcases succeeds.staging_frame kind with ⟨configEq, _, syncEq⟩
        exact ⟨configEq, syncEq⟩

theorem undisturbed_run {history continuation : List Event}
    (undisturbed : Undisturbed environment history continuation) :
    ((service environment).run (history ++ continuation)).config =
        ((service environment).run history).config ∧
      ((service environment).run (history ++ continuation)).syncState =
        ((service environment).run history).syncState := by
  induction continuation using List.reverseRecOn with
  | nil =>
      rw [List.append_nil]
      exact ⟨rfl, rfl⟩
  | append_singleton continuation event induction =>
      have invariant := invariant_run environment (history ++ continuation)
      rcases induction undisturbed.concat with ⟨configEq, syncEq⟩
      rcases invariant.undisturbed_next (undisturbed continuation event [] (by simp)) with
        ⟨configNext, syncNext⟩
      rw [← List.append_assoc, Machine.run_concat]
      exact ⟨configNext.trans configEq, syncNext.trans syncEq⟩

/-- What was admitted stays so while nothing else is published. -/
theorem Admitted.mono {after : Database} {run run' : RefreshRun}
    (admitted : Admitted database run active) (configEq : after.config = database.config)
    (syncEq : after.syncState = database.syncState) (same : run'.frozen = run.frozen)
    (invariant : SystemInvariant environment database)
    (grows : database.refresh.Extends after.refresh) : Admitted after run' active := by
  refine ⟨(RefreshRun.mode_of_frozen same).trans admitted.mode,
    (RefreshRun.configVersionId_of_frozen same).trans admitted.config,
    configEq ▸ admitted.isActive, configEq ▸ admitted.noPending, ?_, ?_⟩
  · rw [syncEq, RefreshRun.syncRevisionBefore_of_frozen same]
    exact admitted.revision
  · rcases admitted.accounts with ⟨syncState, previous, sync, last, sameAccounts⟩
    rcases invariant.live.sync syncState sync with ⟨_, committed, committedFound, isCommitted, _⟩
    rw [last, Option.some.injEq] at committedFound
    rcases grows.run last with ⟨previous', found', _, kept⟩
    rw [kept (committedFound ▸ isCommitted)] at found'
    refine ⟨syncState, previous, syncEq.trans sync, found', ?_⟩
    rw [RefreshRun.expectedAccounts_of_frozen same]
    exact sameAccounts

theorem BeginCase.admitted {request : RefreshBeginRequest} {idempotencyKey : Text}
    {maxBatchItems maxRequestBytes : Nat} {committed : Database} {response : RefreshBeginResponse}
    (invariant : SystemInvariant environment database)
    (begun : BeginCase environment clock database request idempotencyKey maxBatchItems
      maxRequestBytes committed response)
    (fresh : Table.get RefreshRun.idempotencyKey database.refresh.refreshRuns idempotencyKey = none)
    (incremental : mode request.mode = .incremental)
    (found : database.config.active = some active) :
    ∃ run, committed.refresh.run response.runId = some run ∧ Admitted committed run active := by
  have after := invariant.begin begun
  cases begun with
  | replay existing config known hash configFound result answer =>
      rw [fresh] at known
      cases known
  | new target missing begun result answer =>
      rcases begun.targetCase with ⟨_, noPending, isActive⟩ | ⟨full, _⟩
      · rw [found, Option.some.injEq] at isActive
        rw [result, ← isActive] at after
        rw [result, answer, ← isActive]
        refine ⟨newRun environment clock database request idempotencyKey active, ?_, incremental,
          rfl, found, noPending, rfl, ?_⟩
        · exact after.refresh.find_run (List.mem_append_right _ (List.mem_singleton_self _))
        · rcases begun.continues incremental with ⟨syncState, sync, accounts⟩
          rcases invariant.live.sync syncState sync with ⟨_, previous, last, _⟩
          refine ⟨syncState, previous, sync, Table.get_append_of_some _ last, ?_⟩
          rw [accounts previous last]
          exact (List.toFinset_eq_of_perm _ _ (perm_sortedOn id _)).symm
      · rw [incremental] at full
        cases full

/-- The gates of a reachable state agree, and a run they let begin passes the gate of its
commit for as long as nothing else is published. -/
theorem gates_agree (environment : Environment) (history : List Event) (clock : Clock)
    (raw request : RefreshBeginRequest) (idempotencyKey : Text)
    (maxBatchItems maxRequestBytes : Nat) (active : ConfigVersion)
    (validated : raw.validate = some request) (incremental : request.mode = .incremental)
    (found : ((service environment).run history).config.active = some active)
    (fresh : Table.get RefreshRun.idempotencyKey
      ((service environment).run history).refresh.refreshRuns idempotencyKey = none)
    (accounts : SameAccounts ((service environment).run history) request) :
    let begin : Event := ⟨.beginRefresh raw idempotencyKey maxBatchItems maxRequestBytes, clock⟩
    let accepted := ∃ committed response,
      begin.outcome environment ((service environment).run history) =
        .ok (committed, .begun response)
    (∀ clock asOf staleAfterHours response,
        getDashboard environment clock ((service environment).run history) asOf staleAfterHours =
            .ok response →
          (accepted ↔ response.fullRebuildRequired = false)) ∧
      (∃ view activeView,
        getConfig environment ((service environment).run history).config
            ((service environment).run history).syncState = .ok view ∧
          view.active = some activeView ∧
          (accepted ↔ view.pending = none ∧ activeView.requiresFullRebuild = false)) ∧
      ∀ committed response, begin.outcome environment ((service environment).run history) =
          .ok (committed, .begun response) →
        ∀ continuation, Undisturbed environment (history ++ [begin]) continuation →
          ∀ clock commitRequest error,
            Event.outcome environment ((service environment).run (history ++ [begin] ++ continuation))
                ⟨.commitRefresh response.runId commitRequest, clock⟩ = .error error →
              ¬error.Gated := by
  intro begin accepted
  have invariant := invariant_run environment history
  have kind : mode request.mode = .incremental := by rw [incremental]; rfl
  have acceptedIff : accepted ↔ Continuable ((service environment).run history) :=
    begin_accepted_iff validated incremental fresh found accounts
  refine ⟨?_, ?_, ?_⟩
  · intro clock asOf staleAfterHours response read
    rw [acceptedIff, invariant.dashboard_gate found read]
  · rcases invariant.view_gate found with ⟨view, activeView, read, isActive, gate⟩
    exact ⟨view, activeView, read, isActive, acceptedIff.trans gate.symm⟩
  · intro committed response begun continuation undisturbed commitClock commitRequest error raised
    have step : (service environment).run (history ++ [begin]) = committed := by
      rw [Machine.run_concat]
      exact Event.next_of_ok begun
    have afterBegin := invariant_run environment (history ++ [begin])
    have afterwards := invariant_run environment (history ++ [begin] ++ continuation)
    have grows := extends_run environment (history ++ [begin]) continuation
    rcases undisturbed_run undisturbed with ⟨configEq, syncEq⟩
    rw [step] at afterBegin grows configEq syncEq
    have succeeded : Succeeds environment ((service environment).run history)
        ⟨.beginRefresh raw idempotencyKey maxBatchItems maxRequestBytes, clock⟩ committed
          (.begun response) := Event.succeeds invariant.config begun
    cases succeeded with
    | beginRefresh validated' result =>
      rw [validated, Option.some.injEq] at validated'
      rw [← validated'] at result
      rcases result.admitted invariant fresh kind found with ⟨run, runFound, admitted⟩
      rcases grows.refresh.run runFound with ⟨run', runFound', same, _⟩
      have stillAdmitted := admitted.mono configEq syncEq same afterBegin grows.refresh
      refine avoids_bind (avoids_orRaise ?_ _) (fun request _ => ?_) error raised
      · rintro ⟨_, _, same⟩
        cases same
      · exact avoids_bind (stillAdmitted.avoids_commit afterwards.config.wellFormed runFound')
          fun _ _ => avoids_pure _

def isBegun : Except ServiceError (Database × Response) → Bool
  | .ok (_, .begun _) => true
  | _ => false

theorem exists_of_isBegun {outcome : Except ServiceError (Database × Response)}
    (begins : isBegun outcome = true) :
    ∃ committed response, outcome = .ok (committed, .begun response) := by
  unfold isBegun at begins
  split at begins
  · exact ⟨_, _, rfl⟩
  · cases begins

/-- The next incremental run after the purchase is live, and its batch. -/
def Sample.next : Event := ⟨.beginRefresh Sample.continued "next".toList 10 1000, Sample.clock⟩

def Sample.nextUpload : Event :=
  ⟨.uploadBatch 2 0 ⟨"batch-00".toList, [Sample.posted]⟩ 10 1000000, Sample.clock⟩

/-- The gates let the run begin, and after its upload a commit with a wrong count is refused for
another reason. -/
theorem gates_agree_synced :
    (∀ asOf staleAfterHours dashboard, getDashboard .transparent Sample.clock
        ((service .transparent).run Sample.synced) asOf staleAfterHours = .ok dashboard →
      dashboard.fullRebuildRequired = false) ∧
    (∃ view activeView,
      getConfig .transparent ((service .transparent).run Sample.synced).config
          ((service .transparent).run Sample.synced).syncState = .ok view ∧
        view.active = some activeView ∧ view.pending = none ∧
          activeView.requiresFullRebuild = false) ∧
    ∃ committed response, Sample.next.outcome .transparent
        ((service .transparent).run Sample.synced) = .ok (committed, .begun response) ∧
      ∀ error, Event.outcome .transparent
          ((service .transparent).run (Sample.synced ++ [Sample.next] ++ [Sample.nextUpload]))
          ⟨.commitRefresh response.runId ⟨5, ["checking".toList]⟩, Sample.clock⟩ =
            .error error → ¬error.Gated := by
  have isActive : ((service .transparent).run Sample.synced).config.active.isSome = true := by
    decide +kernel
  have fresh : Table.get RefreshRun.idempotencyKey
      ((service .transparent).run Sample.synced).refresh.refreshRuns "next".toList = none := by
    decide +kernel
  have accounts : ((service .transparent).run Sample.synced).refresh.refreshRuns.all
      (fun run => run.expectedAccounts = Sample.continued.expectedAccounts) = true := by
    decide +kernel
  have begins : isBegun (Sample.next.outcome .transparent
      ((service .transparent).run Sample.synced)) = true := by
    decide +kernel
  have sameAccounts : SameAccounts ((service .transparent).run Sample.synced)
      Sample.continued := by
    intro syncState previous _ last
    have same := List.all_eq_true.mp accounts previous (Table.mem_of_get last)
    rw [of_decide_eq_true same]
  have undisturbed : Undisturbed .transparent (Sample.synced ++ [Sample.next])
      [Sample.nextUpload] := by
    intro earlier event later split changes
    have member : event ∈ [Sample.nextUpload] := by rw [split]; simp
    rw [List.mem_singleton.mp member] at changes
    cases changes
  rcases Option.isSome_iff_exists.mp isActive with ⟨active, found⟩
  rcases exists_of_isBegun begins with ⟨committed, response, begun⟩
  rcases gates_agree .transparent Sample.synced Sample.clock Sample.continued Sample.continued
      "next".toList 10 1000 active (by decide +kernel) rfl found fresh sameAccounts with
    ⟨dashboards, ⟨view, activeView, read, shown, gate⟩, commits⟩
  refine ⟨?_, ⟨view, activeView, read, shown, gate.mp ⟨committed, response, begun⟩⟩, committed,
    response, begun, ?_⟩
  · intro asOf staleAfterHours dashboard read
    exact (dashboards _ _ _ _ read).mp ⟨committed, response, begun⟩
  · intro error raised
    exact commits committed response begun [Sample.nextUpload] undisturbed _ _ error raised

end RollingBudget
