import RollingBudget.Refresh.Invariant
import RollingBudget.Refresh.Growth
import RollingBudget.Refresh.Publication
import RollingBudget.System.Steps

namespace RollingBudget

open Sorting ConfigService RefreshService

/-! The invariant of the whole database, and that every call keeps it. -/

variable {environment : Environment} {clock : Clock} {database committed : Database}

/-- The live tables belong to the active version, and the sync state to a committed run
of it. -/
structure LiveInvariant (database : Database) : Prop where
  transactions : ∀ transaction ∈ database.ledger.transactions,
    database.config.active.map ConfigVersion.id = some transaction.configVersionId
  links : ∀ link ∈ database.ledger.transactionCategories,
    database.config.active.map ConfigVersion.id = some link.configVersionId ∧
      ∃ row ∈ enabledRules database.config link.configVersionId,
        row.category.id = link.categoryId ∧ row.rule.id = link.ruleVersionId
  sync : ∀ syncState, database.syncState = some syncState →
    database.config.active.map ConfigVersion.id = some syncState.configVersionId ∧
      ∃ run, database.refresh.run syncState.lastRefreshRunId = some run ∧
        run.state = .committed ∧ run.configVersionId = syncState.configVersionId

def RefreshTables.committedRuns (tables : RefreshTables) : List RefreshRun :=
  tables.refreshRuns.filter fun run => run.state = .committed

/-- The revision a run sees that begins after `count` commits. -/
def revisionAfter (count : Nat) : Option Nat := if count = 0 then none else some count

structure SystemInvariant (environment : Environment) (database : Database) : Prop where
  config : ConfigInvariant environment database.config
  refresh : RefreshInvariant environment database.config database.refresh
  ledger : LedgerSound database.ledger
  live : LiveInvariant database
  /-- The counter agrees with the committed runs. -/
  revision : database.syncState.map SyncState.revision =
    revisionAfter database.refresh.committedRuns.length

theorem SystemInvariant.empty : SystemInvariant environment Database.empty where
  config := ConfigInvariant.empty
  refresh := RefreshInvariant.empty
  ledger := LedgerSound.empty
  live := by constructor <;> simp [Database.empty]
  revision := rfl

/-! ## Configuration writes -/

section Put

variable {request : ConfigPutRequest} {ifMatch : Option Text} {checkExpected : Bool}
  {expectedBaseHash : Option Text} {view : ConfigView} {session : ConfigTables}

theorem PutResult.active_eq (invariant : ConfigInvariant environment database.config)
    (result : PutResult environment clock database request ifMatch checkExpected expectedBaseHash
      committed view session) {active : ConfigVersion}
    (found : database.config.active = some active) : committed.config.active = some active := by
  rw [result.committed]
  exact result.written.active_eq invariant result.accepted found

theorem SystemInvariant.put (invariant : SystemInvariant environment database)
    (result : PutResult environment clock database request ifMatch checkExpected expectedBaseHash
      committed view session) : SystemInvariant environment committed := by
  rcases invariant.config.put result with ⟨config, grows⟩
  have refreshEq : committed.refresh = database.refresh := by rw [result.committed]
  have ledgerEq : committed.ledger = database.ledger := by rw [result.committed]
  have syncEq : committed.syncState = database.syncState := by rw [result.committed]
  have activeId : ∀ id, database.config.active.map ConfigVersion.id = some id →
      committed.config.active.map ConfigVersion.id = some id := by
    intro id known
    rcases Option.map_eq_some_iff.mp known with ⟨active, found, rfl⟩
    rw [result.active_eq invariant.config found]
    rfl
  refine ⟨config, ?_, ?_, ⟨?_, ?_, ?_⟩, ?_⟩
  · rw [refreshEq]
    exact invariant.refresh.mono invariant.config.wellFormed grows
  · rw [ledgerEq]
    exact invariant.ledger
  · intro transaction member
    rw [ledgerEq] at member
    exact activeId _ (invariant.live.transactions transaction member)
  · intro link member
    rw [ledgerEq] at member
    rcases invariant.live.links link member with ⟨owner, row, rowMember, category, rule⟩
    refine ⟨activeId _ owner, ?_⟩
    rcases Option.map_eq_some_iff.mp owner with ⟨active, found, sameId⟩
    have activeFound := invariant.config.wellFormed.find_version (ConfigTables.active_mem found).1
    rw [← sameId] at rowMember ⊢
    exact grows.exists_enabled activeFound ⟨row, rowMember, category, rule⟩
  · intro syncState found
    rw [syncEq] at found
    rw [refreshEq]
    rcases invariant.live.sync syncState found with ⟨owner, run⟩
    exact ⟨activeId _ owner, run⟩
  · rw [syncEq, refreshEq]
    exact invariant.revision

end Put

/-! ## Begin and upload -/

theorem committedRuns_insertBatch (clock : Clock) {tables : RefreshTables} {run : RefreshRun}
    {batch : RefreshBatch} {allowed : List (Text × Nat × Nat)} {request : RefreshBatchRequest}
    (runIds : (tables.refreshRuns.map RefreshRun.id).Nodup) (member : run ∈ tables.refreshRuns)
    (isOpen : run.state ≠ .committed) :
    (insertBatch environment clock tables run batch allowed request).committedRuns =
      tables.committedRuns := by
  refine Table.filter_modify (fun row rowMember sameId => ?_) fun row _ _ => ?_
  · rw [List.inj_on_of_nodup_map runIds rowMember member sameId]
    exact decide_eq_false isOpen
  · simp [receiveBatch]

theorem SystemInvariant.begin {request : RefreshBeginRequest} {idempotencyKey : Text}
    {maxBatchItems maxRequestBytes : Nat} {response : RefreshBeginResponse}
    (invariant : SystemInvariant environment database)
    (begun : BeginCase environment clock database request idempotencyKey maxBatchItems
      maxRequestBytes committed response) : SystemInvariant environment committed := by
  cases begun with
  | replay existing config found hash configFound result answer =>
      rw [result]
      exact invariant
  | new target missing begun result answer =>
      have refresh := invariant.refresh.insertRun clock invariant.config.wellFormed
        missing begun
      have sameCommitted : (insertRun database
          (newRun environment clock database request idempotencyKey target)).refresh.committedRuns =
            database.refresh.committedRuns := by
        simp [RefreshTables.committedRuns, insertRun, newRun]
      rw [result]
      refine ⟨invariant.config, refresh, invariant.ledger,
        ⟨invariant.live.transactions, invariant.live.links, ?_⟩, ?_⟩
      · intro syncState found
        rcases invariant.live.sync syncState found with ⟨owner, run, runFound, rest⟩
        exact ⟨owner, run, Table.get_append_of_some _ runFound, rest⟩
      · rw [sameCommitted]
        exact invariant.revision

theorem SystemInvariant.upload {runId index : Nat} {request : RefreshBatchRequest}
    {response : RefreshBatchResponse} (invariant : SystemInvariant environment database)
    (valid : request.Valid)
    (uploadCase : UploadCase environment clock database runId index request committed response) :
    SystemInvariant environment committed := by
  cases uploadCase with
  | replay run existing runFound found hash checksum result answer =>
      rw [result]
      exact invariant
  | new run config runId_eq uploaded result answer =>
      have refresh := invariant.refresh.insertBatch clock valid uploaded
      have notCommitted := uploaded.isOpen
      have member := Table.mem_of_get uploaded.runFound
      rw [result]
      refine ⟨invariant.config, refresh, invariant.ledger,
        ⟨invariant.live.transactions, invariant.live.links, ?_⟩, ?_⟩
      · intro syncState found
        rcases invariant.live.sync syncState found with ⟨owner, last, lastFound, lastState, rest⟩
        refine ⟨owner, last, ?_, lastState, rest⟩
        have other : syncState.lastRefreshRunId ≠ run.id := by
          intro same
          rw [same, uploaded.runFound] at lastFound
          cases lastFound
          exact notCommitted lastState
        have keepsId : ∀ row, (receiveBatch clock.now
          (newBatch environment run index request).itemCount row).id = row.id := fun _ => rfl
        exact (Table.get_modify_other keepsId other).trans lastFound
      · rw [committedRuns_insertBatch clock invariant.refresh.runIds member notCommitted]
        exact invariant.revision

/-! ## Commit -/

section Commit

variable {request : RefreshCommitRequest} {run : RefreshRun} {config : ConfigVersion}
  {tables : ConfigTables} {published : LedgerTables}

/-- A run commits to the version it is bound to: the pending one, which only a full run
may publish, or else the active one. -/
theorem Committable.target (invariant : ConfigInvariant environment database.config)
    (committable : Committable database run config request) :
    config ∈ database.config.configVersions ∧
      ((run.mode = .full ∧ config.status = .pending ∧ database.config.pending = some config) ∨
        (config.status = .active ∧ database.config.active = some config)) := by
  have member : config ∈ database.config.configVersions :=
    Table.mem_of_get committable.configFound
  have same : ∀ other ∈ database.config.configVersions, other.id = config.id → other = config :=
    fun other otherMember => List.inj_on_of_nodup_map invariant.wellFormed.versionIds otherMember
      member
  refine ⟨member, ?_⟩
  rcases committable.targetCase with ⟨_, isActive, _, _⟩ | ⟨full, _, current⟩
  · exact Or.inr ⟨isActive, invariant.shape.active_eq member isActive⟩
  · rcases Option.map_eq_some_iff.mp current with ⟨base, found, sameId⟩
    rcases Option.or_eq_some_iff.mp found with pending | ⟨_, active⟩
    · rcases ConfigTables.pending_mem pending with ⟨baseMember, isPending⟩
      rw [same base baseMember sameId] at pending isPending
      exact Or.inl ⟨full, isPending, pending⟩
    · rcases ConfigTables.active_mem active with ⟨baseMember, isActive⟩
      rw [same base baseMember sameId] at active isActive
      exact Or.inr ⟨isActive, active⟩

/-- After a commit the version it published is the active one. -/
theorem Published.active (invariant : ConfigInvariant environment database.config)
    (result : Published environment clock database run config request committed tables published) :
    ∃ active, committed.config.active = some active ∧ active.frozen = config.frozen := by
  rcases result.committable.target invariant with ⟨member, target⟩
  have kept := (invariant.activate member result.activates).1
  rw [result.configEq]
  rcases activate_cases invariant member result.activates with ⟨notPending, rfl⟩ | ⟨pending, rfl⟩
  · rw [invariant.commit_eq]
    rcases target with ⟨_, isPending, _⟩ | ⟨_, active⟩
    · exact absurd isPending notPending
    · exact ⟨config, active, rfl⟩
  · refine ⟨promote clock.now config, kept.shape.active_eq (List.mem_map_of_mem member) ?_,
      frozen_promote clock.now config⟩
    simp [promote, pending]

theorem Published.activeId (invariant : ConfigInvariant environment database.config)
    (result : Published environment clock database run config request committed tables published) :
    committed.config.active.map ConfigVersion.id = some config.id := by
  rcases result.active invariant with ⟨active, found, same⟩
  rw [found, Option.map_some, ConfigVersion.id_of_frozen same]

theorem Published.grows (invariant : ConfigInvariant environment database.config)
    (result : Published environment clock database run config request committed tables published) :
    ConfigInvariant environment committed.config ∧ database.config.Extends committed.config := by
  rw [result.configEq]
  exact invariant.activate (result.committable.target invariant).1 result.activates

/-- The run is found in its final state. -/
theorem Published.runAfter
    (result : Published environment clock database run config request committed tables published) :
    committed.refresh.run run.id = some (finalRun environment clock database run request) := by
  rw [result.refreshEq]
  have keepsId : ∀ row, (completeRun environment clock.now request
    (orderedBatches database.refresh run.id) row).id = row.id := fun _ => rfl
  refine (Table.get_modify keepsId run.id).trans ?_
  have found : Table.get RefreshRun.id database.refresh.refreshRuns run.id = some run :=
    result.committable.runFound
  rw [found]
  simp [finalRun]

/-- The rows of the run as its commit finds them. -/
theorem Published.opened (invariant : RefreshInvariant environment database.config database.refresh)
    (result : Published environment clock database run config request committed tables published) :
    OpenRun database.config run config (database.refresh.rowsOf run.id) := by
  have runMember := Table.mem_of_get result.committable.runFound
  rcases (invariant.runs run runMember).bound with ⟨target, bound, whileOpen⟩
  have same : target = config := by
    have found := bound.found
    rw [result.committable.configFound] at found
    cases found
    rfl
  rw [same] at whileOpen
  exact whileOpen result.committable.isOpen

/-- The live tables of a commit, before and after they are pruned. -/
theorem Published.ledger (invariant : SystemInvariant environment database)
    (result : Published environment clock database run config request committed tables published) :
    PublishedFrom clock.now database.refresh run (publicationBase run database.ledger)
        (storedRows database.refresh run.id) published ∧
      (storedRows database.refresh run.id).filterMap namedTarget =
        (database.refresh.stagedOf run.id).filterMap namedTarget ∧
      Pruned database.config run published committed.ledger := by
  rcases publishedLedger_spec invariant.ledger (result.opened invariant.refresh).identities
    result.publishes with ⟨from_, named⟩
  exact ⟨from_, named, pruneOutsideWindows_spec from_.sound result.prunes⟩

/-- Rows that a run publishes over belong to the version it commits to. -/
theorem Published.base_owner
    (result : Published environment clock database run config request committed tables published)
    {configId : Nat} (incremental : run.mode = .incremental)
    (owner : database.config.active.map ConfigVersion.id = some configId) :
    configId = config.id := by
  rcases result.committable.targetCase with ⟨_, _, _, active⟩ | ⟨full, _⟩
  · rw [active, Option.some.injEq] at owner
    exact owner.symm
  · rw [incremental] at full
    cases full

theorem SystemInvariant.live_commit (invariant : SystemInvariant environment database)
    (result : Published environment clock database run config request committed tables published) :
    LiveInvariant committed := by
  have activeId := result.activeId invariant.config
  have grows := (result.grows invariant.config).2
  have opened := result.opened invariant.refresh
  have boundTo : run.configVersionId = config.id :=
    (Table.key_of_get result.committable.configFound).symm
  have configFound : database.config.configVersion config.id = some config := by
    rw [← boundTo]
    exact result.committable.configFound
  rcases result.ledger invariant with ⟨publishedFrom, _, pruned⟩
  refine ⟨?_, ?_, ?_⟩
  · intro transaction member
    rw [activeId, Option.some.injEq]
    rcases (publishedFrom.transactions transaction).mp
      ((pruned.transactions transaction).mp member).1 with ⟨old, _⟩ | ⟨staged, _, rfl⟩
    · unfold publicationBase at old
      cases kind : run.mode with
      | full => simp [kind] at old
      | incremental =>
          simp only [kind] at old
          exact (result.base_owner kind (invariant.live.transactions transaction old)).symm
    · exact boundTo.symm
  · intro link member
    rw [activeId, Option.some.injEq]
    rcases (publishedFrom.links link).mp ((pruned.links link).mp member).1 with
      ⟨old, _⟩ | ⟨staged, _, source, sourceMember, rfl⟩
    · unfold publicationBase at old
      cases kind : run.mode with
      | full => simp [kind] at old
      | incremental =>
          simp only [kind] at old
          rcases invariant.live.links link old with ⟨owner, linked⟩
          have sameOwner := result.base_owner kind owner
          rw [sameOwner] at linked ⊢
          exact ⟨rfl, grows.exists_enabled configFound linked⟩
    · have inRun : source ∈ (database.refresh.rowsOf run.id).links := by
        rcases List.mem_filter.mp sourceMember with ⟨sourceRow, owns⟩
        rw [decide_eq_true_eq] at owns
        exact List.mem_filter.mpr ⟨sourceRow, decide_eq_true owns.1⟩
      have linked := grows.exists_enabled configFound (opened.links source inRun)
      refine ⟨boundTo.symm, ?_⟩
      rw [show (liveCategory run source).configVersionId = config.id from boundTo]
      exact linked
  · intro syncState found
    rw [result.syncStateEq, Option.some.injEq] at found
    have owner : syncState.configVersionId = config.id := by
      rw [← found]
      unfold nextSyncState
      split <;> rfl
    have last : syncState.lastRefreshRunId = run.id := by
      rw [← found]
      unfold nextSyncState
      split <;> rfl
    rw [activeId, owner, last]
    exact ⟨rfl, _, result.runAfter, rfl, boundTo⟩

theorem Published.committedRuns (invariant : RefreshInvariant environment database.config
      database.refresh)
    (result : Published environment clock database run config request committed tables published) :
    committed.refresh.committedRuns.Perm
      (finalRun environment clock database run request :: database.refresh.committedRuns) := by
  have member := Table.mem_of_get result.committable.runFound
  rw [result.refreshEq]
  exact Table.perm_filter_modify invariant.runIds member
    (decide_eq_false result.committable.isOpen) (decide_eq_true rfl)

theorem SystemInvariant.revision_commit (invariant : SystemInvariant environment database)
    (result : Published environment clock database run config request committed tables published) :
    committed.syncState.map SyncState.revision =
      revisionAfter committed.refresh.committedRuns.length := by
  have count := (result.committedRuns invariant.refresh).length_eq
  rw [List.length_cons] at count
  have revision := invariant.revision
  rw [result.syncStateEq, count]
  unfold revisionAfter at revision ⊢
  cases found : database.syncState with
  | none =>
      rw [found] at revision
      split at revision
      · next none => simp [nextSyncState, none]
      · cases revision
  | some syncState =>
      rw [found] at revision
      split at revision
      · cases revision
      · rw [Option.map_some, Option.some.injEq] at revision
        simp [nextSyncState, revision]

theorem SystemInvariant.commit (invariant : SystemInvariant environment database)
    (result : Published environment clock database run config request committed tables published) :
    SystemInvariant environment committed := by
  rcases result.grows invariant.config with ⟨configInvariant, grows⟩
  refine ⟨configInvariant, ?_, (result.ledger invariant).2.2.sound, invariant.live_commit result,
    invariant.revision_commit result⟩
  rw [result.refreshEq]
  exact (invariant.refresh.finalRefresh clock result.committable).mono invariant.config.wellFormed
    grows

end Commit

/-! ## Runs -/

theorem Succeeds.invariant {event : Event} {response : Response}
    (succeeds : Succeeds environment database event committed response)
    (invariant : SystemInvariant environment database) : SystemInvariant environment committed := by
  cases succeeds with
  | putConfig validated result => exact invariant.put result
  | putConfigChecked validated result => exact invariant.put result
  | beginRefresh validated result => exact invariant.begin result
  | uploadBatch validated limits result =>
      exact invariant.upload (RefreshBatchRequest.valid_of_validate validated) result
  | commitRefresh validated result =>
      cases result with
      | replay run found state count accounts result answer =>
          rw [result]
          exact invariant
      | new run config tables ledger runId_eq published answer =>
          exact invariant.commit published

theorem SystemInvariant.next (invariant : SystemInvariant environment database) (event : Event) :
    SystemInvariant environment (event.next environment database) := by
  rcases event.next_cases invariant.config with unchanged | ⟨response, succeeds⟩
  · rw [unchanged]
    exact invariant
  · exact succeeds.invariant invariant

theorem invariant_run (environment : Environment) (history : List Event) :
    SystemInvariant environment ((service environment).run history) :=
  (service environment).run_invariant SystemInvariant.empty
    (fun _ event invariant => invariant.next event) history

/-- Nothing a later call reads of an earlier one is lost. -/
structure Database.Extends (before after : Database) : Prop where
  config : before.config.Extends after.config
  refresh : before.refresh.Extends after.refresh

namespace Database.Extends

variable {first second third : Database}

theorem refl (database : Database) : database.Extends database :=
  ⟨ConfigTables.Extends.refl _, RefreshTables.Extends.refl _⟩

theorem trans (earlier : first.Extends second) (later : second.Extends third) :
    first.Extends third :=
  ⟨earlier.config.trans later.config, earlier.refresh.trans later.refresh⟩

end Database.Extends

theorem PutResult.grows {request : ConfigPutRequest} {ifMatch : Option Text}
    {checkExpected : Bool} {expectedBaseHash : Option Text} {view : ConfigView}
    {session : ConfigTables} (invariant : ConfigInvariant environment database.config)
    (result : PutResult environment clock database request ifMatch checkExpected expectedBaseHash
      committed view session) : database.Extends committed := by
  refine ⟨(invariant.put result).2, ?_⟩
  rw [result.committed]
  exact RefreshTables.Extends.refl _

theorem Succeeds.grows {event : Event} {response : Response}
    (succeeds : Succeeds environment database event committed response)
    (invariant : SystemInvariant environment database) : database.Extends committed := by
  have refl := Database.Extends.refl database
  cases succeeds with
  | putConfig validated result => exact result.grows invariant.config
  | putConfigChecked validated result => exact result.grows invariant.config
  | beginRefresh validated result =>
      refine ⟨?_, result.grows⟩
      cases result with
      | replay existing config found hash configFound result answer => exact result ▸ refl.config
      | new target missing begun result answer => exact result ▸ refl.config
  | uploadBatch validated limits result =>
      refine ⟨?_, result.grows⟩
      cases result with
      | replay run existing runFound found hash checksum result answer => exact result ▸ refl.config
      | new run config runId_eq uploaded result answer => exact result ▸ refl.config
  | commitRefresh validated result =>
      cases result with
      | replay run found state count accounts result answer => exact result ▸ refl
      | new run config tables ledger runId_eq published answer =>
          exact ⟨(published.grows invariant.config).2, published.refreshGrows⟩

theorem SystemInvariant.extends_next (invariant : SystemInvariant environment database)
    (event : Event) : database.Extends (event.next environment database) := by
  rcases event.next_cases invariant.config with unchanged | ⟨response, succeeds⟩
  · rw [unchanged]
    exact Database.Extends.refl _
  · exact succeeds.grows invariant

theorem extends_run (environment : Environment) (history continuation : List Event) :
    ((service environment).run history).Extends
      ((service environment).run (history ++ continuation)) :=
  (service environment).run_relation Database.Extends.refl
    (fun _ _ _ => Database.Extends.trans)
    (fun history event => (invariant_run environment history).extends_next event)
    history continuation

/-! ## What a step does to the live data -/

/-- A configuration write, the publication of a run, or a step after which everything the
live data depend on is as before. -/
inductive LiveStep (environment : Environment) (clock : Clock) (database committed : Database) :
    Prop where
  | put {request : ConfigPutRequest} {ifMatch : Option Text} {checkExpected : Bool}
      {expectedBaseHash : Option Text} {view : ConfigView} {session : ConfigTables}
      (result : PutResult environment clock database request ifMatch checkExpected
        expectedBaseHash committed view session)
  | staging (config : committed.config = database.config)
      (ledger : committed.ledger = database.ledger)
      (syncState : committed.syncState = database.syncState)
      (committedRuns : committed.refresh.committedRuns = database.refresh.committedRuns)
      (grows : database.refresh.Extends committed.refresh)
  | commit {request : RefreshCommitRequest} {run : RefreshRun} {config : ConfigVersion}
      {tables : ConfigTables} {ledger : LedgerTables}
      (published : Published environment clock database run config request committed tables ledger)

theorem LiveStep.refl (clock : Clock) (database : Database) :
    LiveStep environment clock database database :=
  LiveStep.staging rfl rfl rfl rfl (RefreshTables.Extends.refl _)

theorem Succeeds.liveStep {event : Event} {response : Response}
    (succeeds : Succeeds environment database event committed response)
    (invariant : SystemInvariant environment database) :
    LiveStep environment event.clock database committed := by
  cases succeeds with
  | putConfig validated result => exact LiveStep.put result
  | putConfigChecked validated result => exact LiveStep.put result
  | beginRefresh validated result =>
      have grows := result.grows
      cases result with
      | replay existing config found hash configFound result answer =>
          rw [result]
          exact LiveStep.refl _ _
      | new target missing begun result answer =>
          refine LiveStep.staging ?_ ?_ ?_ ?_ grows
          · rw [result]; rfl
          · rw [result]; rfl
          · rw [result]; rfl
          · rw [result]
            simp [RefreshTables.committedRuns, insertRun, newRun]
  | uploadBatch validated limits result =>
      have grows := result.grows
      cases result with
      | replay run existing runFound found hash checksum result answer =>
          rw [result]
          exact LiveStep.refl _ _
      | new run config runId_eq uploaded result answer =>
          refine LiveStep.staging ?_ ?_ ?_ ?_ grows
          · rw [result]
          · rw [result]
          · rw [result]
          · rw [result]
            exact committedRuns_insertBatch _ invariant.refresh.runIds
              (Table.mem_of_get uploaded.runFound) uploaded.isOpen
  | commitRefresh validated result =>
      cases result with
      | replay run found state count accounts result answer =>
          rw [result]
          exact LiveStep.refl _ _
      | new run config tables ledger runId_eq published answer => exact LiveStep.commit published

theorem SystemInvariant.liveStep (invariant : SystemInvariant environment database)
    (event : Event) :
    LiveStep environment event.clock database (event.next environment database) := by
  rcases event.next_cases invariant.config with unchanged | ⟨response, succeeds⟩
  · rw [unchanged]
    exact LiveStep.refl _ _
  · exact succeeds.liveStep invariant

end RollingBudget
