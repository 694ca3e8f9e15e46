import RollingBudget.Configuration.Publishing
import RollingBudget.Dashboard.Reads
import RollingBudget.System.Configurations
import RollingBudget.System.Revisions

namespace RollingBudget

open Sorting ConfigService RefreshService DashboardService

/-! Only a commit publishes. Other refresh steps change nothing that clients read, edits
with other semantics wait in the pending version, and its activation publishes exactly
what it holds. -/

variable {environment : Environment} {clock : Clock} {database committed : Database}
  {event : Event} {response : Response}

/-! ## What clients read -/

/-- `begin_refresh` and `upload_batch` -/
def Call.isStaging : Call → Bool
  | .beginRefresh .. => true
  | .uploadBatch .. => true
  | _ => false

structure SameReads (environment : Environment) (before after : Database) : Prop where
  config : getConfig environment after.config after.syncState =
    getConfig environment before.config before.syncState
  dashboard : ∀ clock asOf staleAfterHours,
    getDashboard environment clock after asOf staleAfterHours =
      getDashboard environment clock before asOf staleAfterHours

/-- A pending edit shows neither in the active view nor in the dashboard's categories. -/
structure ActiveUntouched (environment : Environment) (before after : Database) : Prop where
  config : ∃ view view', getConfig environment before.config before.syncState = .ok view ∧
    getConfig environment after.config after.syncState = .ok view' ∧ view'.active = view.active
  dashboard : ∀ clock asOf staleAfterHours,
    (getDashboard environment clock after asOf staleAfterHours).map DashboardResponse.categories =
      (getDashboard environment clock before asOf staleAfterHours).map DashboardResponse.categories

/-- An edit of display fields and budgets adds no rows, and shows at once. -/
structure EditsPublished (environment : Environment) (before after : Database)
    (active : ConfigVersion) (request : ConfigPutRequest) : Prop where
  configVersions : after.config.configVersions.map ConfigVersion.id =
    before.config.configVersions.map ConfigVersion.id
  ruleVersions : after.config.ruleVersions = before.config.ruleVersions
  categories : after.config.categories.map Category.id = before.config.categories.map Category.id
  ledger : after.ledger = before.ledger
  syncState : after.syncState = before.syncState
  stillActive : after.config.active = some active
  pending : after.config.pending = none
  snapshot : ∃ snapshot, activeSnapshot after.config active = .ok snapshot ∧
    SameSnapshot snapshot request

/-! ## Refresh steps that publish nothing -/

theorem SameReads.refl (database : Database) : SameReads environment database database :=
  ⟨rfl, fun _ _ _ => rfl⟩

/-- Runs that are not committed are read by nobody. -/
theorem SystemInvariant.sameReads (invariant : SystemInvariant environment database)
    (configEq : committed.config = database.config) (ledgerEq : committed.ledger = database.ledger)
    (syncEq : committed.syncState = database.syncState)
    (grows : database.refresh.Extends committed.refresh) :
    SameReads environment database committed := by
  refine ⟨by rw [configEq, syncEq], getDashboard_congr configEq ledgerEq syncEq ?_⟩
  intro syncState found
  rcases invariant.live.sync syncState found with ⟨_, run, runFound, isCommitted, _⟩
  rcases grows.run runFound with ⟨run', runFound', _, kept⟩
  rw [runFound', runFound, kept isCommitted]

theorem Succeeds.staging_frame (succeeds : Succeeds environment database event committed response)
    (staging : event.call.isStaging = true) :
    committed.config = database.config ∧ committed.ledger = database.ledger ∧
      committed.syncState = database.syncState := by
  cases succeeds with
  | putConfig validated result => cases staging
  | putConfigChecked validated result => cases staging
  | beginRefresh validated result =>
      cases result with
      | replay existing config found hash configFound result answer =>
          rw [result]
          exact ⟨rfl, rfl, rfl⟩
      | new target missing begun result answer =>
          rw [result]
          exact ⟨rfl, rfl, rfl⟩
  | uploadBatch validated limits result =>
      cases result with
      | replay run existing runFound found hash checksum result answer =>
          rw [result]
          exact ⟨rfl, rfl, rfl⟩
      | new run config runId_eq uploaded result answer =>
          rw [result]
          exact ⟨rfl, rfl, rfl⟩
  | commitRefresh validated result => cases staging

theorem SystemInvariant.sameReads_staging (invariant : SystemInvariant environment database)
    (staging : event.call.isStaging = true)
    (succeeds : Succeeds environment database event committed response) :
    SameReads environment database committed := by
  rcases succeeds.staging_frame staging with ⟨configEq, ledgerEq, syncEq⟩
  exact invariant.sameReads configEq ledgerEq syncEq (succeeds.grows invariant).refresh

/-! ## Configuration writes -/

section Put

variable {request : ConfigPutRequest} {ifMatch : Option Text} {checkExpected : Bool}
  {expectedBaseHash : Option Text} {view : ConfigView} {session : ConfigTables}
  {active : ConfigVersion}

theorem PutResult.activeUntouched (invariant : SystemInvariant environment database)
    (result : PutResult environment clock database request ifMatch checkExpected expectedBaseHash
      committed view session) (found : database.config.active = some active)
    (different : active.configHash ≠ configHash environment request) :
    ActiveUntouched environment database committed := by
  have after := (invariant.put result).config
  have found' := result.active_eq invariant.config found
  have rules : rulesForConfig committed.config active.id =
      rulesForConfig database.config active.id := by
    rw [result.committed]
    exact result.written.rules_kept invariant.config result.accepted found different
  have ledgerEq : committed.ledger = database.ledger := by rw [result.committed]
  have syncEq : committed.syncState = database.syncState := by rw [result.committed]
  have notPending : active.status ≠ .pending := by simp [(ConfigTables.active_mem found).2]
  refine ⟨?_, ?_⟩
  · rcases invariant.config.wellFormed.getConfig_active database.syncState found with
      ⟨view, activeView, read, isActive, activeRead⟩
    rcases after.wellFormed.getConfig_active committed.syncState found' with
      ⟨view', activeView', read', isActive', activeRead'⟩
    rw [syncEq, versionView_congr notPending rules, activeRead, Except.ok.injEq] at activeRead'
    exact ⟨view, view', read, read', by rw [isActive', isActive, activeRead']⟩
  · intro clock asOf staleAfterHours
    have enabled : enabledRules committed.config active.id =
        enabledRules database.config active.id := by rw [enabledRules, rules]; rfl
    rw [after.getDashboard_categories found', invariant.config.getDashboard_categories found,
      enabled, ledgerEq]

theorem PutResult.editsPublished (invariant : SystemInvariant environment database)
    (injective : Function.Injective environment.sha256)
    (result : PutResult environment clock database request ifMatch checkExpected expectedBaseHash
      committed view session) (found : database.config.active = some active)
    (hash : active.configHash = configHash environment request) :
    EditsPublished environment database committed active request := by
  have sessionEq := result.written.publish_eq found hash
  have keeps := result.written.keeps invariant.config result.accepted
  have member := (ConfigTables.active_mem found).1
  have foundInSession := result.written.active_eq invariant.config result.accepted found
  have shown : (assembled session active).categories.Perm request.categories := by
    rw [sessionEq]
    exact perm_assembled_presented invariant.config.wellFormed injective member
      result.accepted.valid hash rfl rfl rfl
  rw [result.committed]
  refine ⟨?_, ?_, ?_, rfl, rfl, foundInSession, ?_, ?_⟩
  · simp only [commit, sessionEq, withdrawAll, List.map_map]
    exact List.map_congr_left fun row _ => ConfigVersion.id_of_frozen (frozen_withdraw _ row)
  · simp only [commit, sessionEq, withdrawAll]
  · simp only [commit, sessionEq, List.map_map]
    exact List.map_congr_left fun row _ => id_presentedBy request.categories row
  · have pending : session.pending = none := by
      rw [sessionEq]
      exact withdrawn_pending_eq_none rfl
    exact pending
  · exact exists_activeSnapshot keeps.wellFormed injective
      (ConfigTables.active_mem foundInSession).1 result.accepted.valid hash shown

end Put

/-- Clients read what the last commit published: other refresh steps and calls that raise
change nothing, and a write shows at once exactly when it keeps the active semantics. -/
theorem edits_isolated (environment : Environment)
    (injective : Function.Injective environment.sha256) (history : List Event) :
    (∀ event : Event, (event.call.isStaging = true ∨ ∃ error,
        event.outcome environment ((service environment).run history) = .error error) →
      SameReads environment ((service environment).run history)
        ((service environment).run (history ++ [event]))) ∧
      ∀ clock raw request token call active committed response,
        (call = .putConfig raw token ∨ call = .putConfigChecked raw token) →
        raw.validate = some request →
        ((service environment).run history).config.active = some active →
        Event.outcome environment ((service environment).run history) ⟨call, clock⟩ =
          .ok (committed, response) →
        (semanticHashForConfig environment ((service environment).run history).config active ≠
            configHash environment request →
          ActiveUntouched environment ((service environment).run history) committed) ∧
        (semanticHashForConfig environment ((service environment).run history).config active =
            configHash environment request →
          EditsPublished environment ((service environment).run history) committed active
            request) := by
  have invariant := invariant_run environment history
  refine ⟨fun event quiet => ?_, ?_⟩
  · rw [Machine.run_concat]
    rcases quiet with staging | ⟨error, raised⟩
    · rcases event.next_cases invariant.config with unchanged | ⟨response, succeeds⟩
      · show SameReads environment _ (event.next environment _)
        rw [unchanged]
        exact SameReads.refl _
      · exact invariant.sameReads_staging staging succeeds
    · show SameReads environment _ (event.next environment _)
      rw [Event.next_of_error raised]
      exact SameReads.refl _
  · intro clock raw request token call active committed response isWrite validated found completed
    rcases Event.put_result invariant.config isWrite validated completed with
      ⟨_, _, _, _, session, _, result⟩
    rw [(invariant.config.wellFormed.sound active
      (ConfigTables.active_mem found).1).semanticHashForConfig_eq]
    exact ⟨result.activeUntouched invariant found, result.editsPublished invariant injective found⟩

theorem edits_isolated_budget : ∃ committed active,
    EditsPublished .transparent ((service .transparent).run Sample.configured) committed active
      (Sample.request (Decimal.ofNat 50) 7) := by
  have succeeds : (Event.outcome .transparent ((service .transparent).run Sample.configured)
      (Sample.edit (Decimal.ofNat 50) 7)).isOk = true := by decide +kernel
  have isActive : ((service .transparent).run Sample.configured).config.active.isSome = true := by
    decide +kernel
  have hash : (((service .transparent).run Sample.configured).config.active.map fun active =>
      semanticHashForConfig .transparent ((service .transparent).run Sample.configured).config
        active) = some (configHash .transparent (Sample.request (Decimal.ofNat 50) 7)) := by
    decide +kernel
  rcases Outcome.exists_of_isOk succeeds with ⟨⟨committed, response⟩, completed⟩
  rcases Option.isSome_iff_exists.mp isActive with ⟨active, found⟩
  rw [found, Option.map_some, Option.some.injEq] at hash
  exact ⟨committed, active, ((edits_isolated .transparent Function.injective_id
    Sample.configured).2 _ _ _ _ _ active _ _ (Or.inl rfl) (by decide +kernel) found
      completed).2 hash⟩

/-! ## Activation -/

/-- No run has committed for a version that is still to become active. -/
def Settled (database : Database) : Prop :=
  ∀ run ∈ database.refresh.committedRuns, ∃ target active,
    database.config.configVersion run.configVersionId = some target ∧
      database.config.active = some active ∧ target.version ≤ active.version

theorem Settled.next (settled : Settled database) (invariant : SystemInvariant environment database)
    (event : Event) : Settled (event.next environment database) := by
  have after := invariant.next event
  have old : ∀ run ∈ database.refresh.committedRuns, ∃ target active,
      (event.next environment database).config.configVersion run.configVersionId = some target ∧
        (event.next environment database).config.active = some active ∧
          target.version ≤ active.version := by
    intro run member
    rcases settled run member with ⟨target, active, targetFound, activeFound, atMost⟩
    rcases (invariant.extends_next event).config.configVersion targetFound with
      ⟨target', targetFound', same⟩
    rcases invariant.active_next event activeFound with ⟨active', activeFound', kept | larger⟩
    · exact ⟨target', active', targetFound', activeFound',
        by rw [ConfigVersion.version_of_frozen same, kept.2]; exact atMost⟩
    · exact ⟨target', active', targetFound', activeFound',
        by rw [ConfigVersion.version_of_frozen same]; omega⟩
  intro run member
  rcases invariant.commit_cases event with same | ⟨request, last, config, tables, ledger, published⟩
  · rw [same] at member
    exact old run member
  · rcases List.mem_cons.mp ((published.committedRuns invariant.refresh).mem_iff.mp member) with
      rfl | earlier
    · rcases published.active invariant.config with ⟨active, found, same⟩
      have boundTo : last.configVersionId = active.id :=
        (Table.key_of_get published.committable.configFound).symm.trans
          (ConfigVersion.id_of_frozen same).symm
      refine ⟨active, active, ?_, found, Nat.le_refl _⟩
      show ConfigTables.configVersion _ last.configVersionId = some active
      rw [boundTo]
      exact after.config.wellFormed.find_version (ConfigTables.active_mem found).1
    · exact old run earlier

theorem settled_run (environment : Environment) (history : List Event) :
    Settled ((service environment).run history) := by
  induction history using List.reverseRecOn with
  | nil => intro run member; cases member
  | append_singleton history event induction =>
      rw [Machine.run_concat]
      exact induction.next (invariant_run environment history) event

/-- The pending version is the active one, and what is read back of it is its document. -/
structure PendingPublished (before after : Database) (pending : ConfigVersion) : Prop where
  published : ∃ active snapshot, after.config.active = some active ∧ active.id = pending.id ∧
    activeSnapshot after.config active = .ok snapshot ∧ SameSnapshot snapshot pending.sourceConfig
  superseded : ∃ old old', before.config.active = some old ∧
    after.config.configVersion old.id = some old' ∧ old'.status = .superseded
  pending : after.config.pending = none

/-- The commit of a run for the pending version publishes exactly its document. Only full
runs are begun for pending versions. -/
theorem activation_publishes_pending (environment : Environment)
    (injective : Function.Injective environment.sha256) (history : List Event) (clock : Clock)
    (runId : Nat) (raw : RefreshCommitRequest) (pending : ConfigVersion) (run : RefreshRun)
    (committed : Database) (response : Response)
    (found : ((service environment).run history).config.pending = some pending)
    (runFound : ((service environment).run history).refresh.run runId = some run)
    (target : run.configVersionId = pending.id)
    (completed : Event.outcome environment ((service environment).run history)
      ⟨.commitRefresh runId raw, clock⟩ = .ok (committed, response)) :
    PendingPublished ((service environment).run history) committed pending := by
  have invariant := invariant_run environment history
  have wellFormed := invariant.config.wellFormed
  rcases ConfigTables.pending_mem found with ⟨member, isPending⟩
  have pendingFound : ((service environment).run history).config.configVersion
      run.configVersionId = some pending := by
    rw [target]
    exact wellFormed.find_version member
  cases Event.succeeds invariant.config completed with
  | commitRefresh validated result =>
    cases result with
    | replay other otherFound state count accounts result answer =>
        rw [runFound, Option.some.injEq] at otherFound
        have committedRun : run ∈ ((service environment).run history).refresh.committedRuns :=
          List.mem_filter.mpr ⟨Table.mem_of_get runFound, decide_eq_true (otherFound ▸ state)⟩
        rcases settled_run environment history run committedRun with
          ⟨settled, active, settledFound, activeFound, atMost⟩
        rw [pendingFound, Option.some.injEq] at settledFound
        rcases ConfigTables.active_mem activeFound with ⟨activeMember, isActive⟩
        have later := (invariant.config.shape.pendingLater active activeMember pending member
          isActive isPending).1
        rw [← settledFound] at atMost
        omega
    | new other config tables ledger runId_eq published answer =>
        have sameRun : other = run := by
          have otherFound := published.committable.runFound
          rw [runId_eq, runFound, Option.some.injEq] at otherFound
          exact otherFound.symm
        have sameConfig : config = pending := by
          have configFound := published.committable.configFound
          rw [sameRun, pendingFound, Option.some.injEq] at configFound
          exact configFound.symm
        rw [sameConfig] at published
        rcases activate_cases invariant.config member published.activates with
          ⟨notPending, _⟩ | ⟨_, tablesEq⟩
        · exact absurd isPending notPending
        have configEq : committed.config = commit environment (activated clock.now
            ((service environment).run history).config pending) := by
          rw [published.configEq, tablesEq]
        have shape := (invariant.config.activated member isPending clock.now).shape
        rcases invariant.config.shape.someActive (List.ne_nil_of_mem member) with
          ⟨old, oldMember, isActive⟩
        refine ⟨?_, ⟨old, promote clock.now old, invariant.config.shape.active_eq oldMember isActive,
          ?_, ?_⟩, ?_⟩
        · rcases exists_activeSnapshot_activated invariant.config injective member isPending clock.now with
            ⟨snapshot, read, same⟩
          refine ⟨promote clock.now pending, snapshot, ?_,
            ConfigVersion.id_of_frozen (frozen_promote _ _), ?_, same⟩
          · rw [configEq]
            exact shape.active_eq (List.mem_map_of_mem member) (by simp [promote, isPending])
          · rw [configEq]
            exact read
        · rw [configEq]
          show Table.get ConfigVersion.id (List.map _ _) old.id = _
          rw [Table.get_map fun row => ConfigVersion.id_of_frozen (frozen_promote clock.now row)]
          exact congrArg (Option.map (promote clock.now)) (wellFormed.find_version oldMember)
        · simp [promote, isActive]
        · rw [configEq]
          refine ConfigTables.pending_eq_none_iff.mpr fun row rowMember => ?_
          rcases List.mem_map.mp rowMember with ⟨row', _, rfl⟩
          exact status_promote_ne row'

theorem activation_publishes_pending_month : ∃ pending committed,
    ((service .transparent).run Sample.waiting).config.pending = some pending ∧
      PendingPublished ((service .transparent).run Sample.waiting) committed pending := by
  have succeeds : (Event.outcome .transparent ((service .transparent).run Sample.waiting)
      (Sample.emptyCommit 1)).isOk = true := by decide +kernel
  have isPending : ((service .transparent).run Sample.waiting).config.pending.isSome = true := by
    decide +kernel
  have target : (((service .transparent).run Sample.waiting).refresh.run 1).map
      RefreshRun.configVersionId =
        ((service .transparent).run Sample.waiting).config.pending.map ConfigVersion.id := by
    decide +kernel
  rcases Outcome.exists_of_isOk succeeds with ⟨⟨committed, response⟩, completed⟩
  rcases Option.isSome_iff_exists.mp isPending with ⟨pending, found⟩
  rw [found, Option.map_some, Option.map_eq_some_iff] at target
  rcases target with ⟨run, runFound, boundTo⟩
  exact ⟨pending, committed, found, activation_publishes_pending .transparent
    Function.injective_id Sample.waiting Sample.clock 1 _ pending run committed response found
      runFound boundTo completed⟩

end RollingBudget
