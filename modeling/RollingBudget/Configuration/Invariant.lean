import RollingBudget.Configuration.Writes
import RollingBudget.Services.RefreshService

namespace RollingBudget

open Sorting ConfigService

/-! The invariant of the configuration tables between calls, and that configuration
writes and the activation of a pending version keep it. -/

variable {environment : Environment} {clock : Clock} {tables after : ConfigTables}
  {request : ConfigPutRequest} {config : ConfigVersion}

structure ConfigInvariant (environment : Environment) (tables : ConfigTables) : Prop where
  wellFormed : WellFormed environment tables
  shape : Shape tables.configVersions
  /-- Budgets are as the column returns them. -/
  stored : ∀ category ∈ tables.categories, reloaded environment category = category
  unused : tables.configVersions = [] → tables.categories = []

theorem ConfigInvariant.empty : ConfigInvariant environment ⟨[], [], [], []⟩ where
  wellFormed := by
    constructor <;> simp [ConfigTables.rulesOf]
  shape := Shape.nil
  stored := by simp
  unused := fun _ => rfl

/-! ## Commit -/

theorem WellFormed.commit (wellFormed : WellFormed environment tables) :
    WellFormed environment (commit environment tables) :=
  wellFormed.map (reloaded environment) id (fun _ => rfl) (fun _ => rfl) (fun _ => rfl)
    (fun row member => (wellFormed.published row member).reloaded) rfl rfl
    (List.map_id _).symm rfl

theorem extends_commit (tables : ConfigTables) : tables.Extends (commit environment tables) :=
  ConfigTables.extends_of_map (reloaded environment) id (fun _ => rfl) (fun _ => rfl)
    (fun _ => rfl) rfl rfl (List.map_id _).symm rfl

theorem ConfigInvariant.ofSession (wellFormed : WellFormed environment tables)
    (shape : Shape tables.configVersions)
    (unused : tables.configVersions = [] → tables.categories = []) :
    ConfigInvariant environment (commit environment tables) where
  wellFormed := wellFormed.commit
  shape := shape
  stored := by
    intro category member
    rcases List.mem_map.mp member with ⟨row, rowMember, rfl⟩
    exact reloaded_reloaded (wellFormed.published row rowMember)
  unused := by
    intro empty
    have none := unused empty
    simp [ConfigService.commit, none]

/-- Committing tables that hold stored budgets changes nothing. -/
theorem ConfigInvariant.commit_eq (invariant : ConfigInvariant environment tables) :
    commit environment tables = tables := by
  have same : tables.categories.map (reloaded environment) = tables.categories :=
    (List.map_congr_left (g := id) invariant.stored).trans (List.map_id _)
  show { tables with categories := tables.categories.map (reloaded environment) } = tables
  rw [same]

/-! ## Configuration writes -/

/-- What every kind of write keeps in the writing session. -/
structure WriteKeeps (environment : Environment) (tables after : ConfigTables) : Prop where
  wellFormed : WellFormed environment after
  shape : Shape after.configVersions
  grows : tables.Extends after
  used : after.configVersions ≠ []

private theorem withdrawAll_extends (now : Datetime) (tables : ConfigTables) :
    tables.Extends (withdrawAll now tables) :=
  ConfigTables.extends_of_map id (withdraw now) (fun _ => rfl) (fun _ => rfl)
    (frozen_withdraw now) (List.map_id _).symm rfl rfl rfl

theorem WriteCase.keeps (invariant : ConfigInvariant environment tables)
    (accepted : Accepted environment request)
    (writeCase : WriteCase environment clock tables request after) :
    WriteKeeps environment tables after := by
  have wellFormed := invariant.wellFormed
  have selected := selectRules_spec wellFormed accepted.valid
  have versions := selected.appends.configVersions
  cases writeCase with
  | publish active found hash result =>
      rw [result]
      refine ⟨?_, invariant.shape.withdraw clock.now, ?_, ?_⟩
      · exact wellFormed.map (presentedBy request.categories) (withdraw clock.now)
          (id_presentedBy _) (key_presentedBy _) (frozen_withdraw clock.now)
          (fun row member =>
            (wellFormed.published row member).presentedBy accepted.valid.categories)
          rfl rfl rfl rfl
      · exact ConfigTables.extends_of_map (presentedBy request.categories) (withdraw clock.now)
          (id_presentedBy _) (key_presentedBy _) (frozen_withdraw clock.now) rfl rfl rfl rfl
      · exact List.ne_nil_of_mem (List.mem_map_of_mem (ConfigTables.active_mem found).1)
  | unchanged active pending found hash pendingFound pendingHash result =>
      rw [result]
      exact ⟨wellFormed, invariant.shape, ConfigTables.Extends.refl tables,
        List.ne_nil_of_mem (ConfigTables.active_mem found).1⟩
  | first empty result =>
      rw [result]
      refine ⟨selected.wellFormed.insertVersion accepted selected.choices clock true, ?_, ?_, ?_⟩
      · simp only [ConfigService.insertVersion, versions, empty, List.nil_append]
        exact Shape.first rfl
      · exact selected.appends.extend.trans (ConfigTables.extends_insertVersion _
          fun old member => Table.ne_freshId_map member)
      · simp [ConfigService.insertVersion]
  | pending active found hash result =>
      have withdrawn := selected.wellFormed.withdrawAll clock.now
      rw [result]
      refine ⟨?_, ?_, ?_, ?_⟩
      · exact withdrawn.insertVersion accepted selected.choices clock false
      · have shape := invariant.shape.withdraw clock.now
        rw [← versions] at shape
        refine shape.concat ?_ ?_ rfl ?_
        · rw [versions]
          exact List.ne_nil_of_mem (List.mem_map_of_mem (ConfigTables.active_mem found).1)
        · intro config member
          rcases List.mem_map.mp member with ⟨row, _, rfl⟩
          exact status_withdraw_ne row
        · intro other member isActive
          refine ⟨Table.lt_freshId_map member, ?_⟩
          rcases List.mem_map.mp member with ⟨row, rowMember, rfl⟩
          have unchanged := withdraw_of_active isActive
          rw [unchanged] at isActive ⊢
          rw [versions] at rowMember
          have same := invariant.shape.active_eq rowMember isActive
          rw [found] at same
          cases same
          exact hash
      · exact (selected.appends.extend.trans (withdrawAll_extends clock.now _)).trans
          (ConfigTables.extends_insertVersion _ fun old member => Table.ne_freshId_map member)
      · simp [ConfigService.insertVersion]

/-- A configuration write leaves the active version's row alone. -/
theorem WriteCase.active_eq (invariant : ConfigInvariant environment tables)
    (accepted : Accepted environment request)
    (writeCase : WriteCase environment clock tables request after) {active : ConfigVersion}
    (found : tables.active = some active) : after.active = some active := by
  have shape := (writeCase.keeps invariant accepted).shape
  rcases ConfigTables.active_mem found with ⟨member, isActive⟩
  have notPending : active.status ≠ .pending := by simp [isActive]
  have withdrawn : active ∈ tables.configVersions.map (withdraw clock.now) :=
    List.mem_map.mpr ⟨active, member, withdraw_of_ne notPending⟩
  cases writeCase with
  | publish _ _ _ result =>
      refine shape.active_eq ?_ isActive
      rw [result]
      exact withdrawn
  | unchanged _ _ _ _ _ _ result =>
      rw [result]
      exact found
  | first empty result =>
      rw [empty] at member
      cases member
  | pending _ _ _ result =>
      refine shape.active_eq ?_ isActive
      rw [result]
      have versions :=
        (selectRules_spec invariant.wellFormed accepted.valid).appends.configVersions
      refine List.mem_append_left _ ?_
      rw [withdrawAll, versions]
      exact withdrawn

/-- What a successful `_put_config` went through. -/
structure PutResult (environment : Environment) (clock : Clock) (database : Database)
    (request : ConfigPutRequest) (ifMatch : Option Text) (checkExpected : Bool)
    (expectedBaseHash : Option Text) (committed : Database) (view : ConfigView)
    (session : ConfigTables) : Prop where
  accepted : Accepted environment request
  base : checkBase environment database.config ifMatch checkExpected expectedBaseHash = .ok ()
  written : WriteCase environment clock database.config request session
  view : getConfig environment session database.syncState = .ok view
  committed : committed = { database with config := commit environment session }

theorem zone_of_validateTimezone {name : Text}
    (checked : validateTimezone environment name = .ok ()) :
    environment.zoneInfo name = .found := by
  unfold validateTimezone at checked
  split at checked
  · next found => exact found
  · cases checked
  · cases checked

theorem putConfigLocked_result {database committed : Database} {ifMatch : Option Text}
    {checkExpected : Bool} {expectedBaseHash : Option Text} {view : ConfigView}
    (invariant : ConfigInvariant environment database.config) (valid : request.Valid)
    (completed : putConfigLocked environment clock database request ifMatch checkExpected
      expectedBaseHash = .ok (committed, view)) :
    ∃ session, PutResult environment clock database request ifMatch checkExpected expectedBaseHash
      committed view session := by
  unfold putConfigLocked at completed
  rcases Outcome.bind_eq_ok.mp completed with ⟨_, zoneChecked, afterZone⟩
  rcases Outcome.bind_eq_ok.mp afterZone with ⟨_, currencyChecked, afterCurrency⟩
  rcases Outcome.bind_eq_ok.mp afterCurrency with ⟨_, baseChecked, afterBase⟩
  rcases Outcome.bind_eq_ok.mp afterBase with ⟨session, written, afterWrite⟩
  rcases Outcome.bind_eq_ok.mp afterWrite with ⟨seen, read, finished⟩
  rw [Outcome.pure_eq_ok, Prod.mk.injEq] at finished
  rcases finished with ⟨rfl, rfl⟩
  have accepted : Accepted environment request :=
    ⟨valid, zone_of_validateTimezone zoneChecked, Outcome.require_eq_ok.mp currencyChecked⟩
  exact ⟨session, accepted, baseChecked,
    writeConfig_cases invariant.wellFormed invariant.shape accepted written, read, rfl⟩

theorem ConfigInvariant.put {database committed : Database} {ifMatch : Option Text}
    {checkExpected : Bool} {expectedBaseHash : Option Text} {view : ConfigView}
    {session : ConfigTables} (invariant : ConfigInvariant environment database.config)
    (result : PutResult environment clock database request ifMatch checkExpected expectedBaseHash
      committed view session) :
    ConfigInvariant environment committed.config ∧
      database.config.Extends committed.config := by
  have keeps := result.written.keeps invariant result.accepted
  rw [result.committed]
  exact ⟨ConfigInvariant.ofSession keeps.wellFormed keeps.shape fun empty =>
    absurd empty keeps.used, keeps.grows.trans (extends_commit session)⟩

/-! ## Activation -/

/-- The tables once a pending version is published. -/
def activated (now : Datetime) (tables : ConfigTables) (config : ConfigVersion) : ConfigTables :=
  { tables with
    configVersions := tables.configVersions.map (promote now)
    categories := tables.categories.map (presentedBy config.sourceConfig.categories) }

theorem activate_eq (invariant : ConfigInvariant environment tables)
    (member : config ∈ tables.configVersions) (pending : config.status = .pending)
    {now : Datetime} (completed : RefreshService.activate now tables config = .ok after) :
    after = activated now tables config := by
  have wellFormed := invariant.wellFormed
  have valid := (wellFormed.sound config member).valid
  rcases invariant.shape.someActive (List.ne_nil_of_mem member) with
    ⟨active, activeMember, isActive⟩
  unfold RefreshService.activate at completed
  rw [if_pos pending] at completed
  rcases Outcome.bind_eq_ok.mp completed with ⟨presented, applied, finished⟩
  rcases applyConfigPresentation_eq applied with ⟨snapshot, read, presentedEq⟩
  rw [wellFormed.editableSnapshot_eq member, snapshotOf, if_pos pending] at read
  cases read
  rw [presentAll_eq valid.uniqueKeys] at presentedEq
  have found : presented.active = some active := by
    rw [presentedEq]
    exact invariant.shape.active_eq activeMember isActive
  have different : active.id ≠ config.id := by
    intro same
    have equal := List.inj_on_of_nodup_map wellFormed.versionIds activeMember member same
    rw [equal, pending] at isActive
    cases isActive
  rw [Outcome.pure_eq_ok, found] at finished
  dsimp only at finished
  rw [if_neg different, presentedEq] at finished
  rw [← finished]
  simp only [supersede, activated]
  congr 1
  rw [modify_eq_map_of_unique wellFormed.versionIds activeMember isActive fun other otherMember chosen =>
    invariant.shape.oneActive other otherMember active activeMember chosen isActive]
  -- The pending row is not touched by the first update, so the second one finds it.
  rw [Table.modify_eq_map, List.map_map]
  apply List.map_congr_left
  intro row rowMember
  unfold promote
  cases status : row.status with
  | pending =>
      have same := invariant.shape.onePending row rowMember config member status pending
      simp [same, pending]
  | active =>
      have same := invariant.shape.oneActive row rowMember active activeMember status isActive
      simp [same, different, isActive]
  | superseded =>
      have other : row.id ≠ config.id := by
        intro sameId
        have equal := List.inj_on_of_nodup_map wellFormed.versionIds rowMember member sameId
        rw [equal, pending] at status
        cases status
      simp [status, other]

theorem ConfigInvariant.activated (invariant : ConfigInvariant environment tables)
    (member : config ∈ tables.configVersions) (pending : config.status = .pending)
    (now : Datetime) :
    WriteKeeps environment tables (activated now tables config) where
  wellFormed := invariant.wellFormed.map (presentedBy config.sourceConfig.categories)
    (promote now) (id_presentedBy _) (key_presentedBy _) (frozen_promote now)
    (fun row rowMember => (invariant.wellFormed.published row rowMember).presentedBy
      (invariant.wellFormed.sound config member).valid.categories)
    rfl rfl rfl rfl
  shape := invariant.shape.promote now member pending
  grows := ConfigTables.extends_of_map (presentedBy config.sourceConfig.categories)
    (promote now) (id_presentedBy _) (key_presentedBy _) (frozen_promote now) rfl rfl rfl rfl
  used := List.ne_nil_of_mem (List.mem_map_of_mem member)

/-- What publishing a run does to the configuration tables: nothing, or it activates the
pending version the run was for. -/
theorem activate_cases (invariant : ConfigInvariant environment tables)
    (member : config ∈ tables.configVersions) {now : Datetime}
    (completed : RefreshService.activate now tables config = .ok after) :
    (config.status ≠ .pending ∧ after = tables) ∨
      (config.status = .pending ∧ after = RollingBudget.activated now tables config) := by
  by_cases pending : config.status = .pending
  · exact Or.inr ⟨pending, activate_eq invariant member pending completed⟩
  · unfold RefreshService.activate at completed
    rw [if_neg pending, Outcome.pure_eq_ok] at completed
    exact Or.inl ⟨pending, completed.symm⟩

theorem ConfigInvariant.activate (invariant : ConfigInvariant environment tables)
    (member : config ∈ tables.configVersions) {now : Datetime}
    (completed : RefreshService.activate now tables config = .ok after) :
    ConfigInvariant environment (commit environment after) ∧
      tables.Extends (commit environment after) := by
  rcases activate_cases invariant member completed with ⟨_, rfl⟩ | ⟨pending, rfl⟩
  · rw [invariant.commit_eq]
    exact ⟨invariant, ConfigTables.Extends.refl _⟩
  · have keeps := invariant.activated member pending now
    exact ⟨ConfigInvariant.ofSession keeps.wellFormed keeps.shape fun empty =>
      absurd empty keeps.used, keeps.grows.trans (extends_commit _)⟩

end RollingBudget
