import RollingBudget.Configuration.Shape

namespace RollingBudget

open Sorting ConfigService

/-! What a configuration write can do. It publishes display edits, leaves everything as
it is, or inserts a version, which is active if it is the first and pending otherwise. -/

variable {environment : Environment} {clock : Clock} {tables after : ConfigTables}
  {request : ConfigPutRequest} {config : ConfigVersion}

/-- A request that passed the schema and the first checks of `_put_config`. -/
structure Accepted (environment : Environment) (request : ConfigPutRequest) : Prop where
  valid : request.Valid
  zone : environment.zoneInfo request.timezone = .found
  currency : ∀ item ∈ request.categories, item.budgetCurrency = request.displayCurrency

/-! ## Inserting a version -/

theorem WellFormed.linksOf_eq_nil (wellFormed : WellFormed environment tables)
    (fresh : ∀ old ∈ tables.configVersions, old.id ≠ config.id) :
    tables.linksOf config.id = [] := by
  rw [ConfigTables.linksOf, List.filter_eq_nil_iff]
  intro link member owns
  rcases wellFormed.links link member with ⟨owner, ownerMember, ownerId⟩
  exact fresh owner ownerMember (ownerId.trans (of_decide_eq_true owns))

theorem linksOf_insertVersion (wellFormed : WellFormed environment tables)
    (choices : List (Nat × Nat)) (fresh : ∀ old ∈ tables.configVersions, old.id ≠ config.id) :
    (insertVersion tables config choices).linksOf config.id =
      choices.map fun choice => ⟨config.id, choice.1, choice.2⟩ := by
  have none := wellFormed.linksOf_eq_nil fresh
  simp only [ConfigTables.linksOf, insertVersion, List.filter_append] at none ⊢
  rw [none, List.nil_append, List.filter_eq_self]
  intro link member
  rcases List.mem_map.mp member with ⟨choice, _, rfl⟩
  simp

theorem Chosen.represents {item : CategoryConfigInput} {choice : Nat × Nat}
    (chosen : Chosen environment tables item choice) (choices : List (Nat × Nat)) :
    Represents environment (insertVersion tables config choices) item
      ⟨config.id, choice.1, choice.2⟩ := by
  rcases chosen with ⟨category, rule, categoryFound, ruleFound, key, owner, hash⟩
  exact ⟨⟨⟨config.id, choice.1, choice.2⟩, rule, category⟩,
    linkedRule_eq_some_iff.mpr ⟨ruleFound, categoryFound, rfl⟩, ⟨key, owner, hash⟩⟩

theorem WellFormed.insertVersion (wellFormed : WellFormed environment tables)
    (accepted : Accepted environment request) {choices : List (Nat × Nat)}
    (chosen : List.Forall₂ (Chosen environment tables) request.categories choices)
    (clock : Clock) (first : Bool) :
    WellFormed environment
      (insertVersion tables (newVersion environment clock tables request first) choices) := by
  have freshId : ∀ old ∈ tables.configVersions,
      old.id ≠ (newVersion environment clock tables request first).id :=
    fun old member => Table.ne_freshId_map member
  have grows := ConfigTables.extends_insertVersion choices freshId
  refine {
    categoryIds := wellFormed.categoryIds
    categoryKeys := wellFormed.categoryKeys
    ruleIds := wellFormed.ruleIds
    versionIds := Table.nodup_map_concat wellFormed.versionIds freshId
    versionNumbers := Table.nodup_map_concat wellFormed.versionNumbers
      fun old member => Table.ne_freshId_map member
    published := wellFormed.published
    written := wellFormed.written
    ruleNumbers := wellFormed.ruleNumbers
    ruleHashes := wellFormed.ruleHashes
    sound := ?_
    links := ?_ }
  · intro config member
    rcases List.mem_append.mp member with old | new
    · exact (wellFormed.sound config old).mono grows (wellFormed.find_version old) rfl
    · rw [List.mem_singleton.mp new]
      refine ⟨accepted.valid, rfl, rfl, rfl, accepted.currency, accepted.zone, rfl, ?_⟩
      rw [linksOf_insertVersion wellFormed choices freshId, List.forall₂_map_right_iff]
      exact chosen.imp fun _ _ choice => choice.represents choices
  · intro link member
    rcases List.mem_append.mp member with old | new
    · rcases wellFormed.links link old with ⟨owner, ownerMember, owns⟩
      exact ⟨owner, List.mem_append_left _ ownerMember, owns⟩
    · rcases List.mem_map.mp new with ⟨choice, _, rfl⟩
      exact ⟨_, List.mem_append_right _ (List.mem_singleton.mpr rfl), rfl⟩

/-! ## Publishing what is already shown -/

/-- Presenting the assembled snapshot assigns to each row what it holds. -/
theorem WellFormed.presentAll_assembled (wellFormed : WellFormed environment tables)
    (member : config ∈ tables.configVersions) :
    presentAll tables (assembled tables config).categories = tables := by
  have same : tables.categories.map (presentedBy (assembled tables config).categories) =
      tables.categories := by
    refine (List.map_congr_left (g := id) fun category categoryMember => ?_).trans (List.map_id _)
    unfold presentedBy
    split
    · next item found =>
      rcases List.mem_map.mp (Table.mem_of_get found) with ⟨row, rowMember, rfl⟩
      have sameKey := Table.key_of_get found
      have shared : row.category = category :=
        List.inj_on_of_nodup_map wellFormed.categoryKeys (WellFormed.category_mem rowMember)
          categoryMember sameKey
      rw [← shared]
      rfl
    · rfl
  rw [presentAll_eq (wellFormed.assembled_valid member).uniqueKeys, same]

/-! ## The cases -/

/-- The tables a new version is inserted into, and the rules chosen for it. -/
abbrev selection (environment : Environment) (tables : ConfigTables) (request : ConfigPutRequest) :
    ConfigTables × List (Nat × Nat) :=
  selectRules environment tables request

def withdrawAll (now : Datetime) (tables : ConfigTables) : ConfigTables :=
  { tables with configVersions := tables.configVersions.map (withdraw now) }

/-- The tables of the writing session after each kind of successful write. -/
inductive WriteCase (environment : Environment) (clock : Clock) (tables : ConfigTables)
    (request : ConfigPutRequest) (after : ConfigTables) : Prop where
  | publish (active : ConfigVersion) (found : tables.active = some active)
      (hash : active.configHash = configHash environment request)
      (result : after = { withdrawAll clock.now tables with
        categories := tables.categories.map (presentedBy request.categories) })
  | unchanged (active pending : ConfigVersion) (found : tables.active = some active)
      (hash : active.configHash ≠ configHash environment request)
      (pendingFound : tables.pending = some pending)
      (pendingHash : pending.configHash = configHash environment request)
      (result : after = tables)
  | first (empty : tables.configVersions = [])
      (result : after = insertVersion (selection environment tables request).1
        (newVersion environment clock (selection environment tables request).1 request true)
        (selection environment tables request).2)
  | pending (active : ConfigVersion) (found : tables.active = some active)
      (hash : active.configHash ≠ configHash environment request)
      (result : after = insertVersion (withdrawAll clock.now (selection environment tables request).1)
        (newVersion environment clock
          (withdrawAll clock.now (selection environment tables request).1) request false)
        (selection environment tables request).2)

theorem WellFormed.withdrawAll (wellFormed : WellFormed environment tables) (now : Datetime) :
    WellFormed environment (withdrawAll now tables) :=
  wellFormed.map id (withdraw now) (fun _ => rfl) (fun _ => rfl) (frozen_withdraw now)
    wellFormed.published (List.map_id _).symm rfl rfl rfl

private theorem createVersion_cases (wellFormed : WellFormed environment tables)
    (shape : Shape tables.configVersions) (accepted : Accepted environment request)
    (different : ∀ active, tables.active = some active →
      active.configHash ≠ configHash environment request)
    (created : createVersion environment clock tables request = .ok after) :
    WriteCase environment clock tables request after := by
  have selected := selectRules_spec wellFormed accepted.valid
  have versions := selected.appends.configVersions
  have superseded : supersedePending clock.now (selectRules environment tables request).1 =
      RollingBudget.withdrawAll clock.now (selectRules environment tables request).1 := by
    apply supersedePending_eq
    · rw [versions]
      exact shape
    · exact selected.wellFormed.versionIds
  unfold createVersion at created
  dsimp only at created
  rw [superseded] at created
  cases found : tables.active with
  | none =>
      have empty := shape.eq_nil_of_active_eq_none found
      have unchanged : RollingBudget.withdrawAll clock.now (selectRules environment tables request).1 =
          (selectRules environment tables request).1 := by
        rw [RollingBudget.withdrawAll, versions, empty, List.map_nil, ← empty, ← versions]
      rw [found, unchanged] at created
      simp only [Option.isNone_none, if_true] at created
      rcases applyConfigPresentation_eq created with ⟨snapshot, read, result⟩
      have inserted := selected.wellFormed.insertVersion accepted selected.choices clock true
      have member : newVersion environment clock (selectRules environment tables request).1
          request true ∈ (ConfigService.insertVersion (selectRules environment tables request).1
            (newVersion environment clock (selectRules environment tables request).1 request true)
            (selectRules environment tables request).2).configVersions :=
        List.mem_append_right _ (List.mem_singleton.mpr rfl)
      rw [inserted.editableSnapshot_eq member] at read
      cases read
      refine WriteCase.first empty (result.trans ?_)
      exact inserted.presentAll_assembled member
  | some active =>
      rw [found] at created
      simp only [Option.isNone_some, if_false, Bool.false_eq_true] at created
      rw [Outcome.pure_eq_ok] at created
      exact WriteCase.pending active found (different active found) created.symm

theorem writeConfig_cases (wellFormed : WellFormed environment tables)
    (shape : Shape tables.configVersions) (accepted : Accepted environment request)
    (written : writeConfig environment clock tables request = .ok after) :
    WriteCase environment clock tables request after := by
  have semantic : ∀ config ∈ tables.configVersions,
      semanticHashForConfig environment tables config = config.configHash :=
    fun config member => (wellFormed.sound config member).semanticHashForConfig_eq
  unfold writeConfig at written
  split at written
  · next active same =>
    rcases Option.filter_eq_some_iff.mp same with ⟨found, hash⟩
    rw [decide_eq_true_eq, semantic active (ConfigTables.active_mem found).1] at hash
    refine WriteCase.publish active found hash ?_
    rw [publishEdits_eq written, supersedePending_eq shape wellFormed.versionIds,
      presentAll_eq accepted.valid.uniqueKeys]
    rfl
  · next other =>
    have different : ∀ active, tables.active = some active →
        active.configHash ≠ configHash environment request := by
      intro active found equal
      have kept : tables.active.filter (fun active =>
          semanticHashForConfig environment tables active = configHash environment request) =
            some active :=
        Option.filter_eq_some_iff.mpr ⟨found, by
          rw [decide_eq_true_eq, semantic active (ConfigTables.active_mem found).1, equal]⟩
      rw [other] at kept
      cases kept
    rcases Outcome.bind_eq_ok.mp written with ⟨unchanged, checked, rest⟩
    cases unchanged with
    | false => exact createVersion_cases wellFormed shape accepted different rest
    | true =>
        simp only [if_true] at rest
        rw [Outcome.pure_eq_ok] at rest
        unfold pendingUnchanged at checked
        cases pendingFound : tables.pending with
        | none =>
            rw [pendingFound] at checked
            cases checked
        | some pending =>
            have pendingMember := (ConfigTables.pending_mem pendingFound).1
            rw [pendingFound] at checked
            dsimp only at checked
            split at checked
            · next hash =>
              rw [semantic pending pendingMember] at hash
              rcases shape.someActive (List.ne_nil_of_mem pendingMember) with
                ⟨active, activeMember, isActive⟩
              have found := shape.active_eq activeMember isActive
              exact WriteCase.unchanged active pending found (different active found)
                pendingFound hash rest.symm
            · cases checked

end RollingBudget
