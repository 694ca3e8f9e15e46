import RollingBudget.Configuration.Hashes
import RollingBudget.Configuration.Invariant

namespace RollingBudget

open Sorting ConfigService

/-! What the active snapshot is once display fields are published and the session
commits: the published items, with their budgets as the column returns them. -/

variable {environment : Environment} {tables after : ConfigTables} {config : ConfigVersion}

/-! ## Lists of categories -/

/-- Categories that all occur among others with the same keys are those others. -/
theorem perm_of_keys {left right : List CategoryConfigInput}
    (nodup : (right.map CategoryConfigInput.key).Nodup)
    (keys : (left.map CategoryConfigInput.key).Perm (right.map CategoryConfigInput.key))
    (subset : ∀ item ∈ left, item ∈ right) : left.Perm right := by
  have distinct : left.Nodup := List.Nodup.of_map _ (keys.nodup_iff.mpr nodup)
  have lengths := keys.length_eq
  rw [List.length_map, List.length_map] at lengths
  exact (List.subperm_of_subset distinct subset).perm_of_length_le (by omega)

/-! ## Rows whose categories change -/

/-- A join row with another category row. -/
def mapCategory (change : Category → Category) (row : LinkedRule) : LinkedRule :=
  { row with category := change row.category }

theorem linkedRule_map (change : Category → Category)
    (keepsId : ∀ category, (change category).id = category.id)
    (categories : after.categories = tables.categories.map change)
    (ruleVersions : after.ruleVersions = tables.ruleVersions) (link : ConfigVersionRule) :
    linkedRule after link = (linkedRule tables link).map (mapCategory change) := by
  unfold linkedRule ConfigTables.ruleVersion ConfigTables.category
  rw [categories, ruleVersions, Table.get_map keepsId]
  cases Table.get RuleVersion.id tables.ruleVersions link.ruleVersionId with
  | none => rfl
  | some rule => cases Table.get Category.id tables.categories link.categoryId <;> rfl

theorem perm_rulesForConfig_map (change : Category → Category)
    (keepsId : ∀ category, (change category).id = category.id)
    (categories : after.categories = tables.categories.map change)
    (ruleVersions : after.ruleVersions = tables.ruleVersions)
    (configVersionRules : after.configVersionRules = tables.configVersionRules) (configId : Nat) :
    (rulesForConfig after configId).Perm
      ((rulesForConfig tables configId).map (mapCategory change)) := by
  have rows : linkedRows after configId =
      (linkedRows tables configId).map (mapCategory change) := by
    unfold linkedRows ConfigTables.linksOf
    rw [configVersionRules, List.map_filterMap]
    exact congrArg (fun transform => List.filterMap transform _)
      (funext (linkedRule_map change keepsId categories ruleVersions))
  refine (perm_rulesForConfig after configId).trans ?_
  rw [rows]
  exact ((perm_rulesForConfig tables configId).map _).symm

/-- A version whose links and join rows stay reads as before. -/
theorem rulesForConfig_congr {configId : Nat}
    (links : after.linksOf configId = tables.linksOf configId)
    (joined : ∀ link ∈ tables.linksOf configId, linkedRule after link = linkedRule tables link) :
    rulesForConfig after configId = rulesForConfig tables configId := by
  have rows : (after.linksOf configId).filterMap (linkedRule after) =
      (tables.linksOf configId).filterMap (linkedRule tables) := by
    rw [links]
    exact List.filterMap_congr joined
  exact congrArg (sortedOn fun row => toLex (row.category.sortOrder, row.category.key)) rows

/-! ## Published items -/

/-- A row whose category shows an item and whose rule has its semantics is that item. -/
theorem toInput_eq_of_present {row : LinkedRule} {item : CategoryConfigInput}
    (shown : present item row.category = row.category) (same : SameSemantics row.toInput item) :
    row.toInput = item := by
  have name : item.name = row.category.name := congrArg Category.name shown
  have icon : item.icon = row.category.icon := congrArg Category.icon shown
  have sortOrder : item.sortOrder = row.category.sortOrder := congrArg Category.sortOrder shown
  have budget : item.budgetLimit = row.category.budgetLimit := congrArg Category.budgetLimit shown
  have currency : item.budgetCurrency = row.category.budgetCurrency :=
    congrArg Category.budgetCurrency shown
  cases item
  exact (CategoryConfigInput.mk.injEq ..).mpr ⟨same.key, name.symm, icon.symm, sortOrder.symm,
    budget.symm, currency.symm, same.lookbackDays, same.classificationInstruction, same.enabled⟩

/-- The rules of a version match every request with its semantic hash. -/
theorem Sound.matching (sound : Sound environment tables config)
    (injective : Function.Injective environment.sha256) {request : ConfigPutRequest}
    (hash : config.configHash = configHash environment request) {row : LinkedRule}
    (rowMember : row ∈ rulesForConfig tables config.id) {item : CategoryConfigInput}
    (itemMember : item ∈ request.categories) (key : row.category.key = item.key) :
    Matches environment item row := by
  rcases sound.exists_item rowMember with ⟨source, sourceMember, matched⟩
  have perm := (perm_ruleHashes_of_configHash_eq injective (sound.hash.symm.trans hash)).2.2.2
  have listed : (item.key, ruleHash environment item) ∈
      ruleHashes environment config.sourceConfig :=
    perm.mem_iff.mpr (List.mem_map_of_mem itemMember)
  rcases List.mem_map.mp listed with ⟨other, otherMember, equal⟩
  rcases (Prod.mk.injEq ..).mp equal with ⟨otherKey, otherHash⟩
  have same : other = source :=
    List.inj_on_of_nodup_map sound.valid.uniqueKeys otherMember sourceMember
      (otherKey.trans (key.symm.trans matched.key))
  refine ⟨key, matched.owner, ?_⟩
  rw [matched.hash, ← same, otherHash]

/-- Once a request with the semantics of a version is published, the snapshot of that
version holds the categories of the request. -/
theorem perm_assembled_presented (wellFormed : WellFormed environment tables)
    (injective : Function.Injective environment.sha256)
    (member : config ∈ tables.configVersions) {request : ConfigPutRequest} (valid : request.Valid)
    (hash : config.configHash = configHash environment request)
    (categories : after.categories = tables.categories.map (presentedBy request.categories))
    (ruleVersions : after.ruleVersions = tables.ruleVersions)
    (configVersionRules : after.configVersionRules = tables.configVersionRules) :
    ((rulesForConfig after config.id).map LinkedRule.toInput).Perm request.categories := by
  have sound := wellFormed.sound config member
  have keys := sound.perm_keys.trans
    (perm_keys_of_configHash_eq injective (sound.hash.symm.trans hash))
  have rows := perm_rulesForConfig_map _ (id_presentedBy request.categories) categories ruleVersions
    configVersionRules config.id
  refine (rows.map _).trans (perm_of_keys valid.uniqueKeys ?_ ?_)
  · rw [List.map_map, List.map_map]
    refine List.Perm.trans (List.Perm.of_eq ?_) keys
    exact List.map_congr_left fun row _ => key_presentedBy request.categories row.category
  · intro input inputMember
    rw [List.map_map] at inputMember
    rcases List.mem_map.mp inputMember with ⟨row, rowMember, rfl⟩
    rcases List.mem_map.mp (keys.mem_iff.mp (List.mem_map_of_mem rowMember)) with
      ⟨item, itemMember, itemKey⟩
    have matched := sound.matching injective hash rowMember itemMember itemKey.symm
    have same := matched.semantics wellFormed injective (mem_rulesForConfig.mp rowMember).2
    have shown := presentedBy_of_mem valid.uniqueKeys itemMember itemKey.symm
    have equal : (mapCategory (presentedBy request.categories) row).toInput = item := by
      refine toInput_eq_of_present ?_ ⟨?_, same.lookbackDays, same.classificationInstruction,
        same.enabled⟩
      · show present item (presentedBy request.categories row.category) =
          presentedBy request.categories row.category
        rw [shown]
        rfl
      · exact (key_presentedBy request.categories row.category).trans itemKey.symm
    rw [Function.comp_apply, equal]
    exact itemMember

/-! ## Reading in a fresh session -/

def reloadedItem (environment : Environment) (item : CategoryConfigInput) : CategoryConfigInput :=
  { item with budgetLimit := Money.reload environment.dialect item.budgetLimit }

/-- Committing reloads the budgets of the active snapshot and changes nothing else. -/
theorem perm_assembled_commit (tables : ConfigTables) (config : ConfigVersion) :
    (assembled (commit environment tables) config).categories.Perm
      ((assembled tables config).categories.map (reloadedItem environment)) := by
  have rows : (rulesForConfig (commit environment tables) config.id).Perm
      ((rulesForConfig tables config.id).map (mapCategory (reloaded environment))) := by
    refine perm_rulesForConfig_map (reloaded environment) (fun _ => rfl) ?_ ?_ ?_ config.id <;> rfl
  refine (rows.map _).trans (List.Perm.of_eq ?_)
  show _ = ((rulesForConfig tables config.id).map LinkedRule.toInput).map _
  rw [List.map_map, List.map_map]
  rfl

/-- Reloaded items agree with the items in every field. -/
theorem sameSnapshot_of_perm_reloaded {left right : ConfigPutRequest} (valid : right.Valid)
    (timezone : left.timezone = right.timezone)
    (displayCurrency : left.displayCurrency = right.displayCurrency)
    (aggregationVersion : left.aggregationVersion = right.aggregationVersion)
    (perm : left.categories.Perm (right.categories.map (reloadedItem environment))) :
    SameSnapshot left right := by
  have keys : left.keys.Perm right.keys := by
    refine (perm.map CategoryConfigInput.key).trans (List.Perm.of_eq ?_)
    rw [List.map_map]
    rfl
  refine ⟨timezone, displayCurrency, aggregationVersion,
    forall₂_of_keys (keys.nodup_iff.mpr valid.uniqueKeys) keys ?_⟩
  intro first firstMember second secondMember sameKey
  rcases List.mem_map.mp (perm.mem_iff.mp firstMember) with ⟨item, itemMember, rfl⟩
  have same : item = second :=
    List.inj_on_of_nodup_map valid.uniqueKeys itemMember secondMember sameKey
  rw [← same]
  exact ⟨⟨rfl, rfl, rfl, rfl⟩, rfl, rfl, rfl,
    Money.value_reload environment.dialect (valid.categories item itemMember).budgetLimit, rfl⟩

/-- The hash of a snapshot survives storage exactly when each budget text does. -/
theorem editHash_reloaded_iff (injective : Function.Injective environment.sha256)
    {left right : ConfigPutRequest} (nodup : right.keys.Nodup)
    (timezone : left.timezone = right.timezone)
    (displayCurrency : left.displayCurrency = right.displayCurrency)
    (aggregationVersion : left.aggregationVersion = right.aggregationVersion)
    (perm : left.categories.Perm (right.categories.map (reloadedItem environment))) :
    editHashForRequest environment left = editHashForRequest environment right ↔
      ∀ item ∈ right.categories, SameQuantized (reloadedItem environment item).budgetLimit
        item.budgetLimit := by
  have keys : left.keys.Nodup := by
    refine ((perm.map CategoryConfigInput.key).nodup_iff).mpr ?_
    rw [List.map_map]
    exact nodup
  have sorted : sortedOn CategoryConfigInput.key left.categories =
      (sortedOn CategoryConfigInput.key right.categories).map (reloadedItem environment) := by
    rw [sortedOn_eq_of_perm CategoryConfigInput.key perm keys]
    exact (map_sortedOn _ _ _ (fun _ => rfl) _).symm
  constructor
  · intro equal item member
    have pairs := (forall₂_of_editHash_eq injective equal).2.2.2
    rw [sorted, List.forall₂_map_left_iff, List.forall₂_same] at pairs
    exact (pairs item (mem_sortedOn.mpr member)).budgetLimit
  · intro same
    have payloads : (sortedOn CategoryConfigInput.key left.categories).map editPayload =
        (sortedOn CategoryConfigInput.key right.categories).map editPayload := by
      rw [sorted, List.map_map]
      refine List.map_congr_left fun item member => ?_
      exact editPayload_eq ⟨⟨rfl, rfl, rfl, rfl⟩, rfl, rfl, rfl,
        same item (mem_sortedOn.mp member), rfl⟩
    unfold editHashForRequest normalizedEditPayload
    rw [timezone, displayCurrency, aggregationVersion, payloads]

/-- A version that shows the categories of a request is read back as that request. -/
theorem exists_activeSnapshot (wellFormed : WellFormed environment tables)
    (injective : Function.Injective environment.sha256) (member : config ∈ tables.configVersions)
    {request : ConfigPutRequest} (valid : request.Valid)
    (hash : config.configHash = configHash environment request)
    (shown : (assembled tables config).categories.Perm request.categories) :
    ∃ snapshot, activeSnapshot (commit environment tables) config = .ok snapshot ∧
      SameSnapshot snapshot request := by
  have sound := wellFormed.sound config member
  rcases perm_ruleHashes_of_configHash_eq injective (sound.hash.symm.trans hash) with
    ⟨timezone, displayCurrency, aggregationVersion, _⟩
  refine ⟨assembled (commit environment tables) config, ?_, ?_⟩
  · have assembledValid := wellFormed.commit.assembled_valid member
    rw [activeSnapshot, assembledValid.validate_eq]
    rfl
  · exact sameSnapshot_of_perm_reloaded valid (sound.timezone.trans timezone)
      (sound.displayCurrency.trans displayCurrency)
      (sound.aggregationVersion.trans aggregationVersion)
      ((perm_assembled_commit tables config).trans (shown.map _))

/-! ## Writes -/

/-- The version a write published at once: its request has that version's semantics, and
nothing is pending. -/
structure PublishedAtOnce (environment : Environment) (tables session : ConfigTables)
    (request : ConfigPutRequest) (config : ConfigVersion) : Prop where
  same : ∀ active, tables.active = some active → active.configHash = configHash environment request
  active : session.active = some config
  pending : session.pending = none
  hash : config.configHash = configHash environment request
  snapshot : (assembled session config).categories.Perm request.categories

/-- A write whose semantics are not the active ones: it leaves the active version and its
categories, and a pending version is what clients edit. -/
structure LeftPending (environment : Environment) (tables session : ConfigTables)
    (request : ConfigPutRequest) : Prop where
  active : ∃ active, tables.active = some active ∧ session.active = some active ∧
    active.configHash ≠ configHash environment request
  pending : ∃ pending, session.pending = some pending

variable {clock : Clock} {request : ConfigPutRequest}

theorem withdrawn_pending_eq_none {versions : List ConfigVersion} {now : Datetime}
    (versionsEq : tables.configVersions = versions.map (withdraw now)) : tables.pending = none := by
  refine ConfigTables.pending_eq_none_iff.mpr fun config member => ?_
  rw [versionsEq] at member
  rcases List.mem_map.mp member with ⟨row, _, rfl⟩
  exact status_withdraw_ne row

theorem WriteCase.published_or_pending (invariant : ConfigInvariant environment tables)
    (injective : Function.Injective environment.sha256) (accepted : Accepted environment request)
    (writeCase : WriteCase environment clock tables request after) :
    (∃ config, PublishedAtOnce environment tables after request config) ∨
      LeftPending environment tables after request := by
  have keeps := writeCase.keeps invariant accepted
  cases writeCase with
  | publish active found hash result =>
      rcases ConfigTables.active_mem found with ⟨member, isActive⟩
      have kept : withdraw clock.now active = active := withdraw_of_ne (by simp [isActive])
      refine Or.inl ⟨active, ?_, ?_, ?_, hash, ?_⟩
      · intro other otherFound
        rw [found] at otherFound
        cases otherFound
        exact hash
      · refine keeps.shape.active_eq ?_ isActive
        rw [result]
        exact List.mem_map.mpr ⟨active, member, kept⟩
      · rw [result]
        exact withdrawn_pending_eq_none rfl
      · rw [result]
        exact perm_assembled_presented invariant.wellFormed injective member accepted.valid hash
          rfl rfl rfl
  | unchanged active pending found hash pendingFound pendingHash result =>
      rw [result]
      exact Or.inr ⟨⟨active, found, found, hash⟩, pending, pendingFound⟩
  | first empty result =>
      have selected := selectRules_spec invariant.wellFormed accepted.valid
      have versions : after.configVersions =
          [newVersion environment clock (selection environment tables request).1 request true] := by
        rw [result]
        simp only [ConfigService.insertVersion, selected.appends.configVersions, empty,
          List.nil_append]
      have member := List.mem_singleton.mpr
        (rfl : newVersion environment clock (selection environment tables request).1 request true = _)
      rw [← versions] at member
      refine Or.inl ⟨newVersion environment clock (selection environment tables request).1 request
        true, ?_, keeps.shape.active_eq member rfl, ?_, rfl, ?_⟩
      · intro active found
        have none := (ConfigTables.active_mem found).1
        rw [empty] at none
        cases none
      · refine ConfigTables.pending_eq_none_iff.mpr fun config configMember => ?_
        rw [versions] at configMember
        rw [List.mem_singleton.mp configMember]
        simp [newVersion]
      · refine perm_assembled_presented keeps.wellFormed injective member accepted.valid rfl ?_ rfl
          rfl
        -- Every category was inserted for an item of the request, so it shows that item.
        refine ((List.map_congr_left (g := id) fun category categoryMember => ?_).trans
          (List.map_id _)).symm
        rw [result] at categoryMember
        rcases selected.created category categoryMember with old | ⟨item, itemMember, key, shown⟩
        · rw [invariant.unused empty] at old
          cases old
        · rw [presentedBy_of_mem accepted.valid.uniqueKeys itemMember key.symm, shown]
          rfl
  | pending active found hash result =>
      have stillActive := WriteCase.active_eq invariant accepted
        (WriteCase.pending active found hash result) found
      have member : newVersion environment clock
          (withdrawAll clock.now (selection environment tables request).1) request false ∈
            after.configVersions := by
        rw [result]
        exact List.mem_append_right _ (List.mem_singleton.mpr rfl)
      exact Or.inr ⟨⟨active, found, stillActive, hash⟩, _, keeps.shape.pending_eq member rfl⟩

/-- A request with the active version's semantics is published at once. -/
theorem WriteCase.publish_eq {active : ConfigVersion}
    (writeCase : WriteCase environment clock tables request after)
    (found : tables.active = some active)
    (hash : active.configHash = configHash environment request) :
    after = { withdrawAll clock.now tables with
      categories := tables.categories.map (presentedBy request.categories) } := by
  cases writeCase with
  | publish other otherFound otherHash result => exact result
  | unchanged other pending otherFound different pendingFound pendingHash result =>
      rw [found] at otherFound
      cases otherFound
      exact absurd hash different
  | first empty result =>
      have none := (ConfigTables.active_mem found).1
      rw [empty] at none
      cases none
  | pending other otherFound different result =>
      rw [found] at otherFound
      cases otherFound
      exact absurd hash different

/-- Any other request leaves the rows of the active version alone. -/
theorem WriteCase.rules_kept {active : ConfigVersion}
    (invariant : ConfigInvariant environment tables) (accepted : Accepted environment request)
    (writeCase : WriteCase environment clock tables request after)
    (found : tables.active = some active)
    (different : active.configHash ≠ configHash environment request) :
    rulesForConfig (commit environment after) active.id = rulesForConfig tables active.id := by
  have member := (ConfigTables.active_mem found).1
  have activeFound := invariant.wellFormed.find_version member
  have grows : tables.Extends (commit environment after) :=
    (writeCase.keeps invariant accepted).grows.trans (extends_commit after)
  refine rulesForConfig_congr (grows.links activeFound) fun link linkMember => ?_
  rcases (invariant.wellFormed.sound active member).exists_linkedRule linkMember with ⟨row, joined⟩
  have stored : mapCategory (reloaded environment) row = row := by
    rw [mapCategory, invariant.stored row.category
      (Table.mem_of_get (linkedRule_eq_some_iff.mp joined).2.1)]
  have committed : linkedRule (commit environment after) link =
      (linkedRule after link).map (mapCategory (reloaded environment)) := by
    refine linkedRule_map (reloaded environment) (fun _ => rfl) ?_ ?_ link <;> rfl
  rw [committed, joined]
  cases writeCase with
  | publish other otherFound hash result =>
      rw [found] at otherFound
      cases otherFound
      exact absurd hash different
  | unchanged other pending otherFound hash pendingFound pendingHash result =>
      rw [result, joined, Option.map_some, stored]
  | first empty result =>
      rw [empty] at member
      cases member
  | pending other otherFound hash result =>
      have selected := selectRules_spec invariant.wellFormed accepted.valid
      have kept : linkedRule after link = some row := by
        rw [result]
        exact selected.appends.linkedRule joined
      rw [kept, Option.map_some, stored]

/-! ## Activation -/

/-- An activated version reads as the document it was pending with. -/
theorem exists_activeSnapshot_activated (invariant : ConfigInvariant environment tables)
    (injective : Function.Injective environment.sha256) (member : config ∈ tables.configVersions)
    (pending : config.status = .pending) (now : Datetime) :
    ∃ snapshot, activeSnapshot (commit environment (activated now tables config))
        (promote now config) = .ok snapshot ∧ SameSnapshot snapshot config.sourceConfig := by
  have sound := invariant.wellFormed.sound config member
  have keeps := invariant.activated member pending now
  have frozen := frozen_promote now config
  have shown : ((rulesForConfig (activated now tables config) config.id).map
      LinkedRule.toInput).Perm config.sourceConfig.categories :=
    perm_assembled_presented invariant.wellFormed injective member sound.valid sound.hash rfl rfl rfl
  refine exists_activeSnapshot keeps.wellFormed injective (List.mem_map_of_mem member) sound.valid
    ((ConfigVersion.configHash_of_frozen frozen).trans sound.hash) ?_
  show ((rulesForConfig (activated now tables config) (promote now config).id).map
    LinkedRule.toInput).Perm _
  rw [ConfigVersion.id_of_frozen frozen]
  exact shown

end RollingBudget
