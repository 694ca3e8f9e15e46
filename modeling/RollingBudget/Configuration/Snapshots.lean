import RollingBudget.Configuration.Presentation

namespace RollingBudget

open Sorting ConfigService

/-! The editable snapshot of a version: the stored document while it is pending, the
category and rule rows otherwise. In well-formed tables both are valid requests, so that
reading a configuration never raises. -/

variable {environment : Environment} {tables after : ConfigTables} {config : ConfigVersion}

/-- The snapshot that `editable_snapshot_for_config` returns. -/
def snapshotOf (tables : ConfigTables) (config : ConfigVersion) : ConfigPutRequest :=
  if config.status = .pending then config.sourceConfig else assembled tables config

/-! ## Assembled snapshots are valid -/

theorem toInput_valid {row : LinkedRule} (published : row.category.Published)
    (written : row.rule.Written environment row.category.key) : row.toInput.Valid := by
  rcases published with ⟨shown, shownValid, shownKey, presented⟩
  rcases written with ⟨semantic, semanticValid, _, lookback, instruction, _, _⟩
  have name := congrArg Category.name presented
  have icon := congrArg Category.icon presented
  have sortOrder := congrArg Category.sortOrder presented
  have budget := congrArg Category.budgetLimit presented
  have currency := congrArg Category.budgetCurrency presented
  simp only [present] at name icon sortOrder budget currency
  have shownStripped := shownValid.stripped
  have semanticStripped := semanticValid.stripped
  simp only [CategoryConfigInput.normalize] at shownStripped semanticStripped
  have strippedFields := (CategoryConfigInput.mk.injEq ..).mp shownStripped
  have strippedInstruction := congrArg CategoryConfigInput.classificationInstruction
    semanticStripped
  simp only at strippedInstruction
  refine ⟨?_, ?_, ?_, ?_, ?_, ?_, ?_, ?_, ?_⟩
  · simp only [CategoryConfigInput.normalize, LinkedRule.toInput, CategoryConfigInput.mk.injEq,
      ← shownKey, ← name, ← icon, ← currency, instruction, strippedInstruction]
    simp only [and_true, true_and]
    exact ⟨strippedFields.1, strippedFields.2.1, strippedFields.2.2.1,
      strippedFields.2.2.2.2.2.1⟩
  · simpa only [LinkedRule.toInput, ← shownKey] using shownValid.key
  · simpa only [LinkedRule.toInput, ← name] using shownValid.name
  · simpa only [LinkedRule.toInput, ← icon] using shownValid.icon
  · simpa only [LinkedRule.toInput, ← sortOrder] using shownValid.sortOrder
  · simpa only [LinkedRule.toInput, ← budget] using shownValid.budgetLimit
  · simpa only [LinkedRule.toInput, ← currency] using shownValid.budgetCurrency
  · simpa only [LinkedRule.toInput, lookback] using semanticValid.lookbackDays
  · simpa only [LinkedRule.toInput, instruction] using semanticValid.classificationInstruction

namespace WellFormed

/-- The rule of a join row was written for the category it is joined with. -/
theorem written_of_mem (wellFormed : WellFormed environment tables)
    (member : config ∈ tables.configVersions) {row : LinkedRule}
    (rowMember : row ∈ rulesForConfig tables config.id) :
    row.rule.Written environment row.category.key := by
  rcases (wellFormed.sound config member).exists_item rowMember with ⟨item, _, matching⟩
  rcases linkedRule_eq_some_iff.mp (mem_rulesForConfig.mp rowMember).2 with
    ⟨ruleFound, categoryFound, _⟩
  rcases wellFormed.written row.rule (Table.mem_of_get ruleFound) with
    ⟨owner, ownerMember, owns, written⟩
  have same : owner = row.category :=
    List.inj_on_of_nodup_map wellFormed.categoryIds ownerMember (Table.mem_of_get categoryFound)
      (owns.trans matching.owner)
  rw [← same]
  exact written

theorem category_mem (rowMember : row ∈ rulesForConfig tables configId) :
    row.category ∈ tables.categories :=
  Table.mem_of_get (linkedRule_eq_some_iff.mp (mem_rulesForConfig.mp rowMember).2).2.1

theorem assembled_valid (wellFormed : WellFormed environment tables)
    (member : config ∈ tables.configVersions) : (assembled tables config).Valid := by
  have sound := wellFormed.sound config member
  have items : ∀ item ∈ (assembled tables config).categories, item.Valid := by
    intro item itemMember
    rcases List.mem_map.mp itemMember with ⟨row, rowMember, rfl⟩
    exact toInput_valid (wellFormed.published _ (category_mem rowMember))
      (wellFormed.written_of_mem member rowMember)
  have keys : (assembled tables config).keys =
      (rulesForConfig tables config.id).map fun row => row.category.key := by
    rw [ConfigPutRequest.keys, assembled, List.map_map]
    rfl
  have count : (assembled tables config).categories.length =
      config.sourceConfig.categories.length := by
    have lengths := congrArg List.length keys
    rw [sound.perm_keys.length_eq] at lengths
    simpa only [ConfigPutRequest.keys, List.length_map] using lengths
  have stripped := sound.valid.stripped
  simp only [ConfigPutRequest.normalize] at stripped
  have fields := (ConfigPutRequest.mk.injEq ..).mp stripped
  refine {
    stripped := ?_
    timezone := ?_
    displayCurrency := ?_
    aggregationVersion := ?_
    count := ?_
    categories := items
    uniqueKeys := ?_ }
  · refine (ConfigPutRequest.mk.injEq ..).mpr ⟨?_, ?_, rfl, ?_⟩
    · exact (congrArg Text.stripWhitespace sound.timezone).trans
        (fields.1.trans sound.timezone.symm)
    · exact (congrArg Text.stripWhitespace sound.displayCurrency).trans
        (fields.2.1.trans sound.displayCurrency.symm)
    · exact (List.map_congr_left fun item itemMember => (items item itemMember).stripped).trans
        (List.map_id _)
  · change Text.Fits 1 64 config.timezone
    rw [sound.timezone]
    exact sound.valid.timezone
  · change matchesCurrency config.displayCurrency = true
    rw [sound.displayCurrency]
    exact sound.valid.displayCurrency
  · change 1 ≤ config.aggregationVersion
    rw [sound.aggregationVersion]
    exact sound.valid.aggregationVersion
  · rw [count]
    exact sound.valid.count
  · rw [keys]
    exact sound.nodup_keys

/-! ## Reading succeeds -/

theorem snapshotOf_valid (wellFormed : WellFormed environment tables)
    (member : config ∈ tables.configVersions) : (snapshotOf tables config).Valid := by
  unfold snapshotOf
  split
  · exact (wellFormed.sound config member).valid
  · exact wellFormed.assembled_valid member

theorem editableSnapshot_eq (wellFormed : WellFormed environment tables)
    (member : config ∈ tables.configVersions) :
    editableSnapshotForConfig tables config = .ok (snapshotOf tables config) := by
  unfold editableSnapshotForConfig activeSnapshot snapshotOf
  split
  · rw [(wellFormed.sound config member).valid.validate_eq]
    rfl
  · rw [(wellFormed.assembled_valid member).validate_eq]
    rfl

theorem editHash_eq (wellFormed : WellFormed environment tables)
    (member : config ∈ tables.configVersions) :
    editHashForConfig environment tables config =
      .ok (editHashForRequest environment (snapshotOf tables config)) := by
  rw [editHashForConfig, wellFormed.editableSnapshot_eq member]
  rfl

/-- The snapshot of a version has the categories the version links. -/
theorem perm_snapshot_keys (wellFormed : WellFormed environment tables)
    (member : config ∈ tables.configVersions) :
    (snapshotOf tables config).keys.Perm config.sourceConfig.keys := by
  unfold snapshotOf
  split
  · exact List.Perm.refl _
  · have keys := (wellFormed.sound config member).perm_keys
    rw [ConfigPutRequest.keys, assembled, List.map_map]
    exact keys

theorem versionView_ok (wellFormed : WellFormed environment tables)
    (member : config ∈ tables.configVersions) (syncState : Option SyncState) :
    ∃ view, versionView environment tables syncState config = .ok view ∧
      view.configHash = editHashForRequest environment (snapshotOf tables config) := by
  have views : ∃ values, (sortedOn
      (fun item : CategoryConfigInput => toLex (item.sortOrder, item.key))
      (snapshotOf tables config).categories).mapM
        (categoryView (rulesForConfig tables config.id)) = .ok values := by
    apply Outcome.mapM_eq_ok_of
    intro item itemMember
    have key : item.key ∈ config.sourceConfig.keys :=
      (wellFormed.perm_snapshot_keys member).mem_iff.mp
        (List.mem_map_of_mem (mem_sortedOn.mp itemMember))
    rcases List.mem_map.mp ((wellFormed.sound config member).perm_keys.mem_iff.mpr key) with
      ⟨row, rowMember, rowKey⟩
    cases found : Table.get (fun row : LinkedRule => row.category.key)
        (rulesForConfig tables config.id) item.key with
    | none => exact absurd rowKey (Table.get_eq_none_iff.mp found row rowMember)
    | some row =>
        rw [categoryView, found]
        exact ⟨_, rfl⟩
  rcases views with ⟨values, computed⟩
  rw [versionView, wellFormed.editableSnapshot_eq member, Outcome.ok_bind]
  dsimp only
  rw [computed, Outcome.ok_bind, wellFormed.editHash_eq member]
  exact ⟨_, rfl, rfl⟩

theorem optionalView_ok (wellFormed : WellFormed environment tables)
    {found : Option ConfigVersion} (member : ∀ config ∈ found, config ∈ tables.configVersions)
    (syncState : Option SyncState) :
    ∃ view, optionalView environment tables syncState found = .ok view ∧
      view.map ConfigVersionView.configHash =
        found.map fun config => editHashForRequest environment (snapshotOf tables config) := by
  cases found with
  | none => exact ⟨none, rfl, rfl⟩
  | some config =>
      rcases wellFormed.versionView_ok (member config rfl) syncState with ⟨view, computed, hash⟩
      refine ⟨some view, ?_, ?_⟩
      · rw [optionalView, computed]
        rfl
      · rw [Option.map_some, Option.map_some, hash]

end WellFormed

theorem ConfigTables.active_mem (found : tables.active = some config) :
    config ∈ tables.configVersions ∧ config.status = .active := by
  refine ⟨List.mem_of_find?_eq_some found, ?_⟩
  simpa using List.find?_some found

theorem ConfigTables.pending_mem (found : tables.pending = some config) :
    config ∈ tables.configVersions ∧ config.status = .pending := by
  have member := mem_sortedOn.mp (List.mem_of_mem_head? found)
  simpa using member

/-- The version a client edits: the pending one if there is one, else the active one. -/
def ConfigTables.base (tables : ConfigTables) : Option ConfigVersion :=
  tables.pending.or tables.active

theorem ConfigTables.base_mem (found : tables.base = some config) :
    config ∈ tables.configVersions := by
  unfold base at found
  cases pending : tables.pending with
  | none =>
      rw [pending, Option.none_or] at found
      exact (active_mem found).1
  | some other =>
      rw [pending, Option.some_or] at found
      cases found
      exact (pending_mem pending).1

namespace WellFormed

/-- `get_config` always answers, and the hash of its editing base is the edit hash of that
version's snapshot. -/
theorem getConfig_ok (wellFormed : WellFormed environment tables) (syncState : Option SyncState) :
    ∃ view, getConfig environment tables syncState = .ok view ∧
      view.base.map ConfigVersionView.configHash =
        tables.base.map fun config => editHashForRequest environment (snapshotOf tables config) := by
  rcases wellFormed.optionalView_ok (fun _ found => (ConfigTables.active_mem found).1)
    syncState with ⟨active, activeComputed, activeHash⟩
  rcases wellFormed.optionalView_ok (fun _ found => (ConfigTables.pending_mem found).1)
    syncState with ⟨pending, pendingComputed, pendingHash⟩
  refine ⟨⟨active, pending⟩, ?_, ?_⟩
  · rw [getConfig, activeComputed, Outcome.ok_bind, pendingComputed]
    rfl
  · unfold ConfigView.base ConfigTables.base
    dsimp only
    rw [Option.map_or, Option.map_or, activeHash, pendingHash]

end WellFormed

end RollingBudget
