import RollingBudget.Guards.ConfigCalls

namespace RollingBudget

open SingleUser Sorting ServiceError ConfigService Flushes

/-! Every write of `put_config` passes its guards, and the database ends up as the call commits
it. -/

variable {environment : Environment} {clock : Clock} {database : Database}
  {tables : ConfigTables} {request : ConfigPutRequest}

/-- The database once the session has flushed its configuration tables. -/
abbrev Database.flushed (environment : Environment) (database : Database)
    (tables : ConfigTables) : Database :=
  database.withConfig (ConfigService.commit environment tables)

/-- A program on the configuration tables that flushes all it returns. -/
abbrev RunsConfig (environment : Environment) (database : Database) (tables : ConfigTables)
    {α : Type} (program : Program α) (result : α → ConfigTables) (post : α → Prop) : Prop :=
  guardedDatabase.Runs (database.flushed environment tables) program fun value state =>
    post value ∧ state = database.flushed environment (result value) ∧ state.Constraints

/-! ## Selecting categories and rules -/

theorem Environment.HexDigests.sha256Hex (digests : environment.HexDigests) (payload : Json) :
    IsSha256 (environment.sha256Hex payload) :=
  digests _

/-- The row `put_config` adds for a new key. -/
private def newCategory (tables : ConfigTables) (item : CategoryConfigInput) : Category where
  id := Table.freshId (tables.categories.map Category.id)
  key := item.key
  name := item.name
  icon := item.icon
  sortOrder := item.sortOrder
  budgetLimit := item.budgetLimit
  budgetCurrency := item.budgetCurrency

private theorem ensureCategory_eq {item : CategoryConfigInput}
    (missing : tables.categoryByKey item.key = none) :
    ConfigService.ensureCategory tables item =
      ({ tables with categories := tables.categories ++ [newCategory tables item] },
        newCategory tables item) := by
  unfold ConfigService.ensureCategory
  rw [missing]
  rfl

theorem runs_ensureCategory {item : CategoryConfigInput} (valid : item.Valid)
    (constraints : (database.flushed environment tables).Constraints) :
    RunsConfig environment database tables (Flushes.ensureCategory environment tables item)
      Prod.fst fun ensured => ensured = ConfigService.ensureCategory tables item := by
  unfold RunsConfig Flushes.ensureCategory
  by_cases missing : tables.categoryByKey item.key = none
  · rw [if_pos missing, ensureCategory_eq missing]
    have guarded : (database.flushed environment tables).Guarded
        (.insert (.category (reloaded environment (newCategory tables item)))) := by
      constructor
      · trivial
      · apply constraints.insertCategory
        · have units := MoneyCodec.signedUnits_eq_units
            (Money.admitted_reload environment.dialect valid.budgetLimit)
          show 0 ≤ MoneyCodec.signedUnits (Money.reload environment.dialect item.budgetLimit)
          rw [units]
          exact Int.natCast_nonneg _
        · intro old member
          rcases List.mem_map.mp member with ⟨row, rowMember, rfl⟩
          show row.id ≠ Table.freshId (tables.categories.map Category.id)
          exact Table.ne_freshId_map rowMember
        · intro old member
          rcases List.mem_map.mp member with ⟨row, rowMember, rfl⟩
          exact Table.get_eq_none_iff.mp missing row rowMember
      · trivial
    have flushed : (database.flushed environment tables).write
        (.insert (.category (reloaded environment (newCategory tables item)))) =
          database.flushed environment
            { tables with categories := tables.categories ++ [newCategory tables item] } := by
      unfold Database.flushed ConfigService.commit
      rw [List.map_append]
      rfl
    have kept := guarded.constraints
    rw [flushed] at kept
    refine GuardedStore.Runs.emitThen ?_ flushed (GuardedStore.Runs.pure ⟨rfl, rfl, kept⟩)
    exact ⟨guarded, trivial⟩
  · rw [if_neg missing]
    have ensured : (ConfigService.ensureCategory tables item).1 = tables := by
      unfold ConfigService.ensureCategory
      split
      · rfl
      · next none => exact absurd none missing
    exact GuardedStore.Runs.pure ⟨rfl, by rw [ensured], constraints⟩

/-- The row `put_config` adds for new semantics of a category. -/
private def newRule (environment : Environment) (tables : ConfigTables) (categoryId : Nat)
    (item : CategoryConfigInput) : RuleVersion where
  id := Table.freshId (tables.ruleVersions.map RuleVersion.id)
  categoryId := categoryId
  version := Table.freshId ((tables.ruleVersions.filter fun rule =>
    rule.categoryId = categoryId).map RuleVersion.version)
  lookbackDays := item.lookbackDays
  classificationInstruction := item.classificationInstruction
  isEnabled := item.enabled
  ruleHash := ruleHash environment item

private theorem ensureRule_eq {categoryId : Nat} {item : CategoryConfigInput}
    (missing : (tables.ruleVersions.find? fun rule =>
      rule.categoryId = categoryId ∧ rule.ruleHash = ruleHash environment item) = none) :
    ConfigService.ensureRule environment tables categoryId item =
      ({ tables with
        ruleVersions := tables.ruleVersions ++ [newRule environment tables categoryId item] },
        newRule environment tables categoryId item) := by
  unfold ConfigService.ensureRule
  rw [missing]
  rfl

theorem runs_ensureRule (digests : environment.HexDigests) {categoryId : Nat}
    {item : CategoryConfigInput} (valid : item.Valid)
    (owner : categoryId ∈ tables.categories.map Category.id)
    (constraints : (database.flushed environment tables).Constraints) :
    RunsConfig environment database tables
      (Flushes.ensureRule environment tables categoryId item) Prod.fst
      fun ensured => ensured = ConfigService.ensureRule environment tables categoryId item := by
  unfold RunsConfig Flushes.ensureRule
  by_cases missing : (tables.ruleVersions.find? fun rule =>
      rule.categoryId = categoryId ∧ rule.ruleHash = ruleHash environment item) = none
  · rw [if_pos missing, ensureRule_eq missing]
    have guarded : (database.flushed environment tables).Guarded
        (.insert (.ruleVersion (newRule environment tables categoryId item))) := by
      constructor
      · trivial
      · apply constraints.insertRuleVersion
        · refine ⟨Nat.succ_pos _, ⟨valid.lookbackDays.1, ?_⟩, digests.sha256Hex _⟩
          exact valid.lookbackDays.2.trans (by decide)
        · intro old member
          exact Table.ne_freshId_map member
        · intro old member same
          exact Table.ne_freshId_map (List.mem_filter.mpr ⟨member, decide_eq_true same⟩)
        · intro old member same equal
          have differs := List.find?_eq_none.mp missing old member
          rw [decide_eq_true_eq] at differs
          exact differs ⟨same, equal⟩
        · show categoryId ∈ (tables.categories.map (reloaded environment)).map Category.id
          rw [List.map_map]
          exact owner
      · trivial
    refine GuardedStore.Runs.emitThen ?_ rfl
      (GuardedStore.Runs.pure ⟨rfl, rfl, guarded.constraints⟩)
    exact ⟨guarded, trivial⟩
  · rw [if_neg missing]
    have ensured : (ConfigService.ensureRule environment tables categoryId item).1 = tables := by
      unfold ConfigService.ensureRule
      split
      · rfl
      · next none => exact absurd none missing
    exact GuardedStore.Runs.pure ⟨rfl, by rw [ensured], constraints⟩

theorem runs_selectRule (digests : environment.HexDigests)
    {progress : ConfigTables × List (Nat × Nat)} {item : CategoryConfigInput}
    (valid : item.Valid) (wellFormed : WellFormed environment progress.1)
    (constraints : (database.flushed environment progress.1).Constraints) :
    RunsConfig environment database progress.1 (Flushes.selectRule environment progress item)
      Prod.fst fun next => next = ConfigService.selectRule environment progress item := by
  have ensured := ensureCategory_spec wellFormed valid
  apply GuardedStore.Runs.bind _ (runs_ensureCategory valid constraints)
  rintro _ _ ⟨rfl, rfl, withCategory⟩
  have owner : (ConfigService.ensureCategory progress.1 item).2.id ∈
      (ConfigService.ensureCategory progress.1 item).1.categories.map Category.id :=
    List.mem_map_of_mem ensured.2.2.1
  apply GuardedStore.Runs.bind _ (runs_ensureRule digests valid owner withCategory)
  rintro _ _ ⟨rfl, rfl, withRule⟩
  exact GuardedStore.Runs.pure ⟨rfl, rfl, withRule⟩

theorem runs_selectRules (digests : environment.HexDigests)
    (wellFormed : WellFormed environment tables) (valid : request.Valid)
    (constraints : (database.flushed environment tables).Constraints) :
    RunsConfig environment database tables (Flushes.selectRules environment tables request)
      Prod.fst fun selection =>
        Selected environment tables request.categories selection := by
  apply GuardedStore.Runs.mono (GuardedStore.Runs.foldlM
    (fun done rest progress state => Selected environment tables done progress ∧
      (∀ item ∈ rest, item.Valid) ∧ state = database.flushed environment progress.1 ∧
        state.Constraints) _ _)
  · rintro selection _ ⟨selected, _, flushed⟩
    exact ⟨selected, flushed⟩
  · rintro done item rest progress _ ⟨selected, validItems, rfl, here⟩
    rcases List.forall_mem_cons.mp validItems with ⟨validItem, validRest⟩
    apply (runs_selectRule digests validItem selected.wellFormed here).mono
    rintro _ state ⟨rfl, flushed⟩
    exact ⟨selected.step validItem, validRest, flushed⟩
  · exact ⟨⟨.refl tables, wellFormed, .nil, fun _ member => Or.inl member⟩, valid.categories,
      rfl, constraints⟩

/-! ## Storing a version -/

/-- Different keys choose different categories. -/
theorem nodup_choices {items : List CategoryConfigInput} {choices : List (Nat × Nat)}
    (chosen : List.Forall₂ (Chosen environment tables) items choices)
    (nodup : (items.map CategoryConfigInput.key).Nodup) : (choices.map Prod.fst).Nodup := by
  have keys : choices.map (fun choice => (tables.category choice.1).map Category.key) =
      (items.map CategoryConfigInput.key).map some := by
    clear nodup
    induction chosen with
    | nil => rfl
    | cons first _ induction =>
        rcases first with ⟨category, _, found, _, key, _⟩
        rw [List.map_cons, List.map_cons, List.map_cons, induction, found, Option.map_some, key]
  apply List.Nodup.of_map fun id => (tables.category id).map Category.key
  rw [List.map_map]
  exact keys ▸ nodup.map (Option.some_injective _)

/-- A chosen rule is a rule of the chosen category. -/
theorem owners_of_chosen {items : List CategoryConfigInput} {choices : List (Nat × Nat)}
    (chosen : List.Forall₂ (Chosen environment tables) items choices) :
    ∀ choice ∈ choices, (choice.2, choice.1) ∈ tables.ruleVersions.map RuleVersion.ownerKey := by
  intro choice member
  rcases List.mem_iff_getElem.mp member with ⟨index, bound, here⟩
  have itemBound : index < items.length := chosen.length_eq ▸ bound
  rcases chosen.get itemBound bound with ⟨category, rule, categoryFound, ruleFound, _, owner, _⟩
  rw [List.get_eq_getElem, here] at categoryFound ruleFound
  have ruleId : rule.id = choice.2 := Table.key_of_get ruleFound
  have categoryId : category.id = choice.1 := Table.key_of_get categoryFound
  exact List.mem_map.mpr ⟨rule, Table.mem_of_get ruleFound,
    Prod.ext ruleId (owner.trans categoryId)⟩

/-- The tables with the links of a version. -/
def withLinks (tables : ConfigTables) (configId : Nat) (choices : List (Nat × Nat)) :
    ConfigTables :=
  { tables with
    configVersionRules := tables.configVersionRules ++
      choices.map fun choice => ⟨configId, choice.1, choice.2⟩ }

theorem admits_links (configId : Nat) {choices : List (Nat × Nat)}
    (constraints : (database.withConfig tables).Constraints)
    (member : configId ∈ tables.configVersions.map ConfigVersion.id)
    (unlinked : ∀ link ∈ tables.configVersionRules, link.configVersionId ≠ configId)
    (nodup : (choices.map Prod.fst).Nodup)
    (owners : ∀ choice ∈ choices,
      (choice.2, choice.1) ∈ tables.ruleVersions.map RuleVersion.ownerKey) :
    guardedDatabase.Admits (database.withConfig tables)
        (choices.map fun choice => .insert (.configVersionRule ⟨configId, choice.1, choice.2⟩)) ∧
      guardedDatabase.after (database.withConfig tables)
          (choices.map fun choice =>
            .insert (.configVersionRule ⟨configId, choice.1, choice.2⟩)) =
        database.withConfig (withLinks tables configId choices) := by
  have none : withLinks tables configId [] = tables := by
    unfold withLinks
    rw [List.map_nil, List.append_nil]
  have inserted := admits_inserts
    (fun choice : Nat × Nat => .configVersionRule ⟨configId, choice.1, choice.2⟩)
    (fun done => database.withConfig (withLinks tables configId done)) [] choices
    (by
      intro done choice
      unfold withLinks
      rw [List.map_append, ← List.append_assoc]
      rfl)
    (by
      intro done choice rest whole here
      constructor
      · trivial
      · apply here.insertConfigVersionRule
        · intro old oldMember same
          have sameVersion : old.configVersionId = configId := congrArg Prod.fst same
          rcases List.mem_append.mp oldMember with earlier | new
          · exact unlinked old earlier sameVersion
          · rcases List.mem_map.mp new with ⟨other, otherMember, rfl⟩
            rw [← whole, List.map_append, List.map_cons, List.nodup_append] at nodup
            exact nodup.2.2 _ (List.mem_map_of_mem otherMember) _ List.mem_cons_self
              (congrArg Prod.snd same)
        · exact member
        · apply owners
          rw [← whole]
          exact List.mem_append_right _ List.mem_cons_self
      · trivial)
    (by rw [none]; exact constraints)
  rw [none] at inserted
  exact inserted

theorem editableSnapshot_valid {config : ConfigVersion} {snapshot : ConfigPutRequest}
    (read : editableSnapshotForConfig tables config = .ok snapshot) : snapshot.Valid := by
  unfold editableSnapshotForConfig activeSnapshot at read
  split at read
  · exact ConfigPutRequest.valid_of_validate (Outcome.orRaise_eq_ok.mp read)
  · exact ConfigPutRequest.valid_of_validate (Outcome.orRaise_eq_ok.mp read)

/-- Presenting a snapshot changes the categories it names. -/
theorem applyConfigPresentation_categories {config : ConfigVersion} {presented : ConfigTables}
    (completed : applyConfigPresentation tables config = .ok presented) :
    ∃ items, (∀ item ∈ items, CategoryConfigInput.Valid item) ∧
      presented = { tables with categories := tables.categories.map (presentedBy items) } := by
  rcases applyConfigPresentation_eq completed with ⟨snapshot, read, rfl⟩
  have valid := editableSnapshot_valid read
  exact ⟨snapshot.categories, valid.categories, presentAll_eq valid.uniqueKeys tables⟩

theorem newVersion_checks (clock : Clock) (tables : ConfigTables)
    (digests : environment.HexDigests) (valid : request.Valid) (first : Bool) :
    (newVersion environment clock tables request first).Checks := by
  constructor
  · exact Nat.succ_pos _
  · exact valid.aggregationVersion
  · exact digests.sha256Hex _
  · intro active
    cases first with
    | true => rfl
    | false => cases active
  · intro superseded
    cases first with
    | true => cases superseded
    | false => cases superseded

/-- The session supersedes the pending version and inserts the new one in one flush. -/
theorem admits_newVersion (clock : Clock) (digests : environment.HexDigests)
    (valid : request.Valid) {first : Bool}
    (isFirst : first = true → ∀ old ∈ tables.configVersions, old.status ≠ .active)
    (constraints : (database.flushed environment tables).Constraints) :
    guardedDatabase.Admits (database.flushed environment tables)
        (changed .configVersion tables.configVersions
          (withdrawAll clock.now tables).configVersions ++
        [.insert (.configVersion
          (newVersion environment clock (withdrawAll clock.now tables) request first))]) ∧
      guardedDatabase.after (database.flushed environment tables)
          (changed .configVersion tables.configVersions
            (withdrawAll clock.now tables).configVersions ++
          [.insert (.configVersion
            (newVersion environment clock (withdrawAll clock.now tables) request first))]) =
        database.flushed environment { withdrawAll clock.now tables with
          configVersions := (withdrawAll clock.now tables).configVersions ++
            [newVersion environment clock (withdrawAll clock.now tables) request first] } := by
  have superseded : guardedDatabase.Admits (database.flushed environment tables)
        (changed .configVersion tables.configVersions
          (withdrawAll clock.now tables).configVersions) ∧
      guardedDatabase.after (database.flushed environment tables)
          (changed .configVersion tables.configVersions
            (withdrawAll clock.now tables).configVersions) =
        database.flushed environment (withdrawAll clock.now tables) :=
    admits_changedVersions database (ConfigService.commit environment tables)
      (forall₂_map fun config _ => config.supersedes_withdraw clock.now) constraints
  have middle := Database.constraints_after superseded.1 constraints
  rw [superseded.2] at middle
  have inserted := middle.insertConfigVersion
    (newVersion_checks clock (withdrawAll clock.now tables) digests valid first)
    (fun old member => Table.ne_freshId_map member)
    (fun old member => Table.ne_freshId_map member) (by
      intro active old member isActive
      rcases List.mem_map.mp member with ⟨config, configMember, rfl⟩
      rw [withdraw_of_active isActive] at isActive
      cases first with
      | true => exact isFirst rfl config configMember isActive
      | false => cases active)
  rw [GuardedStore.admits_append, GuardedStore.after_append, superseded.2]
  exact ⟨⟨superseded.1, ⟨trivial, inserted, trivial⟩, trivial⟩, rfl⟩

theorem runs_createVersion (digests : environment.HexDigests)
    (invariant : ConfigInvariant environment tables) (accepted : Accepted environment request)
    (constraints : (database.flushed environment tables).Constraints) :
    RunsConfig environment database tables
      (Flushes.createVersion environment clock tables request) id fun _ => True := by
  apply GuardedStore.Runs.bind _
    (runs_selectRules digests invariant.wellFormed accepted.valid constraints)
  rintro selection _ ⟨selected, rfl, selectedConstraints⟩
  have shape : Shape selection.1.configVersions := by
    rw [selected.appends.configVersions]
    exact invariant.shape
  have superseded : supersedePending clock.now selection.1 = withdrawAll clock.now selection.1 :=
    supersedePending_eq shape selected.wellFormed.versionIds
  have isFirst : tables.active.isNone = true →
      ∀ old ∈ selection.1.configVersions, old.status ≠ .active := by
    intro none
    rw [selected.appends.configVersions]
    exact ConfigTables.active_eq_none_iff.mp (Option.isNone_iff_eq_none.mp none)
  have inserted : WellFormed environment (insertVersion (withdrawAll clock.now selection.1)
      (newVersion environment clock (withdrawAll clock.now selection.1) request
        tables.active.isNone) selection.2) :=
    (selected.wellFormed.withdrawAll clock.now).insertVersion accepted selected.choices clock _
  dsimp only
  rw [superseded]
  have stored := admits_newVersion clock digests accepted.valid isFirst
    selectedConstraints
  have storedConstraints := Database.constraints_after stored.1 selectedConstraints
  rw [stored.2] at storedConstraints
  have owners := owners_of_chosen selected.choices
  have linked := admits_links (newVersion environment clock (withdrawAll clock.now selection.1)
      request tables.active.isNone).id storedConstraints
    (List.mem_map_of_mem (List.mem_append_right _ List.mem_cons_self))
    (by
      intro link member same
      rcases selected.wellFormed.links link member with ⟨old, oldMember, owner⟩
      have fresh : (withdraw clock.now old).id ≠ Table.freshId
          ((selection.1.configVersions.map (withdraw clock.now)).map ConfigVersion.id) :=
        Table.ne_freshId_map (List.mem_map_of_mem oldMember)
      rw [ConfigVersion.id_of_frozen (frozen_withdraw clock.now old), owner] at fresh
      exact fresh same)
    (nodup_choices selected.choices accepted.valid.uniqueKeys)
    owners
  have linkedConstraints := Database.constraints_after linked.1 storedConstraints
  rw [linked.2] at linkedConstraints
  apply GuardedStore.Runs.emitThen stored.1 stored.2
  apply GuardedStore.Runs.emitThen linked.1 linked.2
  by_cases first : tables.active.isNone = true
  · rw [if_pos first]
    apply GuardedStore.Runs.liftThen
    intro presented completed
    rcases applyConfigPresentation_categories completed with ⟨items, valid, result⟩
    have updates := admits_configUpdates presented (presentedBy items) id linkedConstraints
      (id_presentedBy items)
      (key_presentedBy items)
      (fun row member => (inserted.published row member).presentedBy valid)
      (fun row _ => Or.inl rfl) (by
        rw [List.map_id]
        exact result)
    have presentedConstraints := Database.constraints_after updates.1 linkedConstraints
    rw [updates.2] at presentedConstraints
    apply GuardedStore.Runs.emitThen updates.1 updates.2
    exact GuardedStore.Runs.pure ⟨trivial, rfl, presentedConstraints⟩
  · rw [if_neg first]
    exact GuardedStore.Runs.pure ⟨trivial, rfl, linkedConstraints⟩

/-! ## The whole call -/

theorem runs_publishEdits (invariant : ConfigInvariant environment tables)
    (valid : request.Valid) (active : ConfigVersion)
    (constraints : (database.flushed environment tables).Constraints) :
    RunsConfig environment database tables
      (Flushes.publishEdits environment clock.now tables active request) id fun _ => True := by
  apply GuardedStore.Runs.liftThen
  intro edited completed
  have result : edited = { tables with
      categories := tables.categories.map (presentedBy request.categories)
      configVersions := tables.configVersions.map (withdraw clock.now) } := by
    rw [publishEdits_eq completed,
      supersedePending_eq invariant.shape invariant.wellFormed.versionIds,
      presentAll_eq valid.uniqueKeys]
  have updates := admits_configUpdates edited (presentedBy request.categories)
    (withdraw clock.now) constraints (id_presentedBy request.categories)
    (key_presentedBy request.categories)
    (fun row member => (invariant.wellFormed.published row member).presentedBy valid.categories)
    (fun row _ => row.supersedes_withdraw clock.now) result
  have kept := Database.constraints_after updates.1 constraints
  rw [updates.2] at kept
  apply GuardedStore.Runs.emitThen updates.1 updates.2
  exact GuardedStore.Runs.pure ⟨trivial, rfl, kept⟩

theorem runs_writeConfig (clock : Clock) (digests : environment.HexDigests)
    (invariant : ConfigInvariant environment tables) (accepted : Accepted environment request)
    (constraints : (database.flushed environment tables).Constraints) :
    RunsConfig environment database tables
      (Flushes.writeConfig environment clock tables request) id fun _ => True := by
  unfold Flushes.writeConfig
  split
  · next active _ =>
    exact runs_publishEdits invariant accepted.valid active constraints
  · apply GuardedStore.Runs.liftThen
    intro unchanged _
    cases unchanged with
    | true => exact GuardedStore.Runs.pure ⟨trivial, rfl, constraints⟩
    | false => exact runs_createVersion digests invariant accepted constraints

theorem runs_putConfigLocked (digests : environment.HexDigests)
    (invariant : ConfigInvariant environment database.config) (valid : request.Valid)
    (constraints : database.Constraints) (ifMatch : Option Text) (checkExpected : Bool)
    (expectedBaseHash : Option Text) :
    guardedDatabase.Runs database
      (Flushes.putConfigLocked environment clock database request ifMatch checkExpected
        expectedBaseHash) fun value state => state = value.1 := by
  have start : database = database.flushed environment database.config := by
    unfold Database.flushed
    rw [invariant.commit_eq]
    rfl
  apply GuardedStore.Runs.liftThen
  intro _ zone
  apply GuardedStore.Runs.liftThen
  intro _ currency
  apply GuardedStore.Runs.liftThen
  intro _ _
  have accepted : Accepted environment request :=
    ⟨valid, zone_of_validateTimezone zone, Outcome.require_eq_ok.mp currency⟩
  have written : RunsConfig environment database database.config
      (Flushes.writeConfig environment clock database.config request) id fun _ => True :=
    runs_writeConfig clock digests invariant accepted (by rw [← start]; exact constraints)
  unfold RunsConfig at written
  rw [← start] at written
  apply GuardedStore.Runs.bind _ written
  rintro tables _ ⟨_, rfl, _⟩
  apply GuardedStore.Runs.liftThen
  intro view _
  exact GuardedStore.Runs.pure rfl

end RollingBudget
