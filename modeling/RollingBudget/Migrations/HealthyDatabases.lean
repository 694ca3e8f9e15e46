import RollingBudget.Migrations.RepairedDatabase

namespace RollingBudget

open ConfigService MoneyScaleRepair

/-! The repair after a history of the services, in which no budget was ever scaled twice. A
budget edit leaves the active snapshot as it was, so that an edit from a budget to ten thousand
times that budget looks like the damage that the repair is for. -/

variable {environment : Environment} {database committed : Database} {tables after : ConfigTables}
  {request : ConfigPutRequest} {clock : Clock} {response : Response}

/-! ## What a step does to live budgets -/

theorem Apart.congr {source budget other : Decimal} (apart : Apart source budget)
    (same : MoneyCodec.signedUnits other = MoneyCodec.signedUnits budget) : Apart source other := by
  intro representable nonzero
  rw [same]
  exact apart representable nonzero

/-- A budget is apart from itself. -/
theorem Apart.self {budget : Decimal} (admitted : budget.Admitted) : Apart budget budget := by
  intro _ nonzero
  rw [MoneyCodec.signedUnits_eq_units admitted]
  omega

theorem signedUnits_reloaded {category : Category} (published : category.Published) :
    MoneyCodec.signedUnits (reloaded environment category).budgetLimit =
      MoneyCodec.signedUnits category.budgetLimit := by
  have admitted := published.admitted
  unfold reloaded
  dsimp only
  rw [MoneyCodec.signedUnits_eq_units admitted,
    MoneyCodec.signedUnits_eq_units (Money.admitted_reload environment.dialect admitted),
    Money.units_reload environment.dialect admitted]

/-- Committing keeps every budget. -/
theorem InScale.commit (published : ∀ category ∈ tables.categories, category.Published)
    (inScale : InScale tables) : InScale (commit environment tables) := by
  intro active found source sourceMember category member key
  rcases List.mem_map.mp member with ⟨row, rowMember, rfl⟩
  exact (inScale active found source sourceMember row rowMember key).congr
    (signedUnits_reloaded (published row rowMember))

/-- Publishing the items of a request sets the budgets of their categories. -/
theorem budgetLimit_presentedBy {items : List CategoryConfigInput}
    (nodup : (items.map CategoryConfigInput.key).Nodup) {item : CategoryConfigInput}
    (member : item ∈ items) {category : Category} (key : category.key = item.key) :
    (presentedBy items category).budgetLimit = item.budgetLimit := by
  rw [presentedBy_of_mem nodup member key]
  rfl

/-- A version whose own budgets are live is in scale. -/
theorem inScale_of_snapshot {active : ConfigVersion} (found : tables.active = some active)
    (valid : active.sourceConfig.Valid)
    (live : ∀ source ∈ active.sourceConfig.categories, ∀ category ∈ tables.categories,
      category.key = source.key → category.budgetLimit = source.budgetLimit) : InScale tables := by
  intro other otherFound source sourceMember category member key
  rw [found, Option.some.injEq] at otherFound
  subst otherFound
  rw [live source sourceMember category member key]
  exact Apart.self (valid.categories source sourceMember).budgetLimit

/-! ## Writes -/

/-- The budgets of an edit are apart from those of the active snapshot. -/
def EditApart (environment : Environment) (tables : ConfigTables) (request : ConfigPutRequest) :
    Prop :=
  ∀ active, tables.active = some active → active.configHash = configHash environment request →
    ∀ source ∈ active.sourceConfig.categories, ∀ item ∈ request.categories,
      item.key = source.key → Apart source.budgetLimit item.budgetLimit

theorem WriteCase.inScale (invariant : ConfigInvariant environment tables)
    (accepted : Accepted environment request)
    (writeCase : WriteCase environment clock tables request after)
    (apart : EditApart environment tables request) (inScale : InScale tables) : InScale after := by
  have activeEq : ∀ {active}, tables.active = some active → after.active = some active :=
    fun found => writeCase.active_eq invariant accepted found
  have keeps := writeCase.keeps invariant accepted
  cases writeCase with
  | publish active found hash result =>
      intro other otherFound source sourceMember category member key
      rw [activeEq found, Option.some.injEq] at otherFound
      subst otherFound
      rw [result] at member
      rcases List.mem_map.mp member with ⟨row, rowMember, rfl⟩
      rw [key_presentedBy] at key
      cases requested : Table.get CategoryConfigInput.key request.categories row.key with
      | none =>
          unfold presentedBy
          rw [requested]
          exact inScale active found source sourceMember row rowMember key
      | some item =>
          have itemMember := Table.mem_of_get requested
          have itemKey := Table.key_of_get requested
          rw [budgetLimit_presentedBy accepted.valid.uniqueKeys itemMember itemKey.symm]
          exact apart active found hash source sourceMember item itemMember (itemKey.trans key)
  | unchanged active pending found hash pendingFound pendingHash result =>
      rw [result]
      exact inScale
  | first empty result =>
      have selected := selectRules_spec invariant.wellFormed accepted.valid
      have isNew : newVersion environment clock (selection environment tables request).1 request
          true ∈ after.configVersions := by
        rw [result]
        exact List.mem_append_right _ (List.mem_singleton.mpr rfl)
      refine inScale_of_snapshot (keeps.shape.active_eq isNew rfl) accepted.valid ?_
      intro source sourceMember category member key
      rw [result] at member
      rcases selected.created category member with old | ⟨item, itemMember, itemKey, shown⟩
      · rw [invariant.unused empty] at old
        cases old
      · have same : item = source := List.inj_on_of_nodup_map accepted.valid.uniqueKeys itemMember
          sourceMember (itemKey.trans key)
        rw [← shown, same]
        rfl
  | pending active found hash result =>
      have selected := selectRules_spec invariant.wellFormed accepted.valid
      intro other otherFound source sourceMember category member key
      rw [activeEq found, Option.some.injEq] at otherFound
      subst otherFound
      -- The category of an active item was there before, and keys are unique.
      rcases (invariant.wellFormed.sound active (ConfigTables.active_mem found).1).exists_row
        sourceMember with ⟨row, rowMember, matched⟩
      have rowFound := (linkedRule_eq_some_iff.mp (mem_rulesForConfig.mp rowMember).2).2.1
      have existing : row.category ∈ tables.categories := Table.mem_of_get rowFound
      have kept : row.category ∈ after.categories := by
        rw [result]
        exact selected.appends.categories.subset existing
      have same : category = row.category :=
        List.inj_on_of_nodup_map keeps.wellFormed.categoryKeys member kept
          (key.trans matched.key.symm)
      rw [same]
      exact inScale active found source sourceMember row.category existing matched.key

/-! ## Steps -/

/-- A call that is an accepted edit keeps its budgets apart from the active snapshot. -/
def Event.KeepsScale (environment : Environment) (database : Database) (event : Event) : Prop :=
  ∀ raw token request committed response,
    (event.call = .putConfig raw token ∨ event.call = .putConfigChecked raw token) →
    raw.validate = some request →
    event.outcome environment database = .ok (committed, response) →
    EditApart environment database.config request

theorem PutResult.inScale {ifMatch : Option Text} {checkExpected : Bool}
    {expectedBaseHash : Option Text} {view : ConfigView} {session : ConfigTables}
    (invariant : ConfigInvariant environment database.config)
    (result : PutResult environment clock database request ifMatch checkExpected expectedBaseHash
      committed view session) (apart : EditApart environment database.config request)
    (inScale : InScale database.config) : InScale committed.config := by
  rw [result.committed]
  have keeps := result.written.keeps invariant result.accepted
  exact (result.written.inScale invariant result.accepted apart inScale).commit
    keeps.wellFormed.published

theorem CommitCase.inScale {runId : Nat} {request : RefreshCommitRequest} {view : RefreshRunView}
    (invariant : ConfigInvariant environment database.config)
    (commitCase : CommitCase environment clock database runId request committed view)
    (inScale : InScale database.config) : InScale committed.config := by
  cases commitCase with
  | replay run found state count accounts result answer =>
      rw [result]
      exact inScale
  | new run config tables ledger runId_eq published answer =>
      have member := (published.committable.target invariant).1
      rw [published.configEq]
      rcases activate_cases invariant member published.activates with ⟨_, rfl⟩ | ⟨pending, rfl⟩
      · rw [invariant.commit_eq]
        exact inScale
      · have keeps := invariant.activated member pending clock.now
        have valid := (invariant.wellFormed.sound config member).valid
        refine InScale.commit keeps.wellFormed.published ?_
        have isActive : (activated clock.now database.config config).active =
            some (promote clock.now config) := by
          refine keeps.shape.active_eq (List.mem_map_of_mem member) ?_
          simp [promote, pending]
        have sameSource : (promote clock.now config).sourceConfig = config.sourceConfig := by
          simp [promote, pending]
        refine inScale_of_snapshot isActive (sameSource ▸ valid) ?_
        intro source sourceMember category categoryMember key
        rw [sameSource] at sourceMember
        rcases List.mem_map.mp categoryMember with ⟨row, _, rfl⟩
        rw [key_presentedBy] at key
        exact budgetLimit_presentedBy valid.uniqueKeys sourceMember key

/-- A step that keeps the scale leaves every budget in scale. -/
theorem InScale.next (invariant : ConfigInvariant environment database.config)
    (inScale : InScale database.config) {event : Event}
    (keeps : event.KeepsScale environment database) :
    InScale (event.next environment database).config := by
  cases outcome : event.outcome environment database with
  | error error =>
      rw [Event.next_of_error outcome]
      exact inScale
  | ok result =>
      rcases result with ⟨after, response⟩
      rw [Event.next_of_ok outcome]
      cases Event.succeeds invariant outcome with
      | putConfig validated result =>
          exact result.inScale invariant (keeps _ _ _ _ _ (Or.inl rfl) validated outcome) inScale
      | putConfigChecked validated result =>
          exact result.inScale invariant (keeps _ _ _ _ _ (Or.inr rfl) validated outcome) inScale
      | beginRefresh validated begun =>
          cases begun with
          | replay existing config found hash configFound result answer =>
              rw [result]
              exact inScale
          | new target missing begun result answer =>
              rw [result]
              exact inScale
      | uploadBatch validated limits uploaded =>
          cases uploaded with
          | replay run existing runFound found hash checksum result answer =>
              rw [result]
              exact inScale
          | new run config runId_eq uploaded result answer =>
              rw [result]
              exact inScale
      | commitRefresh validated commitCase => exact commitCase.inScale invariant inScale

/-! ## Runs -/

/-- Every step of a history keeps the scale. -/
def HistoryKeepsScale (environment : Environment) (history : List Event) : Prop :=
  ∀ before event after, history = before ++ event :: after →
    event.KeepsScale environment ((service environment).run before)

theorem inScale_run {history : List Event} (keeps : HistoryKeepsScale environment history) :
    InScale ((service environment).run history).config := by
  induction history using List.reverseRecOn with
  | nil =>
      intro active found
      cases found
  | append_singleton history event induction =>
      have earlier : HistoryKeepsScale environment history := by
        intro before other after split
        exact keeps before other (after ++ [event]) (by simp [split])
      rw [Machine.run_concat]
      exact (induction earlier).next (invariant_run environment history).config
        (keeps history event [] rfl)

/-- The repair leaves a database alone exactly when its budgets are in scale, and they are after
every history whose accepted edits keep the scale. -/
theorem healthy_databases_untouched_iff (environment : Environment) (conversions : Conversions)
    (history : List Event) :
    (((service environment).run history).repairSqliteBudgets conversions =
        .ok ((service environment).run history) ↔
      InScale ((service environment).run history).config) ∧
    (HistoryKeepsScale environment history →
      ((service environment).run history).repairSqliteBudgets conversions =
        .ok ((service environment).run history)) := by
  rcases repairSqliteBudgets_spec conversions (invariant_run environment history).config with
    ⟨after, computed, untouched, changed⟩
  have iff : ((service environment).run history).repairSqliteBudgets conversions =
        .ok ((service environment).run history) ↔
      InScale ((service environment).run history).config := by
    rw [computed]
    constructor
    · intro same
      by_contra outside
      exact (changed outside).2.2.2 (congrArg Database.config (Except.ok.inj same))
    · intro inScale
      rw [untouched inScale]
  exact ⟨iff, fun keeps => iff.mpr (inScale_run keeps)⟩

/-- The weekly budget of 100 is edited to 150, and the edit is accepted. -/
def Sample.adjusted : List Event :=
  Sample.configured ++ [Sample.edit (Decimal.ofNat 150) 7]

theorem healthy_databases_untouched_adjusted :
    (Event.outcome .transparent ((service .transparent).run Sample.configured)
        (Sample.edit (Decimal.ofNat 150) 7)).isOk ∧
      ((service .transparent).run Sample.adjusted).repairSqliteBudgets
          MoneyScaleRepair.Sample.ascii = .ok ((service .transparent).run Sample.adjusted) := by
  refine ⟨by decide +kernel, (healthy_databases_untouched_iff .transparent
    MoneyScaleRepair.Sample.ascii Sample.adjusted).2 ?_⟩
  intro before event after split
  rcases List.cons_eq_append_iff.mp split with ⟨rfl, rest⟩ | ⟨before, rfl, rest⟩
  · intro raw token request committed response _ _ _ active found
    cases found
  · rcases List.cons_eq_append_iff.mp rest with ⟨rfl, rest⟩ | ⟨before, rfl, rest⟩
    · cases rest
      intro raw token request committed response call validated _ active found _ source
        sourceMember item itemMember _
      have budgets : ((service .transparent).run Sample.configured).config.active.all
          (fun active => active.sourceConfig.categories.all fun source =>
            decide (source.budgetLimit = Decimal.ofNat 100)) = true := by
        decide +kernel
      have edited : ((Sample.request (Decimal.ofNat 150) 7).validate.all fun request =>
          request.categories.all fun item => decide (item.budgetLimit = Decimal.ofNat 150)) =
            true := by
        decide +kernel
      have apart : Apart (Decimal.ofNat 100) (Decimal.ofNat 150) := by
        intro _ _
        decide +kernel
      rcases call with call | call
      · cases call
        rw [validated] at edited
        have old := List.all_eq_true.mp ((Option.all_eq_true ..).mp budgets active found) source
          sourceMember
        have new := List.all_eq_true.mp edited item itemMember
        rw [of_decide_eq_true old, of_decide_eq_true new]
        exact apart
      · cases call
    · simp at rest

/-- A budget of 1, and an edit of the live configuration to a budget of 10000. -/
def Sample.raised : List Event :=
  [⟨.putConfig (Sample.request (Decimal.ofNat 1) 7) none, Sample.clock⟩,
    ⟨.putConfig (Sample.request (Decimal.ofNat 10000) 7)
      (some (editHashForRequest .transparent (Sample.request (Decimal.ofNat 1) 7))), Sample.clock⟩,
    Sample.monthBegin, Sample.emptyCommit 1]

/-- The repair takes the edit back and drops the sync state. -/
theorem healthy_database_repaired :
    ¬∀ history, ((service .transparent).run history).repairSqliteBudgets
        MoneyScaleRepair.Sample.ascii = .ok ((service .transparent).run history) := by
  intro untouched
  have live : ((service .transparent).run Sample.raised).syncState.isSome = true := by
    decide +kernel
  have dropped : (((service .transparent).run Sample.raised).repairSqliteBudgets
      MoneyScaleRepair.Sample.ascii).map
        (fun after => (after.config.categories.map Category.budgetLimit, after.syncState)) =
      .ok ([⟨false, 1, 0⟩], none) := by
    decide +kernel
  rw [untouched Sample.raised] at dropped
  simp only [Except.map, Except.ok.injEq, Prod.mk.injEq] at dropped
  rw [dropped.2] at live
  cases live

end RollingBudget
