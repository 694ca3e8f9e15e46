import RollingBudget.Configuration.Hashes
import RollingBudget.Refresh.Errors
import RollingBudget.System.Invariant

namespace RollingBudget

open ConfigService RefreshService Outcome

/-! Each version is stored as a document, as links to shared rules and as hashes. The
three agree in every reachable state, so that no lookup by key misses. -/

variable {environment : Environment} {database : Database}

/-! ## The stored representations of a version -/

/-- A link stands for a category of the stored request: the category has its key and the
rule its semantics and its hash. -/
def Linked (environment : Environment) (tables : ConfigTables) (item : CategoryConfigInput)
    (link : ConfigVersionRule) : Prop :=
  ∃ category ∈ tables.categories, ∃ rule ∈ tables.ruleVersions,
    category.id = link.categoryId ∧ category.key = item.key ∧ rule.id = link.ruleVersionId ∧
      rule.categoryId = category.id ∧ rule.lookbackDays = item.lookbackDays ∧
      rule.classificationInstruction = item.classificationInstruction ∧
      rule.isEnabled = item.enabled ∧ rule.ruleHash = ruleHash environment item

/-- The document, the links and the hashes of every version agree. -/
structure Consistent (environment : Environment) (tables : ConfigTables) : Prop where
  links : ∀ config ∈ tables.configVersions,
    List.Forall₂ (Linked environment tables) config.sourceConfig.categories
      (tables.linksOf config.id)
  semanticHash : ∀ config ∈ tables.configVersions,
    semanticHashForConfig environment tables config = config.configHash
  ruleNumbers : ∀ category ∈ tables.categories,
    (tables.rulesOf category.id).map RuleVersion.version =
      List.range' 1 (tables.rulesOf category.id).length
  ruleHashes : ∀ category ∈ tables.categories,
    ((tables.rulesOf category.id).map RuleVersion.ruleHash).Nodup
  reused : ∀ left ∈ tables.ruleVersions, ∀ right ∈ tables.ruleVersions,
    left.categoryId = right.categoryId → left.lookbackDays = right.lookbackDays →
      left.classificationInstruction = right.classificationInstruction →
        left.isEnabled = right.isEnabled → left = right

theorem WellFormed.consistent {tables : ConfigTables} (wellFormed : WellFormed environment tables)
    (injective : Function.Injective environment.sha256) : Consistent environment tables := by
  refine ⟨?_, fun config member => (wellFormed.sound config member).semanticHashForConfig_eq,
    fun category _ => wellFormed.ruleNumbers category.id,
    fun category _ => wellFormed.ruleHashes category.id, ?_⟩
  · intro config member
    refine (wellFormed.sound config member).represents.imp ?_
    rintro item link ⟨row, joined, matching⟩
    have same := matching.semantics wellFormed injective joined
    rcases linkedRule_eq_some_iff.mp joined with ⟨ruleFound, categoryFound, _⟩
    exact ⟨row.category, Table.mem_of_get categoryFound, row.rule, Table.mem_of_get ruleFound,
      Table.key_of_get categoryFound, matching.key, Table.key_of_get ruleFound, matching.owner,
      same.lookbackDays, same.classificationInstruction, same.enabled, matching.hash⟩
  · intro left leftMember right rightMember owner lookbackDays instruction enabled
    rcases wellFormed.written left leftMember with
      ⟨category, categoryMember, leftOwner, source, _, key, days, text, flag, hash⟩
    rcases wellFormed.written right rightMember with
      ⟨category', categoryMember', rightOwner, source', _, key', days', text', flag', hash'⟩
    have sameCategory : category = category' :=
      List.inj_on_of_nodup_map wellFormed.categoryIds categoryMember categoryMember'
        (leftOwner.trans (owner.trans rightOwner.symm))
    have sameHash : left.ruleHash = right.ruleHash := by
      rw [hash, hash']
      refine (ruleHash_eq_iff injective).mpr ⟨?_, ?_, ?_, ?_⟩
      · rw [key, key', sameCategory]
      · rw [← days, ← days', lookbackDays]
      · rw [← text, ← text', instruction]
      · rw [← flag, ← flag', enabled]
    refine List.inj_on_of_nodup_map (wellFormed.ruleHashes right.categoryId) ?_ ?_ sameHash
    · exact List.mem_filter.mpr ⟨leftMember, decide_eq_true owner⟩
    · exact List.mem_filter.mpr ⟨rightMember, decide_eq_true rfl⟩

/-! ## Lookups by key -/

def ServiceError.IsKeyError : ServiceError → Prop
  | .keyError _ => True
  | _ => False

abbrev NoKeyError {α : Type} (outcome : Except ServiceError α) : Prop :=
  Avoids ServiceError.IsKeyError outcome

private theorem noKeyError_editableSnapshot (tables : ConfigTables) (config : ConfigVersion) :
    NoKeyError (editableSnapshotForConfig tables config) := by
  unfold editableSnapshotForConfig activeSnapshot
  split
  · exact avoids_orRaise id _
  · exact avoids_orRaise id _

private theorem noKeyError_editHash (tables : ConfigTables) (config : ConfigVersion) :
    NoKeyError (editHashForConfig environment tables config) :=
  avoids_bind (noKeyError_editableSnapshot tables config) fun _ _ => avoids_pure _

private theorem noKeyError_applyPresentation (tables : ConfigTables) (config : ConfigVersion) :
    NoKeyError (applyConfigPresentation tables config) :=
  avoids_applyPresentation (fun _ => id) (noKeyError_editableSnapshot tables config)

private theorem noKeyError_checkBase (tables : ConfigTables) (ifMatch expected : Option Text)
    (checkExpected : Bool) :
    NoKeyError (checkBase environment tables ifMatch checkExpected expected) := by
  have compare : ∀ config error, ¬ServiceError.IsKeyError error → ∀ text : Text,
      NoKeyError (do
        let current ← editHashForConfig environment tables config
        require (text.stripQuotes = current) error) :=
    fun config _ fine _ => avoids_bind (noKeyError_editHash tables config) fun _ _ =>
      avoids_require fine
  unfold checkBase checkExpectedBase checkIfMatch
  split
  · split
    · exact avoids_pure _
    · exact avoids_throw id
    · exact avoids_throw id
    · exact compare _ _ id _
  · split
    · exact avoids_throw id
    · exact compare _ _ id _
    · exact avoids_throw id
    · exact avoids_pure _

/-- The keys of a request are linked by the active version whose semantics it has. -/
private theorem noKeyError_writeConfig {clock : Clock} {tables : ConfigTables}
    {request : ConfigPutRequest} (wellFormed : WellFormed environment tables)
    (injective : Function.Injective environment.sha256) :
    NoKeyError (writeConfig environment clock tables request) := by
  unfold writeConfig
  split
  · next active same =>
    rcases Option.filter_eq_some_iff.mp same with ⟨found, hash⟩
    have sound := wellFormed.sound active (ConfigTables.active_mem found).1
    rw [decide_eq_true_eq, sound.semanticHashForConfig_eq, sound.hash] at hash
    rw [publishEdits_ok fun key member => ?_]
    · exact avoids_ok _
    · exact sound.perm_keys.mem_iff.mpr
        ((perm_keys_of_configHash_eq injective hash).mem_iff.mpr member)
  · refine avoids_bind ?_ fun unchanged _ => ?_
    · unfold pendingUnchanged
      split
      · exact avoids_pure _
      · split
        · exact avoids_bind (noKeyError_editHash tables _) fun _ _ => avoids_pure _
        · exact avoids_pure _
    · split
      · exact avoids_pure _
      · unfold createVersion
        dsimp only
        split
        · exact noKeyError_applyPresentation _ _
        · exact avoids_pure _

private theorem noKeyError_putConfigLocked {clock : Clock} {request : ConfigPutRequest}
    {ifMatch expected : Option Text} {checkExpected : Bool} (valid : request.Valid)
    (invariant : ConfigInvariant environment database.config)
    (injective : Function.Injective environment.sha256) :
    NoKeyError (putConfigLocked environment clock database request ifMatch checkExpected
      expected) := by
  unfold putConfigLocked
  refine avoids_bind ?_ fun _ zoneChecked => ?_
  · unfold validateTimezone
    split
    · exact avoids_ok _
    · exact avoids_throw id
    · exact avoids_throw id
  refine avoids_bind (avoids_require id) fun _ currency => ?_
  refine avoids_bind (noKeyError_checkBase _ _ _ _) fun _ _ => ?_
  refine avoids_bind (noKeyError_writeConfig invariant.wellFormed injective) fun session written => ?_
  have accepted : Accepted environment request :=
    ⟨valid, zone_of_validateTimezone zoneChecked, require_eq_ok.mp currency⟩
  have writeCase := writeConfig_cases invariant.wellFormed invariant.shape accepted written
  rcases (writeCase.keeps invariant accepted).wellFormed.getConfig_ok database.syncState with
    ⟨view, read, _⟩
  rw [read]
  exact avoids_pure _

private theorem noKeyError_beginRefresh {clock : Clock} {request : RefreshBeginRequest}
    {idempotencyKey : Text} {maxBatchItems maxRequestBytes : Nat} :
    NoKeyError (beginRefresh environment clock database request idempotencyKey maxBatchItems
      maxRequestBytes) := by
  apply avoids_beginRefresh fun _ => id
  intro _ target _
  exact avoids_bind (avoids_orRaise id _) fun _ _ => avoids_require id

private theorem noKeyError_checkItem (tables : RefreshTables) (run : RefreshRun)
    (config : ConfigVersion) (allowed : List (Text × Nat × Nat)) (seen : List Identity)
    (item : TransactionUpload) : NoKeyError (checkItem tables run config allowed seen item) := by
  unfold checkItem
  refine avoids_bind (avoids_require id) fun _ _ => avoids_bind (avoids_require id) fun _ _ => ?_
  refine avoids_bind (avoids_require id) fun _ _ => avoids_bind (avoids_require id) fun _ _ => ?_
  refine avoids_bind (avoids_require id) fun _ _ => avoids_bind (avoids_require id) fun _ _ => ?_
  exact avoids_pure _

private theorem noKeyError_uploadBatch {clock : Clock} {request : RefreshBatchRequest}
    {runId : Nat} {batchIndex : Int} {maxBatchItems maxRequestBytes : Nat} :
    NoKeyError (uploadBatch environment clock database runId batchIndex request maxBatchItems
      maxRequestBytes) := by
  unfold uploadBatch
  refine avoids_bind (avoids_require id) fun _ _ => avoids_bind (avoids_require id) fun _ _ => ?_
  refine avoids_bind (avoids_require id) fun _ _ => avoids_bind (avoids_orRaise id _) fun run _ => ?_
  split
  · exact avoids_bind (avoids_require id) fun _ _ => avoids_pure _
  · refine avoids_bind (avoids_require id) fun _ _ => avoids_bind (avoids_require id) fun _ _ => ?_
    refine avoids_bind (avoids_orRaise id _) fun config _ => ?_
    exact avoids_bind (avoids_foldlM (noKeyError_checkItem _ _ _ _) _ _) fun _ _ => avoids_pure _

private theorem noKeyError_commitRefresh {clock : Clock} {request : RefreshCommitRequest}
    {runId : Nat} : NoKeyError (commitRefresh environment clock database runId request) := by
  apply avoids_commitRefresh (fun _ => id) fun config _ => noKeyError_editableSnapshot _ config
  intro run batches ledger _
  apply avoids_bind (avoids_foldlM ?_ _ _) fun _ _ => avoids_pure _
  intro _ _
  exact avoids_bind (avoids_orRaise id _) fun _ _ => avoids_pure _

theorem SystemInvariant.noKeyError (invariant : SystemInvariant environment database)
    (injective : Function.Injective environment.sha256) (event : Event) :
    NoKeyError (event.outcome environment database) := by
  unfold Event.outcome
  cases event.call with
  | putConfig raw ifMatch =>
      refine avoids_bind (avoids_orRaise id _) fun request validated => ?_
      have valid := ConfigPutRequest.valid_of_validate (orRaise_eq_ok.mp validated)
      exact avoids_bind (noKeyError_putConfigLocked valid invariant.config injective)
        fun _ _ => avoids_pure _
  | putConfigChecked raw expectedConfigHash =>
      refine avoids_bind (avoids_orRaise id _) fun request validated => ?_
      have valid := ConfigPutRequest.valid_of_validate (orRaise_eq_ok.mp validated)
      exact avoids_bind (noKeyError_putConfigLocked valid invariant.config injective)
        fun _ _ => avoids_pure _
  | beginRefresh raw idempotencyKey maxBatchItems maxRequestBytes =>
      refine avoids_bind (avoids_orRaise id _) fun request _ => ?_
      exact avoids_bind noKeyError_beginRefresh fun _ _ => avoids_pure _
  | uploadBatch runId batchIndex raw maxBatchItems maxRequestBytes =>
      refine avoids_bind (avoids_orRaise id _) fun request _ => ?_
      exact avoids_bind noKeyError_uploadBatch fun _ _ => avoids_pure _
  | commitRefresh runId raw =>
      refine avoids_bind (avoids_orRaise id _) fun request _ => ?_
      exact avoids_bind noKeyError_commitRefresh fun _ _ => avoids_pure _

/-- With an active version the dashboard fails only on a window before the first day. -/
theorem ConfigInvariant.getDashboard_error (invariant : ConfigInvariant environment database.config)
    {active : ConfigVersion} (found : database.config.active = some active) (clock : Clock)
    (asOf : Option Date) (staleAfterHours : Nat) :
    Avoids (· ≠ ServiceError.overflowError)
      (DashboardService.getDashboard environment clock database asOf staleAfterHours) := by
  have member := (ConfigTables.active_mem found).1
  unfold DashboardService.getDashboard
  rw [found, orRaise_some, ok_bind,
    require_of (invariant.wellFormed.sound active member).zone, ok_bind]
  refine avoids_bind (avoids_mapM (fun row => ?_) _) fun _ _ => ?_
  · exact avoids_bind (avoids_orRaise (fun different => different rfl) _) fun _ _ => avoids_pure _
  · rw [invariant.wellFormed.editHash_eq member, ok_bind]
    exact avoids_pure _

/-- A version keeps its document, its links and its stored hash, and a rule row is never
changed. -/
structure Kept (before after : ConfigTables) : Prop where
  versions : ∀ config ∈ before.configVersions, ∃ config' ∈ after.configVersions,
    config'.id = config.id ∧ config'.sourceConfig = config.sourceConfig ∧
      config'.configHash = config.configHash ∧ after.linksOf config.id = before.linksOf config.id
  rules : ∀ rule ∈ before.ruleVersions, rule ∈ after.ruleVersions

theorem WellFormed.kept {before after : ConfigTables} (wellFormed : WellFormed environment before)
    (grows : before.Extends after) : Kept before after := by
  refine ⟨fun config member => ?_, fun rule member => ?_⟩
  · have found := wellFormed.find_version member
    rcases grows.configVersion found with ⟨config', found', same⟩
    exact ⟨config', Table.mem_of_get found', ConfigVersion.id_of_frozen same,
      ConfigVersion.sourceConfig_of_frozen same, ConfigVersion.configHash_of_frozen same,
      grows.links found⟩
  · exact Table.mem_of_get (grows.ruleVersion (Table.get_of_mem wellFormed.ruleIds member))

/-- The stored representations of a configuration agree in every reachable state, later
calls keep them, and no lookup by key fails. -/
theorem representations_consistent (environment : Environment)
    (injective : Function.Injective environment.sha256) (history : List Event) :
    Consistent environment ((service environment).run history).config ∧
      (∀ continuation, Kept ((service environment).run history).config
        ((service environment).run (history ++ continuation)).config) ∧
      (∃ view, getConfig environment ((service environment).run history).config
        ((service environment).run history).syncState = .ok view) ∧
      (∀ clock asOf staleAfterHours error,
        DashboardService.getDashboard environment clock ((service environment).run history) asOf
          staleAfterHours = .error error →
        error = .overflowError ∨ (((service environment).run history).config.active = none ∧
          error.code = some .configRequired)) ∧
      ∀ (event : Event) (key : Text), event.outcome environment ((service environment).run history) ≠
        .error (.keyError key) := by
  have invariant := invariant_run environment history
  have wellFormed := invariant.config.wellFormed
  refine ⟨wellFormed.consistent injective, ?_, ?_, ?_, ?_⟩
  · intro continuation
    exact wellFormed.kept (extends_run environment history continuation).config
  · rcases wellFormed.getConfig_ok ((service environment).run history).syncState with ⟨view, read, _⟩
    exact ⟨view, read⟩
  · intro clock asOf staleAfterHours error raised
    cases found : ((service environment).run history).config.active with
    | none =>
        unfold DashboardService.getDashboard at raised
        rw [found] at raised
        cases raised
        exact Or.inr ⟨rfl, rfl⟩
    | some active =>
        exact Or.inl (not_not.mp (invariant.config.getDashboard_error found clock asOf
          staleAfterHours error raised))
  · intro event key raised
    exact invariant.noKeyError injective event _ raised trivial

theorem representations_consistent_configured :
    ((service .transparent).run Sample.configured).config.configVersions.length = 1 ∧
      Consistent .transparent ((service .transparent).run Sample.configured).config :=
  ⟨by decide +kernel,
    (representations_consistent .transparent Function.injective_id Sample.configured).1⟩

end RollingBudget
