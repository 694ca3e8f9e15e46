import RollingBudget.System.Invariant

namespace RollingBudget

open Sorting ConfigService RefreshService

/-! The configuration a client sees stays coherent over every history: one active
version, at most one pending one, and live rows that belong to the active one. -/

variable {environment : Environment} {database committed : Database} {event : Event}

def ConfigTables.withStatus (tables : ConfigTables) (status : ConfigVersionStatus) :
    List ConfigVersion :=
  tables.configVersions.filter fun config => config.status = status

@[simp] theorem ConfigTables.mem_withStatus {tables : ConfigTables}
    {status : ConfigVersionStatus} {config : ConfigVersion} :
    config ∈ tables.withStatus status ↔ config ∈ tables.configVersions ∧ config.status = status := by
  simp [withStatus]

/-- The numbers of the versions that are active after a step and were not before. -/
def activations (environment : Environment) (database : Database) (event : Event) : List Nat :=
  (((event.next environment database).config.withStatus .active).filter fun config =>
    config.id ∉ (database.config.withStatus .active).map ConfigVersion.id).map
      ConfigVersion.version

/-- What the tables say about the active and the pending version. -/
structure Coherent (environment : Environment) (database : Database) : Prop where
  oneActive : (database.config.withStatus .active).length ≤ 1
  onePending : (database.config.withStatus .pending).length ≤ 1
  someActive : database.config.configVersions ≠ [] → database.config.withStatus .active ≠ []
  pendingLater : ∀ active ∈ database.config.withStatus .active,
    ∀ pending ∈ database.config.withStatus .pending, active.version < pending.version ∧
      semanticHashForConfig environment database.config active ≠
        semanticHashForConfig environment database.config pending
  versions : (database.config.configVersions.map ConfigVersion.version).Nodup
  syncState : ∀ syncState, database.syncState = some syncState →
    ∃ active ∈ database.config.withStatus .active, syncState.configVersionId = active.id ∧
      ∃ run ∈ database.refresh.refreshRuns, run.id = syncState.lastRefreshRunId ∧
        run.state = .committed ∧ run.configVersionId = active.id
  transactions : ∀ transaction ∈ database.ledger.transactions,
    ∃ active ∈ database.config.withStatus .active, transaction.configVersionId = active.id
  links : ∀ link ∈ database.ledger.transactionCategories,
    ∃ active ∈ database.config.withStatus .active, link.configVersionId = active.id ∧
      (⟨active.id, link.categoryId, link.ruleVersionId⟩ : ConfigVersionRule) ∈
        database.config.configVersionRules ∧
      ∃ rule ∈ database.config.ruleVersions, rule.id = link.ruleVersionId ∧
        rule.categoryId = link.categoryId ∧ rule.isEnabled = true

/-! ## The active version -/

theorem ConfigTables.withStatus_active_head (tables : ConfigTables) :
    (tables.withStatus .active).head? = tables.active :=
  List.head?_filter

private theorem length_withStatus {tables : ConfigTables} {status : ConfigVersionStatus}
    (nodup : (tables.configVersions.map ConfigVersion.id).Nodup)
    (one : ∀ left ∈ tables.configVersions, ∀ right ∈ tables.configVersions,
      left.status = status → right.status = status → left = right) :
    (tables.withStatus status).length ≤ 1 := by
  have distinct : (tables.withStatus status).Nodup := (List.Nodup.of_map _ nodup).filter _
  match rows : tables.withStatus status with
  | [] => simp
  | [_] => simp
  | first :: second :: rest =>
      rw [rows] at distinct
      have member : ∀ row ∈ first :: second :: rest,
          row ∈ tables.configVersions ∧ row.status = status := by
        rw [← rows]
        exact fun row => ConfigTables.mem_withStatus.mp
      have firstRow := member first (by simp)
      have secondRow := member second (by simp)
      have same := one first firstRow.1 second secondRow.1 firstRow.2 secondRow.2
      simp [same] at distinct

theorem ConfigInvariant.withStatus_active {tables : ConfigTables}
    (invariant : ConfigInvariant environment tables) :
    tables.withStatus .active = tables.active.toList := by
  have short := length_withStatus invariant.wellFormed.versionIds invariant.shape.oneActive
  rw [← tables.withStatus_active_head]
  match rows : tables.withStatus .active with
  | [] => rfl
  | [_] => rfl
  | _ :: _ :: _ => simp [rows] at short

theorem ConfigInvariant.exists_active {tables : ConfigTables}
    (invariant : ConfigInvariant environment tables) {id : Nat}
    (known : tables.active.map ConfigVersion.id = some id) :
    ∃ active ∈ tables.withStatus .active, active.id = id := by
  rcases Option.map_eq_some_iff.mp known with ⟨active, found, same⟩
  refine ⟨active, ?_, same⟩
  rw [invariant.withStatus_active, found]
  simp

theorem SystemInvariant.coherent (invariant : SystemInvariant environment database) :
    Coherent environment database := by
  have config := invariant.config
  have wellFormed := config.wellFormed
  have semantic : ∀ row ∈ database.config.configVersions,
      semanticHashForConfig environment database.config row = row.configHash :=
    fun row member => (wellFormed.sound row member).semanticHashForConfig_eq
  refine ⟨length_withStatus wellFormed.versionIds config.shape.oneActive,
    length_withStatus wellFormed.versionIds config.shape.onePending, ?_, ?_,
    wellFormed.versionNumbers, ?_, ?_, ?_⟩
  · intro nonempty
    rcases config.shape.someActive nonempty with ⟨active, member, isActive⟩
    exact List.ne_nil_of_mem (ConfigTables.mem_withStatus.mpr ⟨member, isActive⟩)
  · intro active activeMember pending pendingMember
    rcases ConfigTables.mem_withStatus.mp activeMember with ⟨activeRow, isActive⟩
    rcases ConfigTables.mem_withStatus.mp pendingMember with ⟨pendingRow, isPending⟩
    rw [semantic active activeRow, semantic pending pendingRow]
    exact config.shape.pendingLater active activeRow pending pendingRow isActive isPending
  · intro syncState found
    rcases invariant.live.sync syncState found with ⟨owner, run, runFound, state, target⟩
    rcases config.exists_active owner with ⟨active, member, same⟩
    exact ⟨active, member, same.symm, run, Table.mem_of_get runFound, Table.key_of_get runFound,
      state, target.trans same.symm⟩
  · intro transaction member
    rcases config.exists_active (invariant.live.transactions transaction member) with
      ⟨active, activeMember, same⟩
    exact ⟨active, activeMember, same.symm⟩
  · intro link member
    rcases invariant.live.links link member with ⟨owner, row, rowMember, category, rule⟩
    rcases config.exists_active owner with ⟨active, activeMember, same⟩
    rcases List.mem_filter.mp rowMember with ⟨inRules, enabled⟩
    rcases mem_rulesForConfig.mp inRules with ⟨linked, joined⟩
    rcases linkedRule_eq_some_iff.mp joined with ⟨ruleFound, categoryFound, _⟩
    rcases List.mem_filter.mp linked with ⟨linkMember, owns⟩
    have activeRow : active ∈ database.config.configVersions := List.mem_of_mem_filter activeMember
    rw [← same] at inRules
    rcases (wellFormed.sound active activeRow).exists_item inRules with ⟨item, _, matching⟩
    refine ⟨active, activeMember, same.symm, ?_, row.rule, Table.mem_of_get ruleFound, rule,
      matching.owner.trans category, enabled⟩
    have equal : (⟨active.id, link.categoryId, link.ruleVersionId⟩ : ConfigVersionRule) =
        row.link := by
      refine (ConfigVersionRule.mk.injEq ..).mpr ⟨?_, ?_, ?_⟩
      · exact same.trans (of_decide_eq_true owns).symm
      · exact category.symm.trans (Table.key_of_get categoryFound)
      · exact rule.symm.trans (Table.key_of_get ruleFound)
    rw [equal]
    exact linkMember

/-! ## The sequence of activations -/

/-- Once a version is active, a step keeps it active or replaces it by a later one. -/
theorem Succeeds.active_step {response : Response}
    (succeeds : Succeeds environment database event committed response)
    (invariant : SystemInvariant environment database) {active : ConfigVersion}
    (found : database.config.active = some active) :
    ∃ active', committed.config.active = some active' ∧
      ((active'.id = active.id ∧ active'.version = active.version) ∨
        active.version < active'.version) := by
  cases succeeds with
  | putConfig validated result =>
      exact ⟨active, result.active_eq invariant.config found, Or.inl ⟨rfl, rfl⟩⟩
  | putConfigChecked validated result =>
      exact ⟨active, result.active_eq invariant.config found, Or.inl ⟨rfl, rfl⟩⟩
  | beginRefresh validated result =>
      cases result with
      | replay existing config existingFound hash configFound result answer =>
          exact ⟨active, result ▸ found, Or.inl ⟨rfl, rfl⟩⟩
      | new target missing begun result answer =>
          exact ⟨active, result ▸ found, Or.inl ⟨rfl, rfl⟩⟩
  | uploadBatch validated limits result =>
      cases result with
      | replay run existing runFound batchFound hash checksum result answer =>
          exact ⟨active, result ▸ found, Or.inl ⟨rfl, rfl⟩⟩
      | new run config runId_eq uploaded result answer =>
          exact ⟨active, result ▸ found, Or.inl ⟨rfl, rfl⟩⟩
  | commitRefresh validated result =>
      cases result with
      | replay run runFound state count accounts result answer =>
          exact ⟨active, result ▸ found, Or.inl ⟨rfl, rfl⟩⟩
      | new run config tables ledger runId_eq published answer =>
          rcases published.active invariant.config with ⟨active', found', same⟩
          refine ⟨active', found', ?_⟩
          rw [ConfigVersion.id_of_frozen same, ConfigVersion.version_of_frozen same]
          rcases published.committable.target invariant.config with ⟨member, target⟩
          rcases target with ⟨_, pending, _⟩ | ⟨_, current⟩
          · rcases ConfigTables.active_mem found with ⟨activeMember, isActive⟩
            exact Or.inr (invariant.config.shape.pendingLater active activeMember config member
              isActive pending).1
          · rw [found] at current
            cases current
            exact Or.inl ⟨rfl, rfl⟩

theorem SystemInvariant.active_next (invariant : SystemInvariant environment database)
    (event : Event) {active : ConfigVersion} (found : database.config.active = some active) :
    ∃ active', (event.next environment database).config.active = some active' ∧
      ((active'.id = active.id ∧ active'.version = active.version) ∨
        active.version < active'.version) := by
  rcases event.next_cases invariant.config with unchanged | ⟨response, succeeds⟩
  · rw [unchanged]
    exact ⟨active, found, Or.inl ⟨rfl, rfl⟩⟩
  · exact succeeds.active_step invariant found

/-- A step activates at most the version that is active afterwards. -/
theorem SystemInvariant.mem_activations (invariant : SystemInvariant environment database)
    {number : Nat} :
    number ∈ activations environment database event ↔
      ∃ active, (event.next environment database).config.active = some active ∧
        active.version = number ∧ database.config.active.map ConfigVersion.id ≠ some active.id := by
  unfold activations
  rw [(invariant.next event).config.withStatus_active, invariant.config.withStatus_active]
  simp only [List.mem_map, List.mem_filter, Option.mem_toList, decide_eq_true_eq]
  constructor
  · rintro ⟨active, ⟨found, fresh⟩, rfl⟩
    refine ⟨active, found, rfl, fun same => fresh ?_⟩
    rcases Option.map_eq_some_iff.mp same with ⟨before, beforeFound, sameId⟩
    exact ⟨before, beforeFound, sameId⟩
  · rintro ⟨active, found, rfl, fresh⟩
    refine ⟨active, ⟨found, ?_⟩, rfl⟩
    rintro ⟨before, beforeFound, sameId⟩
    rw [beforeFound, Option.map_some, sameId] at fresh
    exact fresh rfl

theorem SystemInvariant.pairwise_activations (invariant : SystemInvariant environment database) :
    (activations environment database event).Pairwise (· < ·) := by
  unfold activations
  rw [(invariant.next event).config.withStatus_active]
  cases (event.next environment database).config.active with
  | none => simp
  | some active =>
      by_cases fresh : active.id ∉ (database.config.withStatus .active).map ConfigVersion.id <;>
        simp only [Option.toList_some, List.filter_cons, List.filter_nil, fresh] <;> simp

/-- Versions become active in increasing order, and the active one is the latest of them. -/
theorem activations_run (environment : Environment) (history : List Event) :
    ((service environment).collect (activations environment) history).Pairwise (· < ·) ∧
      ∀ number ∈ (service environment).collect (activations environment) history,
        ∃ active, ((service environment).run history).config.active = some active ∧
          number ≤ active.version := by
  induction history using List.reverseRecOn with
  | nil => simp
  | append_singleton history event induction =>
      have invariant := invariant_run environment history
      rcases induction with ⟨increasing, bounded⟩
      rw [Machine.collect_concat, Machine.run_concat]
      refine ⟨List.pairwise_append.mpr ⟨increasing, invariant.pairwise_activations, ?_⟩, ?_⟩
      · intro earlier earlierMember later laterMember
        rcases bounded earlier earlierMember with ⟨active, found, atMost⟩
        rcases invariant.mem_activations.mp laterMember with ⟨active', found', rfl, different⟩
        rcases invariant.active_next event found with ⟨next, nextFound, kept | larger⟩
        · rw [found'] at nextFound
          cases nextFound
          rw [found, Option.map_some, kept.1] at different
          exact absurd rfl different
        · rw [found'] at nextFound
          cases nextFound
          omega
      · intro number member
        rcases List.mem_append.mp member with old | new
        · rcases bounded number old with ⟨active, found, atMost⟩
          rcases invariant.active_next event found with ⟨active', found', kept | larger⟩
          · exact ⟨active', found', by omega⟩
          · exact ⟨active', found', by omega⟩
        · rcases invariant.mem_activations.mp new with ⟨active, found, rfl, _⟩
          exact ⟨active, found, Nat.le_refl _⟩

/-- Every reachable state is coherent, and versions become active in increasing order. -/
theorem configurations_coherent (environment : Environment) (history : List Event) :
    Coherent environment ((service environment).run history) ∧
      ((service environment).collect (activations environment) history).Pairwise (· < ·) :=
  ⟨(invariant_run environment history).coherent, (activations_run environment history).1⟩

end RollingBudget
