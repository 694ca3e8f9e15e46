import RollingBudget.Guards.Writes

namespace RollingBudget

open SingleUser

/-! What has to be known of a row, in a database that satisfies the constraints, for the
database to satisfy them once the row is written: its own checks, that its keys are free, and
that the rows it refers to are there. -/

/-! ## One row of a kind at most -/

/-- Rows that are told apart by a key: at most one is selected if any two selected are equal. -/
theorem length_filter_le_one_iff {α κ : Type} {key : α → κ} {rows : List α}
    (nodup : (rows.map key).Nodup) {selected : α → Bool} :
    (rows.filter selected).length ≤ 1 ↔
      ∀ left ∈ rows, ∀ right ∈ rows, selected left → selected right → left = right := by
  have distinct : (rows.filter selected).Nodup :=
    (List.Nodup.of_map key nodup).filter _
  constructor
  · intro few left leftMember right rightMember leftSelected rightSelected
    have first : left ∈ rows.filter selected := List.mem_filter.mpr ⟨leftMember, leftSelected⟩
    have second : right ∈ rows.filter selected := List.mem_filter.mpr ⟨rightMember, rightSelected⟩
    cases found : rows.filter selected with
    | nil =>
        rw [found] at first
        cases first
    | cons only rest =>
        rw [found, List.length_cons] at few
        have none : rest = [] := List.length_eq_zero_iff.mp (by omega)
        rw [found, none, List.mem_singleton] at first second
        rw [first, second]
  · intro unique
    cases found : rows.filter selected with
    | nil => simp
    | cons head tail =>
        cases tail with
        | nil => simp
        | cons next rest =>
            have both : head ∈ rows.filter selected ∧ next ∈ rows.filter selected := by
              rw [found]
              simp
            have equal : head = next := unique _ (List.mem_filter.mp both.1).1 _
              (List.mem_filter.mp both.2).1 (List.mem_filter.mp both.1).2
              (List.mem_filter.mp both.2).2
            rw [found, equal] at distinct
            exact absurd List.mem_cons_self (List.nodup_cons.mp distinct).1

/-! ## Rows that others refer to -/

variable {config config' : ConfigTables} {refresh refresh' : RefreshTables}
  {ledger : LedgerTables} {database : Database}

/-- Runs and staged rows refer to versions and to their rules. -/
theorem RefreshTables.Constraints.mono (constraints : refresh.Constraints config)
    (versions : config.configVersions.map ConfigVersion.id ⊆
      config'.configVersions.map ConfigVersion.id)
    (links : config.configVersionRules ⊆ config'.configVersionRules) :
    refresh.Constraints config' :=
  { constraints with
    runConfigs := constraints.runConfigs.grow versions
    stagedRules := constraints.stagedRules.grow (List.map_subset id links) }

/-- Live rows refer to runs and to rules. -/
theorem LedgerTables.Constraints.mono (constraints : ledger.Constraints config refresh)
    (links : config.configVersionRules ⊆ config'.configVersionRules)
    (runs : refresh.refreshRuns.map RefreshRun.configKey ⊆
      refresh'.refreshRuns.map RefreshRun.configKey) :
    ledger.Constraints config' refresh' :=
  { constraints with
    firstRuns := constraints.firstRuns.grow (by
      have ids : ∀ runs : List RefreshRun, runs.map RefreshRun.id =
          (runs.map RefreshRun.configKey).map Prod.fst := by
        intro runs
        rw [List.map_map]
        rfl
      rw [ids, ids]
      exact List.map_subset Prod.fst runs)
    lastRuns := constraints.lastRuns.grow runs
    rules := constraints.rules.grow (List.map_subset id links) }

/-- A change of the configuration tables that keeps what others refer to. -/
theorem Database.Constraints.withConfig (constraints : database.Constraints)
    (kept : config.Constraints)
    (versions : database.config.configVersions.map ConfigVersion.id ⊆
      config.configVersions.map ConfigVersion.id)
    (links : database.config.configVersionRules ⊆ config.configVersionRules) :
    (database.withConfig config).Constraints where
  config := kept
  refresh := constraints.refresh.mono versions links
  ledger := constraints.ledger.mono links (List.Subset.refl _)
  syncRuns := constraints.syncRuns

/-- A change of the refresh tables that keeps what others refer to. -/
theorem Database.Constraints.withRefresh (constraints : database.Constraints)
    (kept : refresh.Constraints database.config)
    (runs : database.refresh.refreshRuns.map RefreshRun.configKey ⊆
      refresh.refreshRuns.map RefreshRun.configKey) :
    (database.withRefresh refresh).Constraints where
  config := constraints.config
  refresh := kept
  ledger := constraints.ledger.mono (List.Subset.refl _) runs
  syncRuns := constraints.syncRuns.grow runs

theorem Database.Constraints.withLedger (constraints : database.Constraints)
    (kept : ledger.Constraints database.config database.refresh) :
    (database.withLedger ledger).Constraints :=
  { constraints with ledger := kept }

namespace Database.Constraints

/-! ## Configuration tables -/

theorem insertCategory (constraints : database.Constraints) {row : Category} (checks : row.Checks)
    (freshId : ∀ old ∈ database.config.categories, old.id ≠ row.id)
    (freshKey : ∀ old ∈ database.config.categories, old.key ≠ row.key) :
    (database.insert (.category row)).Constraints :=
  constraints.withConfig
    { constraints.config with
      categories := constraints.config.categories.concat checks freshId
      categoryKeys := Table.nodup_map_concat constraints.config.categoryKeys freshKey
      ruleCategories := constraints.config.ruleCategories.grow (map_subset_concat _ _ _) }
    (List.Subset.refl _) (List.Subset.refl _)

theorem updateCategory (constraints : database.Constraints) {row : Category} (checks : row.Checks)
    (sameKey : ∀ old ∈ database.config.categories, old.id = row.id → old.key = row.key) :
    (database.update (.category row)).Constraints :=
  constraints.withConfig
    { constraints.config with
      categories := constraints.config.categories.replace checks
      categoryKeys := by
        rw [map_replace sameKey]
        exact constraints.config.categoryKeys
      ruleCategories := constraints.config.ruleCategories.grow
        (map_subset_replace fun _ _ same => same) }
    (List.Subset.refl _) (List.Subset.refl _)

theorem insertRuleVersion (constraints : database.Constraints) {row : RuleVersion}
    (checks : row.Checks) (freshId : ∀ old ∈ database.config.ruleVersions, old.id ≠ row.id)
    (freshNumber : ∀ old ∈ database.config.ruleVersions, old.categoryId = row.categoryId →
      old.version ≠ row.version)
    (freshHash : ∀ old ∈ database.config.ruleVersions, old.categoryId = row.categoryId →
      old.ruleHash ≠ row.ruleHash)
    (owner : row.categoryId ∈ database.config.categories.map Category.id) :
    (database.insert (.ruleVersion row)).Constraints :=
  constraints.withConfig
    { constraints.config with
      ruleVersions := constraints.config.ruleVersions.concat checks freshId
      ruleNumbers := by
        apply Table.nodup_map_concat constraints.config.ruleNumbers
        intro old member same
        exact freshNumber old member (congrArg Prod.fst same) (congrArg Prod.snd same)
      ruleHashes := by
        apply Table.nodup_map_concat constraints.config.ruleHashes
        intro old member same
        exact freshHash old member (congrArg Prod.fst same) (congrArg Prod.snd same)
      ruleCategories := constraints.config.ruleCategories.concat owner
      linkRules := constraints.config.linkRules.grow (map_subset_concat _ _ _) }
    (List.Subset.refl _) (List.Subset.refl _)

theorem insertConfigVersion (constraints : database.Constraints) {row : ConfigVersion}
    (checks : row.Checks) (freshId : ∀ old ∈ database.config.configVersions, old.id ≠ row.id)
    (freshNumber : ∀ old ∈ database.config.configVersions, old.version ≠ row.version)
    (oneActive : row.status = .active → ∀ old ∈ database.config.configVersions,
      old.status ≠ .active) :
    (database.insert (.configVersion row)).Constraints := by
  have admits := constraints.config.configVersions.concat checks freshId
  refine constraints.withConfig
    { constraints.config with
      configVersions := admits
      versionNumbers := Table.nodup_map_concat constraints.config.versionNumbers freshNumber
      oneActive := ?_
      linkConfigs := constraints.config.linkConfigs.grow (map_subset_concat _ _ _) }
    (map_subset_concat _ _ _) (List.Subset.refl _)
  rw [List.filter_append, List.length_append]
  by_cases active : row.status = .active
  · have none : database.config.configVersions.filter (fun config => config.status = .active) =
        [] := by
      apply List.filter_eq_nil_iff.mpr
      intro old member
      simpa using oneActive active old member
    rw [none, List.length_nil, Nat.zero_add]
    exact List.length_filter_le _ _
  · have none : [row].filter (fun config => config.status = .active) = [] := by
      simp [active]
    rw [none]
    exact constraints.config.oneActive

theorem updateConfigVersion (constraints : database.Constraints) {row : ConfigVersion}
    (checks : row.Checks)
    (sameVersion : ∀ old ∈ database.config.configVersions, old.id = row.id →
      old.version = row.version)
    (oneActive : row.status = .active → ∀ old ∈ database.config.configVersions,
      old.id ≠ row.id → old.status ≠ .active) :
    (database.update (.configVersion row)).Constraints := by
  have admits := constraints.config.configVersions.replace checks
  refine constraints.withConfig
    { constraints.config with
      configVersions := admits
      versionNumbers := by
        rw [map_replace sameVersion]
        exact constraints.config.versionNumbers
      oneActive := ?_
      linkConfigs := constraints.config.linkConfigs.grow
        (map_subset_replace fun _ _ same => same) }
    (map_subset_replace fun _ _ same => same) (List.Subset.refl _)
  have unique := (length_filter_le_one_iff constraints.config.configVersions.2).mp
    constraints.config.oneActive
  -- An active row other than the new one was there before, so the new one is not active.
  have others : ∀ other ∈ replace ConfigVersion.id row database.config.configVersions,
      other ≠ row → other ∈ database.config.configVersions ∧ other.id ≠ row.id := by
    intro other member different
    rcases List.mem_map.mp member with ⟨old, oldMember, rfl⟩
    by_cases here : old.id = row.id
    · rw [if_pos here] at different
      exact absurd rfl different
    · rw [if_neg here] at different ⊢
      exact ⟨oldMember, here⟩
  rw [length_filter_le_one_iff admits.2]
  intro left leftMember right rightMember leftActive rightActive
  rw [decide_eq_true_eq] at leftActive rightActive
  by_cases leftNew : left = row
  · by_contra different
    have earlier := others right rightMember fun same => different (leftNew.trans same.symm)
    rw [leftNew] at leftActive
    exact oneActive leftActive right earlier.1 earlier.2 rightActive
  · have earlier := others left leftMember leftNew
    by_cases rightNew : right = row
    · rw [rightNew] at rightActive
      exact absurd leftActive (oneActive rightActive left earlier.1 earlier.2)
    · exact unique left earlier.1 right (others right rightMember rightNew).1
        (decide_eq_true leftActive) (decide_eq_true rightActive)

theorem insertConfigVersionRule (constraints : database.Constraints) {row : ConfigVersionRule}
    (fresh : ∀ old ∈ database.config.configVersionRules, old.key ≠ row.key)
    (version : row.configVersionId ∈ database.config.configVersions.map ConfigVersion.id)
    (rule : row.ownerKey ∈ database.config.ruleVersions.map RuleVersion.ownerKey) :
    (database.insert (.configVersionRule row)).Constraints :=
  constraints.withConfig
    { constraints.config with
      links := Table.nodup_map_concat constraints.config.links fresh
      linkConfigs := constraints.config.linkConfigs.concat version
      linkRules := constraints.config.linkRules.concat rule }
    (List.Subset.refl _) (List.subset_append_left _ _)

/-! ## Runs and their batches -/

theorem insertRefreshRun (constraints : database.Constraints) {row : RefreshRun}
    (checks : row.Checks) (freshId : ∀ old ∈ database.refresh.refreshRuns, old.id ≠ row.id)
    (freshName : ∀ old ∈ database.refresh.refreshRuns,
      old.idempotencyKey ≠ row.idempotencyKey)
    (version : row.configVersionId ∈ database.config.configVersions.map ConfigVersion.id) :
    (database.insert (.refreshRun row)).Constraints :=
  constraints.withRefresh
    { constraints.refresh with
      runs := constraints.refresh.runs.concat checks freshId
      runNames := Table.nodup_map_concat constraints.refresh.runNames freshName
      runConfigs := constraints.refresh.runConfigs.concat version
      batchRuns := constraints.refresh.batchRuns.grow (map_subset_concat _ _ _)
      stagedRuns := constraints.refresh.stagedRuns.grow (map_subset_concat _ _ _) }
    (map_subset_concat _ _ _)

theorem updateRefreshRun (constraints : database.Constraints) {row : RefreshRun}
    (checks : row.Checks)
    (same : ∀ old ∈ database.refresh.refreshRuns, old.id = row.id → old.SameManifest row) :
    (database.update (.refreshRun row)).Constraints := by
  have sameName : ∀ old ∈ database.refresh.refreshRuns, old.id = row.id →
      old.idempotencyKey = row.idempotencyKey :=
    fun old member here => (same old member here).idempotencyKey.symm
  have sameConfig : ∀ old ∈ database.refresh.refreshRuns, old.id = row.id →
      old.configVersionId = row.configVersionId :=
    fun old member here => (same old member here).configVersionId.symm
  have sameKey : ∀ old ∈ database.refresh.refreshRuns, old.id = row.id →
      old.configKey = row.configKey :=
    fun old member here => Prod.ext here (sameConfig old member here)
  apply constraints.withRefresh _ (map_subset_replace sameKey)
  exact { constraints.refresh with
    runs := constraints.refresh.runs.replace checks
    runNames := by
      rw [map_replace sameName]
      exact constraints.refresh.runNames
    runConfigs := constraints.refresh.runConfigs.mono
      (by rw [map_replace sameConfig]; exact List.Subset.refl _) (List.Subset.refl _)
    batchRuns := constraints.refresh.batchRuns.grow (map_subset_replace fun _ _ here => here)
    stagedRuns := constraints.refresh.stagedRuns.grow (map_subset_replace sameKey) }

theorem insertRefreshBatch (constraints : database.Constraints) {row : RefreshBatch}
    (checks : row.Checks) (fresh : ∀ old ∈ database.refresh.refreshBatches, old.key ≠ row.key)
    (freshName : ∀ old ∈ database.refresh.refreshBatches, old.runId = row.runId →
      old.idempotencyKey ≠ row.idempotencyKey)
    (run : row.runId ∈ database.refresh.refreshRuns.map RefreshRun.id) :
    (database.insert (.refreshBatch row)).Constraints :=
  constraints.withRefresh
    { constraints.refresh with
      batches := constraints.refresh.batches.concat checks fresh
      batchNames := by
        apply Table.nodup_map_concat constraints.refresh.batchNames
        intro old member same
        exact freshName old member (congrArg Prod.fst same) (congrArg Prod.snd same)
      batchRuns := constraints.refresh.batchRuns.concat run
      stagedBatches := constraints.refresh.stagedBatches.grow (map_subset_concat _ _ _) }
    (List.Subset.refl _)

/-! ## Staged transactions -/

theorem insertStagedTransaction (constraints : database.Constraints) {row : StagedTransaction}
    (checks : row.Checks)
    (fresh : ∀ old ∈ database.refresh.stagedTransactions, old.key ≠ row.key)
    (run : row.runKey ∈ database.refresh.refreshRuns.map RefreshRun.configKey)
    (batch : row.batchKey ∈ database.refresh.refreshBatches.map RefreshBatch.key) :
    (database.insert (.stagedTransaction row)).Constraints :=
  constraints.withRefresh
    { constraints.refresh with
      staged := constraints.refresh.staged.concat checks fresh
      stagedRuns := constraints.refresh.stagedRuns.concat run
      stagedBatches := constraints.refresh.stagedBatches.concat batch
      stagedOwners := constraints.refresh.stagedOwners.grow (map_subset_concat _ _ _) }
    (List.Subset.refl _)

theorem insertStagedTransactionCategory (constraints : database.Constraints)
    {row : StagedTransactionCategory}
    (fresh : ∀ old ∈ database.refresh.stagedTransactionCategories, old.key ≠ row.key)
    (owner : row.ownerKey ∈
      database.refresh.stagedTransactions.map StagedTransaction.configKey)
    (rule : row.mapping ∈ database.config.configVersionRules) :
    (database.insert (.stagedTransactionCategory row)).Constraints :=
  constraints.withRefresh
    { constraints.refresh with
      stagedLinks := Table.nodup_map_concat constraints.refresh.stagedLinks fresh
      stagedOwners := constraints.refresh.stagedOwners.concat owner
      stagedRules := constraints.refresh.stagedRules.concat (by simpa using rule) }
    (List.Subset.refl _)

theorem deleteStagedTransaction (constraints : database.Constraints) (row : StagedTransaction)
    (member : row ∈ database.refresh.stagedTransactions) :
    (database.delete (.stagedTransaction row)).Constraints := by
  refine constraints.withRefresh
    { constraints.refresh with
      staged := constraints.refresh.staged.filter _
      stagedRuns := constraints.refresh.stagedRuns.filter _
      stagedBatches := constraints.refresh.stagedBatches.filter _
      stagedLinks := nodup_filter constraints.refresh.stagedLinks _
      stagedOwners := ?_
      stagedRules := constraints.refresh.stagedRules.filter _ }
    (List.Subset.refl _)
  intro link linkMember
  rcases List.mem_filter.mp linkMember with ⟨earlier, kept⟩
  rw [decide_eq_true_eq] at kept
  rcases List.mem_map.mp (constraints.refresh.stagedOwners link earlier) with
    ⟨owner, ownerMember, same⟩
  rw [← same]
  apply List.mem_map_of_mem
  apply List.mem_filter.mpr
  refine ⟨ownerMember, decide_eq_true ?_⟩
  intro sameKey
  have equal : owner = row :=
    List.inj_on_of_nodup_map constraints.refresh.staged.2 ownerMember member sameKey
  rw [equal] at same
  exact kept same.symm

/-! ## Live transactions -/

theorem insertTransaction (constraints : database.Constraints) {row : Transaction}
    (checks : row.Checks)
    (fresh : ∀ old ∈ database.ledger.transactions, old.identity ≠ row.identity)
    (firstRun : row.firstRefreshRunId ∈ database.refresh.refreshRuns.map RefreshRun.id)
    (lastRun : row.lastRunKey ∈ database.refresh.refreshRuns.map RefreshRun.configKey) :
    (database.insert (.transaction row)).Constraints :=
  constraints.withLedger
    { constraints.ledger with
      transactions := constraints.ledger.transactions.concat checks fresh
      firstRuns := constraints.ledger.firstRuns.concat firstRun
      lastRuns := constraints.ledger.lastRuns.concat lastRun
      owners := constraints.ledger.owners.grow (map_subset_concat _ _ _) }

theorem deleteTransactionCategory (constraints : database.Constraints)
    (row : TransactionCategory) :
    (database.delete (.transactionCategory row)).Constraints :=
  constraints.withLedger
    { constraints.ledger with
      links := nodup_filter constraints.ledger.links _
      owners := constraints.ledger.owners.filter _
      rules := constraints.ledger.rules.filter _ }

theorem deleteTransaction (constraints : database.Constraints) (row : Transaction)
    (member : row ∈ database.ledger.transactions) :
    (database.delete (.transaction row)).Constraints := by
  refine constraints.withLedger
    { transactions := constraints.ledger.transactions.filter _
      firstRuns := constraints.ledger.firstRuns.filter _
      lastRuns := constraints.ledger.lastRuns.filter _
      links := nodup_filter constraints.ledger.links _
      owners := ?_
      rules := constraints.ledger.rules.filter _ }
  intro link linkMember
  rcases List.mem_filter.mp linkMember with ⟨earlier, kept⟩
  rw [decide_eq_true_eq] at kept
  rcases List.mem_map.mp (constraints.ledger.owners link earlier) with ⟨owner, ownerMember, same⟩
  rw [← same]
  apply List.mem_map_of_mem
  apply List.mem_filter.mpr
  refine ⟨ownerMember, decide_eq_true ?_⟩
  intro sameKey
  have equal : owner = row :=
    List.inj_on_of_nodup_map constraints.ledger.transactions.2 ownerMember member sameKey
  rw [equal] at same
  exact kept same.symm

/-! ## Sync state -/

theorem setSyncState (constraints : database.Constraints) {row : SyncState}
    (synced : database.Synced row) :
    Database.Constraints { database with syncState := some row } := by
  refine { constraints with syncRuns := ?_ }
  intro state member
  rw [Option.toList_some, List.mem_singleton] at member
  rcases synced with ⟨run, runMember, id, config, _⟩
  rw [member]
  exact List.mem_map.mpr ⟨run, runMember, Prod.ext id config⟩

end Database.Constraints

end RollingBudget
