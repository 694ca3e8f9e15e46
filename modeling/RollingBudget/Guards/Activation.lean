import RollingBudget.Guards.PutConfig

namespace RollingBudget

open SingleUser Sorting ServiceError ConfigService Flushes

/-! The commit that rebuilds the data for a pending version activates it. The active version is
superseded in a flush before, since at no time two versions may be active. -/

variable {environment : Environment} {clock : Clock} {database : Database} {now : Datetime}
  {tables : ConfigTables} {config : ConfigVersion}

/-- The version as its activation leaves it. -/
def activatedVersion (now : Datetime) (config : ConfigVersion) : ConfigVersion :=
  { config with status := .active, activatedAt := some now }

/-- The row of one version is superseded. -/
private def supersedeOne (now : Datetime) (id : Nat) (config : ConfigVersion) : ConfigVersion :=
  if config.id = id then { config with status := .superseded, supersededAt := some now }
  else config

theorem guarded_activatedVersion (now : Datetime)
    (constraints : (database.withConfig tables).Constraints)
    (member : config ∈ tables.configVersions) (pending : config.status = .pending)
    (noneActive : ∀ old ∈ tables.configVersions, old.status ≠ .active)
    (rebuilt : database.Rebuilt config.id) :
    (database.withConfig tables).Guarded
      (.update (.configVersion (activatedVersion now config))) := by
  constructor
  · refine ⟨config, member, rfl, ConfigVersion.sameContent_of_frozen rfl, ?_, fun _ _ => rebuilt⟩
    exact Or.inr (Or.inl ⟨pending, Or.inl rfl⟩)
  · apply constraints.updateConfigVersion
    · have same : (activatedVersion now config).frozen = config.frozen := rfl
      apply (constraints.config.configVersions.1 config member).update same
      · intro _
        rfl
      · intro superseded
        cases superseded
    · intro old oldMember same
      rw [List.inj_on_of_nodup_map constraints.config.configVersions.2 oldMember member same]
      rfl
    · intro _ old oldMember _
      exact noneActive old oldMember
  · trivial

theorem runs_activate (now : Datetime) (invariant : ConfigInvariant environment tables)
    (member : config ∈ tables.configVersions)
    (rebuilt : config.status = .pending → database.Rebuilt config.id)
    (constraints : (database.flushed environment tables).Constraints) :
    RunsConfig environment database tables
      (Flushes.activate environment now tables config) id fun _ => True := by
  unfold Flushes.activate
  by_cases pending : config.status = .pending
  · rw [if_pos pending]
    apply GuardedStore.Runs.liftThen
    intro presented completed
    rcases applyConfigPresentation_categories completed with ⟨items, valid, result⟩
    rcases invariant.shape.someActive (List.ne_nil_of_mem member) with
      ⟨active, activeMember, isActive⟩
    have found : presented.active = some active := by
      rw [result]
      exact invariant.shape.active_eq activeMember isActive
    have different : active.id ≠ config.id := by
      intro same
      have equal := List.inj_on_of_nodup_map invariant.wellFormed.versionIds activeMember member
        same
      rw [equal, pending] at isActive
      cases isActive
    dsimp only
    rw [found]
    dsimp only
    rw [if_neg different]
    have supersededEq : supersede now active.id presented = { tables with
        categories := tables.categories.map (presentedBy items)
        configVersions := tables.configVersions.map (supersedeOne now active.id) } := by
      rw [result]
      rfl
    have updates := admits_configUpdates (supersede now active.id presented) (presentedBy items)
      (supersedeOne now active.id) constraints (id_presentedBy items) (key_presentedBy items)
      (fun row rowMember => (invariant.wellFormed.published row rowMember).presentedBy valid)
      (by
        intro row rowMember
        by_cases here : row.id = active.id
        · right
          have equal := List.inj_on_of_nodup_map invariant.wellFormed.versionIds rowMember
            activeMember here
          have changed : supersedeOne now active.id row =
              { row with status := .superseded, supersededAt := some now } := if_pos here
          rw [changed, equal]
          exact ⟨rfl, by rw [isActive]; decide, rfl, rfl⟩
        · left
          exact (if_neg here).symm)
      supersededEq
    have kept := Database.constraints_after updates.1 constraints
    rw [updates.2] at kept
    apply GuardedStore.Runs.emitThen updates.1 updates.2
    have stays : config ∈ (supersede now active.id presented).configVersions := by
      rw [supersededEq]
      exact List.mem_map.mpr ⟨config, member, if_neg fun same => different same.symm⟩
    have noneActive : ∀ old ∈ (supersede now active.id presented).configVersions,
        old.status ≠ .active := by
      rw [supersededEq]
      intro old oldMember oldActive
      rcases List.mem_map.mp oldMember with ⟨row, rowMember, rfl⟩
      by_cases here : row.id = active.id
      · have changed : supersedeOne now active.id row =
            { row with status := .superseded, supersededAt := some now } := if_pos here
        rw [changed] at oldActive
        cases oldActive
      · have same : supersedeOne now active.id row = row := if_neg here
        rw [same] at oldActive
        exact here (congrArg ConfigVersion.id
          (invariant.shape.oneActive row rowMember active activeMember oldActive isActive))
    have guarded := guarded_activatedVersion now kept stays pending noneActive (rebuilt pending)
    have one : changed .configVersion (supersede now active.id presented).configVersions
        (Table.modify ConfigVersion.id config.id (activatedVersion now)
          (supersede now active.id presented).configVersions) =
          [.update (.configVersion (activatedVersion now config))] := by
      apply changed_modify _ _ kept.config.configVersions.2 stays _ rfl
      intro same
      have status := congrArg ConfigVersion.status same
      rw [pending] at status
      cases status
    have moved : Table.modify ConfigVersion.id config.id (activatedVersion now)
        (supersede now active.id presented).configVersions =
          replace ConfigVersion.id (activatedVersion now config)
            (supersede now active.id presented).configVersions :=
      modify_eq_replace _ kept.config.configVersions.2 stays rfl
    have admits : guardedDatabase.Admits
        (database.flushed environment (supersede now active.id presented))
        (changed .configVersion (supersede now active.id presented).configVersions
          (Table.modify ConfigVersion.id config.id (activatedVersion now)
            (supersede now active.id presented).configVersions)) := by
      rw [one]
      exact ⟨guarded, trivial⟩
    have reached : guardedDatabase.after
        (database.flushed environment (supersede now active.id presented))
        (changed .configVersion (supersede now active.id presented).configVersions
          (Table.modify ConfigVersion.id config.id (activatedVersion now)
            (supersede now active.id presented).configVersions)) =
        database.flushed environment { supersede now active.id presented with
          configVersions := Table.modify ConfigVersion.id config.id (activatedVersion now)
            (supersede now active.id presented).configVersions } := by
      rw [one, moved]
      rfl
    have after := Database.constraints_after admits kept
    rw [reached] at after
    apply GuardedStore.Runs.emitThen admits reached
    exact GuardedStore.Runs.pure ⟨trivial, rfl, after⟩
  · rw [if_neg pending]
    exact GuardedStore.Runs.pure ⟨trivial, rfl, constraints⟩

end RollingBudget
