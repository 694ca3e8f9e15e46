import RollingBudget.Configuration.Invariant
import RollingBudget.Guards.BulkWrites

namespace RollingBudget

open SingleUser Sorting ServiceError ConfigService Flushes

/-! The writes of `put_config` pass every guard. At each flush the database holds the tables of
the session as the money columns return them. -/

/-- A SHA-256 digest has 64 hexadecimal digits. -/
def Environment.HexDigests (environment : Environment) : Prop :=
  ∀ text, IsSha256 (environment.sha256 text)

variable {environment : Environment} {clock : Clock} {database : Database}
  {tables before : ConfigTables} {request : ConfigPutRequest} {config : ConfigVersion}

/-! ## Categories and versions -/

theorem Category.Published.checks {category : Category} (published : category.Published) :
    (RollingBudget.reloaded environment category).Checks := by
  unfold Category.Checks
  rw [MoneyCodec.signedUnits_eq_units published.reloaded.admitted]
  exact Int.natCast_nonneg _

/-- What the presentation of a category may change. -/
structure Category.Presents (old new : Category) : Prop where
  id : new.id = old.id
  key : new.key = old.key
  checks : new.Checks

theorem admits_changedCategories (database : Database) (tables : ConfigTables)
    {before after : List Category}
    (changes : List.Forall₂ (fun old new => old = new ∨ old.Presents new) before after)
    (start : (database.withConfig { tables with categories := before }).Constraints) :
    guardedDatabase.Admits (database.withConfig { tables with categories := before })
        (changed .category before after) ∧
      guardedDatabase.after (database.withConfig { tables with categories := before })
          (changed .category before after) =
        database.withConfig { tables with categories := after } := by
  apply admits_changed Category.id
    (fun rows => database.withConfig { tables with categories := rows }) _ _ _ _ changes start
  · intro rows new
    rfl
  · intro rows here
    exact here.config.categories.2
  · intro old new presents
    exact presents.id.symm
  · intro front old back new here presents
    have member : old ∈ front ++ old :: back := List.mem_append_right _ List.mem_cons_self
    constructor
    · exact ⟨old, member, presents.id.symm⟩
    · apply here.updateCategory presents.checks
      intro other otherMember same
      have equal : other = old := List.inj_on_of_nodup_map here.config.categories.2 otherMember
        member (same.trans presents.id)
      rw [equal]
      exact presents.key.symm
    · trivial

theorem ConfigVersion.sameContent_of_frozen {old new : ConfigVersion}
    (same : new.frozen = old.frozen) : old.SameContent new where
  version := version_of_frozen same
  timezone := timezone_of_frozen same
  displayCurrency := displayCurrency_of_frozen same
  aggregationVersion := aggregationVersion_of_frozen same
  configHash := configHash_of_frozen same
  sourceConfig := sourceConfig_of_frozen same
  createdAt := (congrArg ConfigVersion.createdAt same :)

/-- A version that is superseded. -/
structure ConfigVersion.Supersedes (old new : ConfigVersion) : Prop where
  frozen : new.frozen = old.frozen
  inUse : old.status ≠ .superseded
  superseded : new.status = .superseded
  stamped : new.supersededAt.isSome

theorem ConfigVersion.Supersedes.mayBecome {old new : ConfigVersion}
    (supersedes : old.Supersedes new) : old.status.MayBecome new.status := by
  rw [supersedes.superseded]
  have inUse := supersedes.inUse
  cases status : old.status with
  | pending => exact Or.inr (Or.inl ⟨rfl, Or.inr rfl⟩)
  | active => exact Or.inr (Or.inr ⟨rfl, rfl⟩)
  | superseded => exact absurd status inUse

theorem ConfigVersion.Checks.update {old new : ConfigVersion} (checks : old.Checks)
    (same : new.frozen = old.frozen) (active : new.status = .active → new.activatedAt.isSome)
    (superseded : new.status = .superseded → new.supersededAt.isSome) : new.Checks where
  version := (version_of_frozen same).symm ▸ checks.version
  aggregationVersion := (aggregationVersion_of_frozen same).symm ▸ checks.aggregationVersion
  configHash := (configHash_of_frozen same).symm ▸ checks.configHash
  active := active
  superseded := superseded

theorem admits_changedVersions (database : Database) (tables : ConfigTables)
    {before after : List ConfigVersion}
    (changes : List.Forall₂ (fun old new => old = new ∨ old.Supersedes new) before after)
    (start : (database.withConfig { tables with configVersions := before }).Constraints) :
    guardedDatabase.Admits (database.withConfig { tables with configVersions := before })
        (changed .configVersion before after) ∧
      guardedDatabase.after (database.withConfig { tables with configVersions := before })
          (changed .configVersion before after) =
        database.withConfig { tables with configVersions := after } := by
  apply admits_changed ConfigVersion.id
    (fun rows => database.withConfig { tables with configVersions := rows }) _ _ _ _ changes start
  · intro rows new
    rfl
  · intro rows here
    exact here.config.configVersions.2
  · intro old new supersedes
    exact (ConfigVersion.id_of_frozen supersedes.frozen).symm
  · intro front old back new here supersedes
    have member : old ∈ front ++ old :: back := List.mem_append_right _ List.mem_cons_self
    have sameId := ConfigVersion.id_of_frozen supersedes.frozen
    have notActive : new.status ≠ .active := by
      rw [supersedes.superseded]
      decide
    constructor
    · exact ⟨old, member, sameId.symm, ConfigVersion.sameContent_of_frozen supersedes.frozen,
        supersedes.mayBecome, fun active => absurd active notActive⟩
    · apply here.updateConfigVersion
      · exact (here.config.configVersions.1 old member).update supersedes.frozen
          (fun active => absurd active notActive) fun _ => supersedes.stamped
      · intro other otherMember same
        have equal : other = old := List.inj_on_of_nodup_map here.config.configVersions.2
          otherMember member (same.trans sameId)
        rw [equal]
        exact (ConfigVersion.version_of_frozen supersedes.frozen).symm
      · intro active
        exact absurd active notActive
    · trivial

theorem ConfigVersion.supersedes_withdraw (now : Datetime) (config : ConfigVersion) :
    config = withdraw now config ∨ config.Supersedes (withdraw now config) := by
  by_cases pending : config.status = .pending
  · right
    have changed : withdraw now config =
        { config with status := .superseded, supersededAt := some now } := if_pos pending
    constructor
    · exact frozen_withdraw now config
    · rw [pending]
      decide
    · rw [changed]
    · rw [changed]
      rfl
  · left
    exact (withdraw_of_ne pending).symm

/-- A flush that presents categories and supersedes versions. -/
theorem admits_configUpdates (after : ConfigTables) (changeCategory : Category → Category)
    (changeVersion : ConfigVersion → ConfigVersion)
    (start : (database.withConfig (ConfigService.commit environment before)).Constraints)
    (categoryId : ∀ row, (changeCategory row).id = row.id)
    (categoryKey : ∀ row, (changeCategory row).key = row.key)
    (published : ∀ row ∈ before.categories, (changeCategory row).Published)
    (supersedes : ∀ row ∈ before.configVersions,
      row = changeVersion row ∨ row.Supersedes (changeVersion row))
    (result : after = { before with
      categories := before.categories.map changeCategory
      configVersions := before.configVersions.map changeVersion }) :
    guardedDatabase.Admits (database.withConfig (ConfigService.commit environment before))
        (configUpdates environment before after) ∧
      guardedDatabase.after (database.withConfig (ConfigService.commit environment before))
          (configUpdates environment before after) =
        database.withConfig (ConfigService.commit environment after) := by
  have categories : List.Forall₂ (fun old new => old = new ∨ Category.Presents old new)
      (ConfigService.commit environment before).categories
      (ConfigService.commit environment after).categories := by
    rw [result]
    show List.Forall₂ _ (before.categories.map (reloaded environment))
      ((before.categories.map changeCategory).map (reloaded environment))
    rw [List.map_map, List.forall₂_map_left_iff, List.forall₂_map_right_iff, List.forall₂_same]
    intro row member
    exact Or.inr ⟨categoryId row, categoryKey row, (published row member).checks⟩
  have versions : List.Forall₂ (fun old new => old = new ∨ ConfigVersion.Supersedes old new)
      before.configVersions after.configVersions := by
    rw [result]
    exact forall₂_map supersedes
  have first := admits_changedCategories database (ConfigService.commit environment before)
    categories start
  have middle := Database.constraints_after first.1 start
  rw [first.2] at middle
  have second := admits_changedVersions database
    { ConfigService.commit environment before with
      categories := (ConfigService.commit environment after).categories } versions middle
  unfold configUpdates
  rw [GuardedStore.admits_append, GuardedStore.after_append, first.2]
  refine ⟨⟨first.1, second.1⟩, second.2.trans ?_⟩
  rw [result]
  rfl

end RollingBudget
