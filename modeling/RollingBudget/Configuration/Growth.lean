import RollingBudget.Services.ConfigService

namespace RollingBudget

open Sorting ConfigService

/-! How the configuration tables change over time. Rows are added, never removed;
keys, rules, links and the content of a version are frozen once written. -/

/-- What of a config version no call changes. -/
def ConfigVersion.frozen (config : ConfigVersion) : ConfigVersion :=
  { config with status := .pending, activatedAt := none, supersededAt := none }

namespace ConfigVersion

variable {before after : ConfigVersion}

theorem id_of_frozen (same : after.frozen = before.frozen) : after.id = before.id :=
  (congrArg ConfigVersion.id same :)

theorem version_of_frozen (same : after.frozen = before.frozen) :
    after.version = before.version :=
  (congrArg ConfigVersion.version same :)

theorem timezone_of_frozen (same : after.frozen = before.frozen) :
    after.timezone = before.timezone :=
  (congrArg ConfigVersion.timezone same :)

theorem aggregationVersion_of_frozen (same : after.frozen = before.frozen) :
    after.aggregationVersion = before.aggregationVersion :=
  (congrArg ConfigVersion.aggregationVersion same :)

theorem configHash_of_frozen (same : after.frozen = before.frozen) :
    after.configHash = before.configHash :=
  (congrArg ConfigVersion.configHash same :)

theorem displayCurrency_of_frozen (same : after.frozen = before.frozen) :
    after.displayCurrency = before.displayCurrency :=
  (congrArg ConfigVersion.displayCurrency same :)

theorem sourceConfig_of_frozen (same : after.frozen = before.frozen) :
    after.sourceConfig = before.sourceConfig :=
  (congrArg ConfigVersion.sourceConfig same :)

end ConfigVersion

namespace ConfigTables

def linksOf (tables : ConfigTables) (configId : Nat) : List ConfigVersionRule :=
  tables.configVersionRules.filter fun link => link.configVersionId = configId

structure Extends (before after : ConfigTables) : Prop where
  category : ∀ {id row}, before.category id = some row →
    ∃ row', after.category id = some row' ∧ row'.key = row.key
  ruleVersion : ∀ {id row}, before.ruleVersion id = some row → after.ruleVersion id = some row
  configVersion : ∀ {id row}, before.configVersion id = some row →
    ∃ row', after.configVersion id = some row' ∧ row'.frozen = row.frozen
  links : ∀ {id row}, before.configVersion id = some row → after.linksOf id = before.linksOf id

namespace Extends

variable {first second third : ConfigTables}

theorem refl (tables : ConfigTables) : tables.Extends tables where
  category := fun found => ⟨_, found, rfl⟩
  ruleVersion := id
  configVersion := fun found => ⟨_, found, rfl⟩
  links := fun _ => rfl

theorem trans (earlier : first.Extends second) (later : second.Extends third) :
    first.Extends third where
  category := by
    intro id row found
    rcases earlier.category found with ⟨middle, middleFound, middleKey⟩
    rcases later.category middleFound with ⟨last, lastFound, lastKey⟩
    exact ⟨last, lastFound, lastKey.trans middleKey⟩
  ruleVersion := fun found => later.ruleVersion (earlier.ruleVersion found)
  configVersion := by
    intro id row found
    rcases earlier.configVersion found with ⟨middle, middleFound, middleSame⟩
    rcases later.configVersion middleFound with ⟨last, lastFound, lastSame⟩
    exact ⟨last, lastFound, lastSame.trans middleSame⟩
  links := by
    intro id row found
    rcases earlier.configVersion found with ⟨middle, middleFound, _⟩
    exact (later.links middleFound).trans (earlier.links found)

/-- The row behind a link keeps its rule and its category's identity. -/
theorem linkedRule {before after : ConfigTables} (grows : before.Extends after)
    {link : ConfigVersionRule} {row : LinkedRule}
    (found : ConfigService.linkedRule before link = some row) :
    ∃ category : Category, ConfigService.linkedRule after link = some ⟨link, row.rule, category⟩ ∧
      category.id = row.category.id ∧ category.key = row.category.key := by
  simp only [ConfigService.linkedRule, Option.bind_eq_some_iff, Option.map_eq_some_iff] at found ⊢
  rcases found with ⟨rule, ruleFound, category, categoryFound, rfl⟩
  rcases grows.category categoryFound with ⟨category', categoryFound', sameKey⟩
  refine ⟨category', ⟨rule, grows.ruleVersion ruleFound, category', categoryFound', rfl⟩, ?_, sameKey⟩
  exact (Table.key_of_get categoryFound').trans (Table.key_of_get categoryFound).symm

end Extends

/-! ## Changing rows in place -/

/-- Categories change only in what `present` assigns, versions only in their status. -/
theorem extends_of_map {before after : ConfigTables} (changeCategory : Category → Category)
    (changeVersion : ConfigVersion → ConfigVersion)
    (categoryId : ∀ row, (changeCategory row).id = row.id)
    (categoryKey : ∀ row, (changeCategory row).key = row.key)
    (versionFrozen : ∀ row, (changeVersion row).frozen = row.frozen)
    (categories : after.categories = before.categories.map changeCategory)
    (ruleVersions : after.ruleVersions = before.ruleVersions)
    (configVersions : after.configVersions = before.configVersions.map changeVersion)
    (configVersionRules : after.configVersionRules = before.configVersionRules) :
    before.Extends after where
  category := by
    intro id row found
    refine ⟨changeCategory row, ?_, categoryKey row⟩
    rw [category, categories, Table.get_map categoryId]
    exact congrArg (Option.map changeCategory) found
  ruleVersion := by
    intro id row found
    rw [ruleVersion, ruleVersions]
    exact found
  configVersion := by
    intro id row found
    refine ⟨changeVersion row, ?_, versionFrozen row⟩
    rw [configVersion, configVersions,
      Table.get_map fun row => ConfigVersion.id_of_frozen (versionFrozen row)]
    exact congrArg (Option.map changeVersion) found
  links := by
    intro id row _
    rw [linksOf, configVersionRules]
    rfl

/-! ## Adding rows -/

/-- Only categories and rules were added. -/
structure Appends (before after : ConfigTables) : Prop where
  categories : before.categories <+: after.categories
  ruleVersions : before.ruleVersions <+: after.ruleVersions
  configVersions : after.configVersions = before.configVersions
  configVersionRules : after.configVersionRules = before.configVersionRules

namespace Appends

variable {first second third before after : ConfigTables}

theorem refl (tables : ConfigTables) : tables.Appends tables :=
  ⟨List.prefix_rfl, List.prefix_rfl, rfl, rfl⟩

theorem trans (earlier : first.Appends second) (later : second.Appends third) :
    first.Appends third :=
  ⟨earlier.categories.trans later.categories, earlier.ruleVersions.trans later.ruleVersions,
    later.configVersions.trans earlier.configVersions,
    later.configVersionRules.trans earlier.configVersionRules⟩

theorem category (appends : before.Appends after) {id : Nat} {row : Category}
    (found : before.category id = some row) : after.category id = some row := by
  rcases appends.categories with ⟨more, equal⟩
  rw [ConfigTables.category, ← equal]
  exact Table.get_append_of_some more found

theorem ruleVersion (appends : before.Appends after) {id : Nat} {row : RuleVersion}
    (found : before.ruleVersion id = some row) : after.ruleVersion id = some row := by
  rcases appends.ruleVersions with ⟨more, equal⟩
  rw [ConfigTables.ruleVersion, ← equal]
  exact Table.get_append_of_some more found

/-- A join row that exists stays exactly as it is. -/
theorem linkedRule (appends : before.Appends after) {link : ConfigVersionRule} {row : LinkedRule}
    (found : ConfigService.linkedRule before link = some row) :
    ConfigService.linkedRule after link = some row := by
  simp only [ConfigService.linkedRule, Option.bind_eq_some_iff, Option.map_eq_some_iff] at found ⊢
  rcases found with ⟨rule, ruleFound, category, categoryFound, equal⟩
  exact ⟨rule, appends.ruleVersion ruleFound, category, appends.category categoryFound, equal⟩

theorem extend (appends : before.Appends after) : before.Extends after where
  category := fun found => ⟨_, appends.category found, rfl⟩
  ruleVersion := appends.ruleVersion
  configVersion := by
    intro id row found
    refine ⟨row, ?_, rfl⟩
    rw [ConfigTables.configVersion, appends.configVersions]
    exact found
  links := by
    intro id row _
    rw [linksOf, appends.configVersionRules]
    rfl

end Appends

/-- A version added under a new identifier leaves the versions before it alone. -/
theorem extends_insertVersion {tables : ConfigTables} {config : ConfigVersion}
    (selected : List (Nat × Nat)) (fresh : ∀ old ∈ tables.configVersions, old.id ≠ config.id) :
    tables.Extends (insertVersion tables config selected) where
  category := fun found => ⟨_, found, rfl⟩
  ruleVersion := id
  configVersion := fun found => ⟨_, Table.get_append_of_some [config] found, rfl⟩
  links := by
    intro id row found
    have different : config.id ≠ id := by
      have other := fresh row (Table.mem_of_get found)
      rw [Table.key_of_get found] at other
      exact other.symm
    simp only [linksOf, insertVersion, List.filter_append]
    rw [List.append_right_eq_self, List.filter_eq_nil_iff]
    intro link member
    rcases List.mem_map.mp member with ⟨choice, _, rfl⟩
    simp [different]

end ConfigTables

end RollingBudget
