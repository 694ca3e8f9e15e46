import RollingBudget.Configuration.Growth

namespace RollingBudget

open Sorting ConfigService

/-! What the configuration tables keep true whatever is written to them: keys are
unique, every row goes back to a valid request, and each version's links represent the
request it was created from. -/

/-- The display and budget fields of a category row come from a valid request. -/
def Category.Published (category : Category) : Prop :=
  ∃ item : CategoryConfigInput, item.Valid ∧ item.key = category.key ∧
    present item category = category

/-- A rule row holds the semantics of a valid requested category with the given key. -/
def RuleVersion.Written (environment : Environment) (key : Text) (rule : RuleVersion) : Prop :=
  ∃ item : CategoryConfigInput, item.Valid ∧ item.key = key ∧
    rule.lookbackDays = item.lookbackDays ∧
    rule.classificationInstruction = item.classificationInstruction ∧
    rule.isEnabled = item.enabled ∧ rule.ruleHash = ConfigService.ruleHash environment item

/-- A join row stands for a requested category. -/
structure Matches (environment : Environment) (item : CategoryConfigInput) (row : LinkedRule) :
    Prop where
  key : row.category.key = item.key
  owner : row.rule.categoryId = row.category.id
  hash : row.rule.ruleHash = ruleHash environment item

/-- A link stands for a requested category. -/
def Represents (environment : Environment) (tables : ConfigTables) (item : CategoryConfigInput)
    (link : ConfigVersionRule) : Prop :=
  ∃ row, linkedRule tables link = some row ∧ Matches environment item row

/-- The representations of one config version agree. -/
structure Sound (environment : Environment) (tables : ConfigTables) (config : ConfigVersion) :
    Prop where
  valid : config.sourceConfig.Valid
  timezone : config.timezone = config.sourceConfig.timezone
  displayCurrency : config.displayCurrency = config.sourceConfig.displayCurrency
  aggregationVersion : config.aggregationVersion = config.sourceConfig.aggregationVersion
  currency : ∀ item ∈ config.sourceConfig.categories,
    item.budgetCurrency = config.sourceConfig.displayCurrency
  zone : environment.zoneInfo config.timezone = .found
  hash : config.configHash = configHash environment config.sourceConfig
  represents : List.Forall₂ (Represents environment tables) config.sourceConfig.categories
    (tables.linksOf config.id)

def ConfigTables.rulesOf (tables : ConfigTables) (categoryId : Nat) : List RuleVersion :=
  tables.ruleVersions.filter fun rule => rule.categoryId = categoryId

structure WellFormed (environment : Environment) (tables : ConfigTables) : Prop where
  categoryIds : (tables.categories.map Category.id).Nodup
  categoryKeys : (tables.categories.map Category.key).Nodup
  ruleIds : (tables.ruleVersions.map RuleVersion.id).Nodup
  versionIds : (tables.configVersions.map ConfigVersion.id).Nodup
  versionNumbers : (tables.configVersions.map ConfigVersion.version).Nodup
  published : ∀ category ∈ tables.categories, category.Published
  written : ∀ rule ∈ tables.ruleVersions, ∃ category ∈ tables.categories,
    category.id = rule.categoryId ∧ rule.Written environment category.key
  ruleNumbers : ∀ categoryId, (tables.rulesOf categoryId).map RuleVersion.version =
    List.range' 1 (tables.rulesOf categoryId).length
  ruleHashes : ∀ categoryId, ((tables.rulesOf categoryId).map RuleVersion.ruleHash).Nodup
  sound : ∀ config ∈ tables.configVersions, Sound environment tables config
  links : ∀ link ∈ tables.configVersionRules, ∃ config ∈ tables.configVersions,
    config.id = link.configVersionId

variable {environment : Environment} {tables before after : ConfigTables}

/-! ## Join rows -/

/-- The join rows of a config in the order of its links. -/
def linkedRows (tables : ConfigTables) (configId : Nat) : List LinkedRule :=
  (tables.linksOf configId).filterMap (linkedRule tables)

theorem perm_rulesForConfig (tables : ConfigTables) (configId : Nat) :
    (rulesForConfig tables configId).Perm (linkedRows tables configId) :=
  perm_sortedOn _ _

theorem linkedRule_eq_some_iff {link : ConfigVersionRule} {row : LinkedRule} :
    linkedRule tables link = some row ↔
      tables.ruleVersion link.ruleVersionId = some row.rule ∧
        tables.category link.categoryId = some row.category ∧ row.link = link := by
  simp only [linkedRule, Option.bind_eq_some_iff, Option.map_eq_some_iff]
  constructor
  · rintro ⟨rule, ruleFound, category, categoryFound, rfl⟩
    exact ⟨ruleFound, categoryFound, rfl⟩
  · rintro ⟨ruleFound, categoryFound, rfl⟩
    exact ⟨row.rule, ruleFound, row.category, categoryFound, rfl⟩

theorem mem_rulesForConfig {configId : Nat} {row : LinkedRule} :
    row ∈ rulesForConfig tables configId ↔
      row.link ∈ tables.linksOf configId ∧ linkedRule tables row.link = some row := by
  rw [(perm_rulesForConfig tables configId).mem_iff, linkedRows, List.mem_filterMap]
  constructor
  · rintro ⟨link, member, found⟩
    have same := (linkedRule_eq_some_iff.mp found).2.2
    rw [same]
    exact ⟨member, found⟩
  · rintro ⟨member, found⟩
    exact ⟨row.link, member, found⟩

private theorem forall₂_filterMap {items : List CategoryConfigInput}
    {links : List ConfigVersionRule}
    (represents : List.Forall₂ (Represents environment tables) items links) :
    List.Forall₂ (Matches environment) items (links.filterMap (linkedRule tables)) := by
  induction represents with
  | nil => exact List.Forall₂.nil
  | cons head tail induction =>
      rcases head with ⟨row, found, matching⟩
      rw [List.filterMap_cons_some found]
      exact List.Forall₂.cons matching induction

namespace Sound

variable {config : ConfigVersion}

theorem linkedRows (sound : Sound environment tables config) :
    List.Forall₂ (Matches environment) config.sourceConfig.categories
      (linkedRows tables config.id) :=
  forall₂_filterMap sound.represents

private theorem map_eq_of_forall₂ {α β γ : Type*} {related : α → β → Prop} {left : α → γ}
    {right : β → γ} (agree : ∀ first second, related first second → right second = left first)
    {firsts : List α} {seconds : List β} (pairs : List.Forall₂ related firsts seconds) :
    seconds.map right = firsts.map left := by
  induction pairs with
  | nil => rfl
  | cons head tail induction =>
      rw [List.map_cons, List.map_cons, induction, agree _ _ head]

/-- The linked categories are those of the request. -/
theorem map_key_linkedRows (sound : Sound environment tables config) :
    (RollingBudget.linkedRows tables config.id).map (fun row => row.category.key) =
      config.sourceConfig.keys :=
  map_eq_of_forall₂ (fun _ _ matching => matching.key) sound.linkedRows

theorem map_hash_linkedRows (sound : Sound environment tables config) :
    (RollingBudget.linkedRows tables config.id).map
        (fun row => (row.category.key, row.rule.ruleHash)) =
      ruleHashes environment config.sourceConfig := by
  refine map_eq_of_forall₂ (fun item row matching => ?_) sound.linkedRows
  rw [matching.key, matching.hash]

theorem perm_keys (sound : Sound environment tables config) :
    ((rulesForConfig tables config.id).map fun row => row.category.key).Perm
      config.sourceConfig.keys := by
  rw [← sound.map_key_linkedRows]
  exact (perm_rulesForConfig tables config.id).map _

theorem nodup_keys (sound : Sound environment tables config) :
    ((rulesForConfig tables config.id).map fun row => row.category.key).Nodup :=
  sound.perm_keys.nodup_iff.mpr sound.valid.uniqueKeys

/-- Each join row stands for a category of the request. -/
theorem exists_item (sound : Sound environment tables config) {row : LinkedRule}
    (member : row ∈ rulesForConfig tables config.id) :
    ∃ item ∈ config.sourceConfig.categories, Matches environment item row := by
  have inRows := (perm_rulesForConfig tables config.id).mem_iff.mp member
  rcases List.forall₂_iff_get.mp sound.linkedRows with ⟨lengths, pairs⟩
  rcases List.mem_iff_get.mp inRows with ⟨position, rfl⟩
  have bound : position.val < config.sourceConfig.categories.length := by
    rw [lengths]
    exact position.isLt
  exact ⟨config.sourceConfig.categories.get ⟨position, bound⟩, List.get_mem _ _,
    pairs position bound position.isLt⟩

/-- Each category of the request has its join row. -/
theorem exists_row (sound : Sound environment tables config) {item : CategoryConfigInput}
    (member : item ∈ config.sourceConfig.categories) :
    ∃ row ∈ rulesForConfig tables config.id, Matches environment item row := by
  rcases List.forall₂_iff_get.mp sound.linkedRows with ⟨lengths, pairs⟩
  rcases List.mem_iff_get.mp member with ⟨position, rfl⟩
  have bound : position.val < (RollingBudget.linkedRows tables config.id).length := by
    rw [← lengths]
    exact position.isLt
  refine ⟨(RollingBudget.linkedRows tables config.id).get ⟨position, bound⟩, ?_,
    pairs position position.isLt bound⟩
  exact (perm_rulesForConfig tables config.id).mem_iff.mpr (List.get_mem _ _)

/-- Every link of the version joins. -/
theorem exists_linkedRule (sound : Sound environment tables config) {link : ConfigVersionRule}
    (member : link ∈ tables.linksOf config.id) : ∃ row, linkedRule tables link = some row := by
  rcases List.forall₂_iff_get.mp sound.represents with ⟨lengths, pairs⟩
  rcases List.mem_iff_get.mp member with ⟨position, rfl⟩
  have bound : position.val < config.sourceConfig.categories.length := by
    rw [lengths]
    exact position.isLt
  rcases pairs position bound position.isLt with ⟨row, joined, _⟩
  exact ⟨row, joined⟩

/-- `semantic_hash_for_config` is the hash stored at creation. -/
theorem semanticHashForConfig_eq (sound : Sound environment tables config) :
    semanticHashForConfig environment tables config = config.configHash := by
  have rules : (sortedOn (fun row => row.category.key) (rulesForConfig tables config.id)).map
      (fun row => (row.category.key, row.rule.ruleHash)) =
        sortedOn Prod.fst (ruleHashes environment config.sourceConfig) := by
    rw [map_sortedOn _ _ Prod.fst (fun _ => rfl), ← sound.map_hash_linkedRows]
    apply sortedOn_eq_of_perm
    · exact (perm_rulesForConfig tables config.id).map _
    · rw [List.map_map]
      exact sound.nodup_keys
  rw [semanticHashForConfig, rules, sound.hash, configHash, sound.timezone,
    sound.displayCurrency, sound.aggregationVersion]

/-- Soundness survives everything that only adds rows or changes unfrozen fields. -/
theorem mono (sound : Sound environment before config) (grows : before.Extends after)
    (found : before.configVersion config.id = some config) {config' : ConfigVersion}
    (same : config'.frozen = config.frozen) : Sound environment after config' := by
  have source := ConfigVersion.sourceConfig_of_frozen same
  have zones := ConfigVersion.timezone_of_frozen same
  refine ⟨?_, ?_, ?_, ?_, ?_, ?_, ?_, ?_⟩
  · rw [source]
    exact sound.valid
  · rw [source, zones]
    exact sound.timezone
  · rw [source, ConfigVersion.displayCurrency_of_frozen same]
    exact sound.displayCurrency
  · rw [source, ConfigVersion.aggregationVersion_of_frozen same]
    exact sound.aggregationVersion
  · rw [source]
    exact sound.currency
  · rw [zones]
    exact sound.zone
  · rw [source, ConfigVersion.configHash_of_frozen same]
    exact sound.hash
  · rw [source, ConfigVersion.id_of_frozen same, grows.links found]
    refine sound.represents.imp ?_
    rintro item link ⟨row, rowFound, matching⟩
    rcases grows.linkedRule rowFound with ⟨category, found', sameId, sameKey⟩
    exact ⟨_, found', ⟨sameKey.trans matching.key, matching.owner.trans sameId.symm,
      matching.hash⟩⟩

end Sound

/-! ## Join rows of a growing database -/

/-- The same rule and the same category, whose display fields may differ. -/
structure SameRule (before after : LinkedRule) : Prop where
  rule : after.rule = before.rule
  categoryId : after.category.id = before.category.id
  categoryKey : after.category.key = before.category.key

namespace ConfigTables.Extends

theorem exists_after (grows : before.Extends after) {config : ConfigVersion}
    (found : before.configVersion config.id = some config) {row : LinkedRule}
    (member : row ∈ rulesForConfig before config.id) :
    ∃ row' ∈ rulesForConfig after config.id, SameRule row row' := by
  rcases mem_rulesForConfig.mp member with ⟨linkMember, linked⟩
  rcases grows.linkedRule linked with ⟨category, found', sameId, sameKey⟩
  refine ⟨⟨row.link, row.rule, category⟩, mem_rulesForConfig.mpr ⟨?_, found'⟩,
    ⟨rfl, sameId, sameKey⟩⟩
  rw [grows.links found]
  exact linkMember

theorem exists_before (grows : before.Extends after) {config : ConfigVersion}
    (found : before.configVersion config.id = some config)
    (sound : Sound environment before config) {row : LinkedRule}
    (member : row ∈ rulesForConfig after config.id) :
    ∃ row' ∈ rulesForConfig before config.id, SameRule row' row := by
  rcases mem_rulesForConfig.mp member with ⟨linkMember, linked⟩
  rw [grows.links found] at linkMember
  rcases sound.exists_linkedRule linkMember with ⟨row', linked'⟩
  have sameLink := (linkedRule_eq_some_iff.mp linked').2.2
  rcases grows.linkedRule linked' with ⟨category, again, sameId, sameKey⟩
  rw [linked, Option.some.injEq] at again
  refine ⟨row', mem_rulesForConfig.mpr ⟨?_, ?_⟩, ?_⟩
  · rw [sameLink]
    exact linkMember
  · rw [sameLink]
    exact linked'
  · rw [again]
    exact ⟨rfl, sameId, sameKey⟩

end ConfigTables.Extends

/-! ## Operations keep the tables well formed -/

namespace WellFormed

theorem find_version (wellFormed : WellFormed environment tables) {config : ConfigVersion}
    (member : config ∈ tables.configVersions) :
    tables.configVersion config.id = some config :=
  Table.get_of_mem wellFormed.versionIds member

/-- Changes in place. -/
theorem map (wellFormed : WellFormed environment before)
    (changeCategory : Category → Category) (changeVersion : ConfigVersion → ConfigVersion)
    (categoryId : ∀ row, (changeCategory row).id = row.id)
    (categoryKey : ∀ row, (changeCategory row).key = row.key)
    (versionFrozen : ∀ row, (changeVersion row).frozen = row.frozen)
    (published : ∀ row ∈ before.categories, (changeCategory row).Published)
    (categories : after.categories = before.categories.map changeCategory)
    (ruleVersions : after.ruleVersions = before.ruleVersions)
    (configVersions : after.configVersions = before.configVersions.map changeVersion)
    (configVersionRules : after.configVersionRules = before.configVersionRules) :
    WellFormed environment after := by
  have grows := ConfigTables.extends_of_map changeCategory changeVersion categoryId categoryKey
    versionFrozen categories ruleVersions configVersions configVersionRules
  have rulesOf : ∀ id, after.rulesOf id = before.rulesOf id := by
    intro id
    rw [ConfigTables.rulesOf, ruleVersions]
    rfl
  have sameIds : after.categories.map Category.id = before.categories.map Category.id := by
    rw [categories, List.map_map]
    exact List.map_congr_left fun row _ => categoryId row
  have sameKeys : after.categories.map Category.key = before.categories.map Category.key := by
    rw [categories, List.map_map]
    exact List.map_congr_left fun row _ => categoryKey row
  have sameVersionIds : after.configVersions.map ConfigVersion.id =
      before.configVersions.map ConfigVersion.id := by
    rw [configVersions, List.map_map]
    exact List.map_congr_left fun row _ => ConfigVersion.id_of_frozen (versionFrozen row)
  have sameNumbers : after.configVersions.map ConfigVersion.version =
      before.configVersions.map ConfigVersion.version := by
    rw [configVersions, List.map_map]
    exact List.map_congr_left fun row _ => ConfigVersion.version_of_frozen (versionFrozen row)
  refine ⟨?_, ?_, ?_, ?_, ?_, ?_, ?_, ?_, ?_, ?_, ?_⟩
  · rw [sameIds]
    exact wellFormed.categoryIds
  · rw [sameKeys]
    exact wellFormed.categoryKeys
  · rw [ruleVersions]
    exact wellFormed.ruleIds
  · rw [sameVersionIds]
    exact wellFormed.versionIds
  · rw [sameNumbers]
    exact wellFormed.versionNumbers
  · intro category member
    rw [categories] at member
    rcases List.mem_map.mp member with ⟨row, rowMember, rfl⟩
    exact published row rowMember
  · intro rule member
    rw [ruleVersions] at member
    rcases wellFormed.written rule member with ⟨category, categoryMember, owner, written⟩
    refine ⟨changeCategory category, ?_, (categoryId category).trans owner, ?_⟩
    · rw [categories]
      exact List.mem_map_of_mem categoryMember
    · rw [categoryKey]
      exact written
  · intro id
    rw [rulesOf]
    exact wellFormed.ruleNumbers id
  · intro id
    rw [rulesOf]
    exact wellFormed.ruleHashes id
  · intro config member
    rw [configVersions] at member
    rcases List.mem_map.mp member with ⟨row, rowMember, rfl⟩
    exact (wellFormed.sound row rowMember).mono grows (wellFormed.find_version rowMember)
      (versionFrozen row)
  · intro link member
    rw [configVersionRules] at member
    rcases wellFormed.links link member with ⟨config, configMember, owner⟩
    refine ⟨changeVersion config, ?_, ?_⟩
    · rw [configVersions]
      exact List.mem_map_of_mem configMember
    · rw [ConfigVersion.id_of_frozen (versionFrozen config), owner]

end WellFormed

end RollingBudget
