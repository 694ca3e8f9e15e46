import RollingBudget.Configuration.WellFormed

namespace RollingBudget

open Sorting ConfigService

/-! The selection loop of a configuration write: it inserts the categories and rules a
request needs and picks one rule row for each requested category. -/

variable {environment : Environment} {tables after : ConfigTables}

/-! ## Adding one row -/

namespace WellFormed

private theorem sound_of_appends (wellFormed : WellFormed environment tables)
    (appends : tables.Appends after) {config : ConfigVersion}
    (member : config ∈ after.configVersions) : Sound environment after config := by
  rw [appends.configVersions] at member
  exact (wellFormed.sound config member).mono appends.extend (wellFormed.find_version member) rfl

theorem appendCategory (wellFormed : WellFormed environment tables) {category : Category}
    (freshId : ∀ old ∈ tables.categories, old.id ≠ category.id)
    (freshKey : ∀ old ∈ tables.categories, old.key ≠ category.key)
    (published : category.Published) :
    WellFormed environment { tables with categories := tables.categories ++ [category] } := by
  have appends : tables.Appends { tables with categories := tables.categories ++ [category] } :=
    ⟨List.prefix_append _ _, List.prefix_rfl, rfl, rfl⟩
  refine {
    categoryIds := Table.nodup_map_concat wellFormed.categoryIds freshId
    categoryKeys := Table.nodup_map_concat wellFormed.categoryKeys freshKey
    ruleIds := wellFormed.ruleIds
    versionIds := wellFormed.versionIds
    versionNumbers := wellFormed.versionNumbers
    published := ?_
    written := ?_
    ruleNumbers := wellFormed.ruleNumbers
    ruleHashes := wellFormed.ruleHashes
    sound := fun config member => sound_of_appends wellFormed appends member
    links := wellFormed.links }
  · intro row member
    rcases List.mem_append.mp member with old | new
    · exact wellFormed.published row old
    · rw [List.mem_singleton.mp new]
      exact published
  · intro rule member
    rcases wellFormed.written rule member with ⟨owner, ownerMember, owns, written⟩
    exact ⟨owner, List.mem_append_left _ ownerMember, owns, written⟩

private theorem rulesOf_concat (rule : RuleVersion) (id : Nat) :
    ConfigTables.rulesOf { tables with ruleVersions := tables.ruleVersions ++ [rule] } id =
      tables.rulesOf id ++ if rule.categoryId = id then [rule] else [] := by
  simp only [ConfigTables.rulesOf, List.filter_append]
  congr 1
  by_cases owns : rule.categoryId = id <;> simp [owns]

/-- A rule row whose hash is new to its category, under the next version number. -/
theorem appendRule (wellFormed : WellFormed environment tables) {rule : RuleVersion}
    (freshId : ∀ old ∈ tables.ruleVersions, old.id ≠ rule.id)
    (freshHash : ∀ old ∈ tables.ruleVersions, old.categoryId = rule.categoryId →
      old.ruleHash ≠ rule.ruleHash)
    (next : rule.version = (tables.rulesOf rule.categoryId).length + 1)
    (written : ∃ category ∈ tables.categories, category.id = rule.categoryId ∧
      rule.Written environment category.key) :
    WellFormed environment { tables with ruleVersions := tables.ruleVersions ++ [rule] } := by
  have appends :
      tables.Appends { tables with ruleVersions := tables.ruleVersions ++ [rule] } :=
    ⟨List.prefix_rfl, List.prefix_append _ _, rfl, rfl⟩
  refine {
    categoryIds := wellFormed.categoryIds
    categoryKeys := wellFormed.categoryKeys
    ruleIds := Table.nodup_map_concat wellFormed.ruleIds freshId
    versionIds := wellFormed.versionIds
    versionNumbers := wellFormed.versionNumbers
    published := wellFormed.published
    written := ?_
    ruleNumbers := ?_
    ruleHashes := ?_
    sound := fun config member => sound_of_appends wellFormed appends member
    links := wellFormed.links }
  · intro row member
    rcases List.mem_append.mp member with old | new
    · exact wellFormed.written row old
    · rw [List.mem_singleton.mp new]
      exact written
  · intro id
    rw [rulesOf_concat]
    by_cases owns : rule.categoryId = id
    · subst owns
      rw [if_pos rfl, List.map_append, List.length_append, wellFormed.ruleNumbers]
      simp only [List.map_cons, List.map_nil, List.length_singleton]
      rw [List.range'_concat, next]
      simp [Nat.add_comm]
    · rw [if_neg owns, List.append_nil]
      exact wellFormed.ruleNumbers id
  · intro id
    rw [rulesOf_concat]
    by_cases owns : rule.categoryId = id
    · subst owns
      rw [if_pos rfl]
      apply Table.nodup_map_concat (wellFormed.ruleHashes rule.categoryId)
      intro old member
      rcases List.mem_filter.mp member with ⟨oldMember, sameOwner⟩
      exact freshHash old oldMember (of_decide_eq_true sameOwner)
    · rw [if_neg owns, List.append_nil]
      exact wellFormed.ruleHashes id

end WellFormed

/-! ## One round -/

theorem ensureCategory_spec (wellFormed : WellFormed environment tables)
    {item : CategoryConfigInput} (valid : item.Valid) :
    tables.Appends (ensureCategory tables item).1 ∧
      WellFormed environment (ensureCategory tables item).1 ∧
      (ensureCategory tables item).2 ∈ (ensureCategory tables item).1.categories ∧
      (ensureCategory tables item).2.key = item.key ∧
      ∀ category ∈ (ensureCategory tables item).1.categories, category ∈ tables.categories ∨
        (item.key = category.key ∧ present item category = category) := by
  unfold ensureCategory
  split
  · next category found =>
    exact ⟨ConfigTables.Appends.refl tables, wellFormed, Table.mem_of_get found,
      Table.key_of_get found, fun _ => Or.inl⟩
  · next missing =>
    refine ⟨⟨List.prefix_append _ _, List.prefix_rfl, rfl, rfl⟩, ?_,
      List.mem_append_right _ (List.mem_singleton.mpr rfl), rfl, ?_⟩
    rotate_left
    · intro category member
      rcases List.mem_append.mp member with old | new
      · exact Or.inl old
      · rw [List.mem_singleton.mp new]
        exact Or.inr ⟨rfl, rfl⟩
    apply wellFormed.appendCategory
    · exact fun old member => Table.ne_freshId_map member
    · exact Table.get_eq_none_iff.mp missing
    · exact ⟨item, valid, rfl, rfl⟩

theorem ensureRule_spec (wellFormed : WellFormed environment tables)
    {item : CategoryConfigInput} (valid : item.Valid) {category : Category}
    (member : category ∈ tables.categories) (key : category.key = item.key) :
    tables.Appends (ensureRule environment tables category.id item).1 ∧
      WellFormed environment (ensureRule environment tables category.id item).1 ∧
      (ensureRule environment tables category.id item).2 ∈
        (ensureRule environment tables category.id item).1.ruleVersions ∧
      (ensureRule environment tables category.id item).2.categoryId = category.id ∧
      (ensureRule environment tables category.id item).2.ruleHash = ruleHash environment item ∧
      (ensureRule environment tables category.id item).1.categories = tables.categories := by
  unfold ensureRule
  split
  · next rule found =>
    have matching := List.find?_some found
    simp only [decide_eq_true_eq] at matching
    exact ⟨ConfigTables.Appends.refl tables, wellFormed, List.mem_of_find?_eq_some found,
      matching.1, matching.2, rfl⟩
  · next missing =>
    refine ⟨⟨List.prefix_rfl, List.prefix_append _ _, rfl, rfl⟩, ?_,
      List.mem_append_right _ (List.mem_singleton.mpr rfl), rfl, rfl, rfl⟩
    apply wellFormed.appendRule
    · exact fun old oldMember => Table.ne_freshId_map oldMember
    · intro old oldMember owner sameHash
      have absent := List.find?_eq_none.mp missing old oldMember
      simp only [decide_eq_true_eq] at absent
      exact absent ⟨owner, sameHash⟩
    · have numbers := wellFormed.ruleNumbers category.id
      show Table.freshId ((tables.rulesOf category.id).map RuleVersion.version) = _
      rw [numbers, Table.freshId_range']
    · exact ⟨category, member, rfl, item, valid, key.symm, rfl, rfl, rfl, rfl⟩

/-! ## The loop -/

/-- The rule picked for a requested category. -/
def Chosen (environment : Environment) (tables : ConfigTables) (item : CategoryConfigInput)
    (choice : Nat × Nat) : Prop :=
  ∃ category rule, tables.category choice.1 = some category ∧
    tables.ruleVersion choice.2 = some rule ∧ category.key = item.key ∧
    rule.categoryId = category.id ∧ rule.ruleHash = ruleHash environment item

theorem Chosen.mono {item : CategoryConfigInput} {choice : Nat × Nat}
    (chosen : Chosen environment tables item choice) (appends : tables.Appends after) :
    Chosen environment after item choice := by
  rcases chosen with ⟨category, rule, categoryFound, ruleFound, rest⟩
  exact ⟨category, rule, appends.category categoryFound, appends.ruleVersion ruleFound, rest⟩

/-- What the selection loop has established after some of its rounds. -/
structure Selected (environment : Environment) (tables : ConfigTables)
    (items : List CategoryConfigInput) (progress : ConfigTables × List (Nat × Nat)) : Prop where
  appends : tables.Appends progress.1
  wellFormed : WellFormed environment progress.1
  choices : List.Forall₂ (Chosen environment progress.1) items progress.2
  created : ∀ category ∈ progress.1.categories, category ∈ tables.categories ∨
    ∃ item ∈ items, item.key = category.key ∧ present item category = category

theorem Selected.step {items : List CategoryConfigInput}
    {progress : ConfigTables × List (Nat × Nat)}
    (selected : Selected environment tables items progress) {item : CategoryConfigInput}
    (valid : item.Valid) :
    Selected environment tables (items ++ [item]) (selectRule environment progress item) := by
  rcases ensureCategory_spec selected.wellFormed valid with
    ⟨appendsCategory, withCategory, categoryMember, categoryKey, categoryCreated⟩
  rcases ensureRule_spec withCategory valid categoryMember categoryKey with
    ⟨appendsRule, withRule, ruleMember, ruleOwner, ruleHash, sameCategories⟩
  have appends := appendsCategory.trans appendsRule
  refine ⟨selected.appends.trans appends, withRule, ?_, ?_⟩
  · refine List.rel_append ?_ (List.Forall₂.cons ?_ List.Forall₂.nil)
    · exact selected.choices.imp fun _ _ chosen => chosen.mono appends
    · exact ⟨_, _,
        appendsRule.category (Table.get_of_mem withCategory.categoryIds categoryMember),
        Table.get_of_mem withRule.ruleIds ruleMember, categoryKey, ruleOwner, ruleHash⟩
  · intro category member
    have before : category ∈ (ensureCategory progress.1 item).1.categories := by
      rw [← sameCategories]
      exact member
    rcases categoryCreated category before with old | new
    · rcases selected.created category old with older | ⟨source, sourceMember, rest⟩
      · exact Or.inl older
      · exact Or.inr ⟨source, List.mem_append_left _ sourceMember, rest⟩
    · exact Or.inr ⟨item, by simp, new⟩

theorem selectRules_spec (wellFormed : WellFormed environment tables)
    {request : ConfigPutRequest} (valid : request.Valid) :
    Selected environment tables request.categories (selectRules environment tables request) := by
  have general : ∀ rest done progress, (∀ item ∈ rest, item.Valid) →
      Selected environment tables done progress →
      Selected environment tables (done ++ rest)
        (rest.foldl (selectRule environment) progress) := by
    intro rest
    induction rest with
    | nil =>
        intro done progress _ selected
        simpa using selected
    | cons item rest induction =>
        intro done progress allValid selected
        rcases List.forall_mem_cons.mp allValid with ⟨itemValid, restValid⟩
        have advanced := induction (done ++ [item]) _ restValid (selected.step itemValid)
        simpa using advanced
  exact general request.categories [] (tables, []) valid.categories
    ⟨ConfigTables.Appends.refl tables, wellFormed, List.Forall₂.nil, fun _ => Or.inl⟩

end RollingBudget
