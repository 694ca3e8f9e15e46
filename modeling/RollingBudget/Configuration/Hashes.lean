import RollingBudget.Configuration.WellFormed

namespace RollingBudget

open Sorting ConfigService

/-! What equal hashes say once the digest is free of collisions: each of the three
payloads determines the fields it is written from. -/

variable {environment : Environment}

/-- The fields a rule hash covers. -/
structure SameSemantics (left right : CategoryConfigInput) : Prop where
  key : left.key = right.key
  lookbackDays : left.lookbackDays = right.lookbackDays
  classificationInstruction : left.classificationInstruction = right.classificationInstruction
  enabled : left.enabled = right.enabled

/-- The editable fields agree, the budgets in the given sense. -/
structure SameItem (agree : Decimal → Decimal → Prop) (left right : CategoryConfigInput) : Prop
    extends SameSemantics left right where
  name : left.name = right.name
  icon : left.icon = right.icon
  sortOrder : left.sortOrder = right.sortOrder
  budgetLimit : agree left.budgetLimit right.budgetLimit
  budgetCurrency : left.budgetCurrency = right.budgetCurrency

/-- The budgets agree at the places money is stored with, sign included. -/
def SameQuantized (left right : Decimal) : Prop :=
  left.quantize Money.scale = right.quantize Money.scale

/-- Two categories agree in every editable field, their budgets as numbers. -/
abbrev SameFields : CategoryConfigInput → CategoryConfigInput → Prop :=
  SameItem fun left right => left.value = right.value

/-- Two requests agree in every editable field; the order of their categories is none. -/
structure SameSnapshot (left right : ConfigPutRequest) : Prop where
  timezone : left.timezone = right.timezone
  displayCurrency : left.displayCurrency = right.displayCurrency
  aggregationVersion : left.aggregationVersion = right.aggregationVersion
  categories : List.Forall₂ SameFields (sortedOn CategoryConfigInput.key left.categories)
    (sortedOn CategoryConfigInput.key right.categories)

/-! ## Rule hashes -/

theorem ruleHash_eq_iff (injective : Function.Injective environment.sha256)
    {left right : CategoryConfigInput} :
    ruleHash environment left = ruleHash environment right ↔ SameSemantics left right := by
  constructor
  · intro equal
    have fields := Json.forall₂_of_sortKeys_obj_eq
      (Json.sortKeys_eq_of_dumps_eq (Environment.dumps_eq_of_sha256Hex_eq injective equal))
      ["category_key".toList, "lookback_days".toList, "classification_instruction".toList,
        "enabled".toList] (by decide +kernel) rfl rfl
    simp only [List.forall₂_cons, Json.sortKeys, Json.str.injEq, Json.nat.injEq, Json.bool.injEq,
      List.forall₂_nil_left_iff] at fields
    rcases fields with ⟨key, lookbackDays, instruction, enabled, _⟩
    exact ⟨key, lookbackDays, instruction, enabled⟩
  · rintro ⟨key, lookbackDays, instruction, enabled⟩
    rw [ruleHash, key, lookbackDays, instruction, enabled]
    rfl

/-- What a join row says about its category of the stored request. -/
theorem Matches.semantics {tables : ConfigTables} {link : ConfigVersionRule}
    {item : CategoryConfigInput} {row : LinkedRule} (wellFormed : WellFormed environment tables)
    (injective : Function.Injective environment.sha256)
    (joined : linkedRule tables link = some row) (matching : Matches environment item row) :
    SameSemantics row.toInput item := by
  have ruleFound := (linkedRule_eq_some_iff.mp joined).1
  rcases wellFormed.written row.rule (Table.mem_of_get ruleFound) with
    ⟨category, categoryMember, owner, source, _, sourceKey, lookbackDays, instruction, enabled, hash⟩
  have same := (ruleHash_eq_iff injective).mp (hash.symm.trans matching.hash)
  exact ⟨matching.key, lookbackDays.trans same.lookbackDays,
    instruction.trans same.classificationInstruction, enabled.trans same.enabled⟩

/-! ## Semantic hashes -/

private theorem semanticPayload_injective {timezone timezone' displayCurrency displayCurrency' : Text}
    {aggregationVersion aggregationVersion' : Nat} {rules rules' : List (Text × Text)}
    (equal : (semanticPayload timezone displayCurrency aggregationVersion rules).dumps =
      (semanticPayload timezone' displayCurrency' aggregationVersion' rules').dumps) :
    timezone = timezone' ∧ displayCurrency = displayCurrency' ∧
      aggregationVersion = aggregationVersion' ∧ rules = rules' := by
  have fields := Json.forall₂_of_sortKeys_obj_eq (Json.sortKeys_eq_of_dumps_eq equal)
    ["timezone".toList, "display_currency".toList, "aggregation_version".toList, "rules".toList]
    (by decide +kernel) rfl rfl
  simp only [List.forall₂_cons, Json.sortKeys, Json.str.injEq, Json.nat.injEq, Json.arr.injEq,
    Json.sortItems_eq_map, List.map_map, List.forall₂_nil_left_iff] at fields
  rcases fields with ⟨timezones, currencies, versions, ruleObjects, _⟩
  refine ⟨timezones, currencies, versions, List.map_injective_iff.mpr ?_ ruleObjects⟩
  intro first second objects
  have entries := Json.forall₂_of_sortKeys_obj_eq objects
    ["category_key".toList, "rule_hash".toList] (by decide +kernel) rfl rfl
  simp only [List.forall₂_cons, Json.sortKeys, Json.str.injEq, List.forall₂_nil_left_iff] at entries
  exact Prod.ext entries.1 entries.2.1

/-- Requests with one semantic hash agree in everything but display and budgets. -/
theorem perm_ruleHashes_of_configHash_eq (injective : Function.Injective environment.sha256)
    {left right : ConfigPutRequest}
    (equal : configHash environment left = configHash environment right) :
    left.timezone = right.timezone ∧ left.displayCurrency = right.displayCurrency ∧
      left.aggregationVersion = right.aggregationVersion ∧
      (ruleHashes environment left).Perm (ruleHashes environment right) := by
  rcases semanticPayload_injective (Environment.dumps_eq_of_sha256Hex_eq injective equal) with
    ⟨timezone, currency, version, rules⟩
  exact ⟨timezone, currency, version, perm_of_sortedOn_eq rules⟩

theorem map_fst_ruleHashes (request : ConfigPutRequest) :
    (ruleHashes environment request).map Prod.fst = request.keys := by
  rw [ruleHashes, List.map_map]
  rfl

theorem perm_keys_of_configHash_eq (injective : Function.Injective environment.sha256)
    {left right : ConfigPutRequest}
    (equal : configHash environment left = configHash environment right) :
    left.keys.Perm right.keys := by
  have perm := (perm_ruleHashes_of_configHash_eq injective equal).2.2.2.map Prod.fst
  rw [map_fst_ruleHashes, map_fst_ruleHashes] at perm
  exact perm

/-! ## Edit hashes -/

private theorem forall₂_of_map_eq {α β : Type} {read : α → β} {left right : List α}
    (equal : left.map read = right.map read) :
    List.Forall₂ (fun first second => read first = read second) left right := by
  have pairs : List.Forall₂ (· = ·) (left.map read) (right.map read) := by
    rw [equal]
    exact List.forall₂_refl _
  exact List.forall₂_map_right_iff.mp (List.forall₂_map_left_iff.mp pairs)

private theorem sameItem_of_editPayload_eq {left right : CategoryConfigInput}
    (equal : (editPayload left).sortKeys = (editPayload right).sortKeys) :
    SameItem SameQuantized left right := by
  have fields := Json.forall₂_of_sortKeys_obj_eq equal
    ["key".toList, "name".toList, "icon".toList, "sort_order".toList, "budget_limit".toList,
      "budget_currency".toList, "lookback_days".toList, "classification_instruction".toList,
      "enabled".toList] (by decide +kernel) rfl rfl
  simp only [List.forall₂_cons, Json.sortKeys, Json.str.injEq, Json.nat.injEq, Json.bool.injEq,
    List.forall₂_nil_left_iff] at fields
  rcases fields with ⟨key, name, icon, sortOrder, budget, currency, lookbackDays, instruction,
    enabled, _⟩
  exact {
    key, name, sortOrder, lookbackDays, enabled
    icon := sortKeys_ofOption_injective icon
    classificationInstruction := instruction
    budgetCurrency := currency
    budgetLimit := (Decimal.formatFixed_quantize_eq_iff Money.scale _ _).mp budget }

theorem editPayload_eq {left right : CategoryConfigInput} (same : SameItem SameQuantized left right) :
    editPayload left = editPayload right := by
  have budget : budgetText left.budgetLimit = budgetText right.budgetLimit :=
    congrArg Decimal.formatFixed same.budgetLimit
  rw [editPayload, same.key, same.name, same.icon, same.sortOrder, budget, same.budgetCurrency,
    same.lookbackDays, same.classificationInstruction, same.enabled]
  rfl

theorem SameItem.value {left right : CategoryConfigInput}
    (same : SameItem SameQuantized left right)
    (leftPlaces : left.budgetLimit.FitsPlaces Money.scale)
    (rightPlaces : right.budgetLimit.FitsPlaces Money.scale) : SameFields left right := by
  refine { same with budgetLimit := ?_ }
  rw [← Decimal.value_quantize leftPlaces, same.budgetLimit, Decimal.value_quantize rightPlaces]

/-- Equal edit hashes come from payloads that agree field by field. -/
theorem forall₂_of_editHash_eq (injective : Function.Injective environment.sha256)
    {left right : ConfigPutRequest}
    (equal : editHashForRequest environment left = editHashForRequest environment right) :
    left.timezone = right.timezone ∧ left.displayCurrency = right.displayCurrency ∧
      left.aggregationVersion = right.aggregationVersion ∧
      List.Forall₂ (SameItem SameQuantized) (sortedOn CategoryConfigInput.key left.categories)
        (sortedOn CategoryConfigInput.key right.categories) := by
  have fields := Json.forall₂_of_sortKeys_obj_eq
    (Json.sortKeys_eq_of_dumps_eq (Environment.dumps_eq_of_sha256Hex_eq injective equal))
    ["timezone".toList, "display_currency".toList, "aggregation_version".toList,
      "categories".toList] (by decide +kernel) rfl rfl
  simp only [List.forall₂_cons, Json.sortKeys, Json.str.injEq, Json.nat.injEq, Json.arr.injEq,
    Json.sortItems_eq_map, List.map_map, List.forall₂_nil_left_iff] at fields
  rcases fields with ⟨timezone, displayCurrency, aggregationVersion, payloads, _⟩
  exact ⟨timezone, displayCurrency, aggregationVersion,
    (forall₂_of_map_eq payloads).imp fun _ _ => sameItem_of_editPayload_eq⟩

/-- The edit hash depends on every editable field. -/
theorem sameSnapshot_of_editHash_eq (injective : Function.Injective environment.sha256)
    {left right : ConfigPutRequest} (leftValid : left.Valid) (rightValid : right.Valid)
    (equal : editHashForRequest environment left = editHashForRequest environment right) :
    SameSnapshot left right := by
  rcases forall₂_of_editHash_eq injective equal with
    ⟨timezone, displayCurrency, aggregationVersion, pairs⟩
  refine ⟨timezone, displayCurrency, aggregationVersion, ?_⟩
  have places : ∀ {request : ConfigPutRequest}, request.Valid →
      ∀ item ∈ sortedOn CategoryConfigInput.key request.categories,
        item.budgetLimit.FitsPlaces Money.scale :=
    fun valid item member => (valid.categories item (mem_sortedOn.mp member)).budgetLimit.2.1
  rcases List.forall₂_iff_get.mp pairs with ⟨lengths, each⟩
  refine List.forall₂_iff_get.mpr ⟨lengths, fun position leftBound rightBound => ?_⟩
  exact (each position leftBound rightBound).value (places leftValid _ (List.get_mem _ _))
    (places rightValid _ (List.get_mem _ _))

/-- Snapshots with the same keys agree as soon as categories under one key agree. -/
theorem forall₂_of_keys {left right : ConfigPutRequest} (nodup : left.keys.Nodup)
    (keys : left.keys.Perm right.keys)
    {related : CategoryConfigInput → CategoryConfigInput → Prop}
    (agree : ∀ first ∈ left.categories, ∀ second ∈ right.categories, first.key = second.key →
      related first second) :
    List.Forall₂ related (sortedOn CategoryConfigInput.key left.categories)
      (sortedOn CategoryConfigInput.key right.categories) := by
  have sortedKeys : (sortedOn CategoryConfigInput.key left.categories).map CategoryConfigInput.key =
      (sortedOn CategoryConfigInput.key right.categories).map CategoryConfigInput.key := by
    rw [map_sortedOn CategoryConfigInput.key CategoryConfigInput.key id (fun _ => rfl),
      map_sortedOn CategoryConfigInput.key CategoryConfigInput.key id (fun _ => rfl)]
    refine sortedOn_eq_of_perm id keys ?_
    rw [List.map_id]
    exact nodup
  rcases List.forall₂_iff_get.mp (forall₂_of_map_eq sortedKeys) with ⟨lengths, sameKey⟩
  refine List.forall₂_iff_get.mpr ⟨lengths, fun position leftBound rightBound => ?_⟩
  exact agree _ (mem_sortedOn.mp (List.get_mem _ _)) _ (mem_sortedOn.mp (List.get_mem _ _))
    (sameKey position leftBound rightBound)

end RollingBudget
