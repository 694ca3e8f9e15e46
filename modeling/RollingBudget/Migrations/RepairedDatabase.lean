import RollingBudget.Migrations.MoneyScaleRepair
import RollingBudget.System.Invariant

namespace RollingBudget

open MoneyScaleRepair

/-! The repair on the databases of the services. A snapshot is the JSON form of the request
that its version was created from, and a raw budget is the number of units that SQLite keeps
for a budget. -/

/-! ## Snapshots -/

/-- `model_dump(mode="json")` -/
def CategoryConfigInput.toJson (input : CategoryConfigInput) : Json :=
  .obj [
    ("key".toList, .str input.key),
    ("name".toList, .str input.name),
    ("icon".toList, match input.icon with
      | none => .null
      | some icon => .str icon),
    ("sort_order".toList, .nat input.sortOrder),
    ("budget_limit".toList, .str input.budgetLimit.str),
    ("budget_currency".toList, .str input.budgetCurrency),
    ("lookback_days".toList, .nat input.lookbackDays),
    ("classification_instruction".toList, .str input.classificationInstruction),
    ("enabled".toList, .bool input.enabled)]

/-- `model_dump(mode="json")` -/
def ConfigPutRequest.toJson (request : ConfigPutRequest) : Json :=
  .obj [
    ("timezone".toList, .str request.timezone),
    ("display_currency".toList, .str request.displayCurrency),
    ("aggregation_version".toList, .nat request.aggregationVersion),
    ("categories".toList, .arr (request.categories.map CategoryConfigInput.toJson))]

def ConfigVersion.row (config : ConfigVersion) : ConfigRow where
  status := config.status
  version := config.version
  sourceConfig := .document (JsonValue.ofJson config.sourceConfig.toJson)

/-! ## Databases -/

theorem signedUnits_ofScaled (units : Nat) :
    MoneyCodec.signedUnits (Decimal.ofScaled Money.scale units) = units := by
  have positive : (Decimal.ofScaled Money.scale units).negative = false := by
    simp [Decimal.ofScaled]
  unfold MoneyCodec.signedUnits
  rw [positive, Decimal.quantize_ofScaled_coefficient]
  simp

/-- The columns of a `categories` row on SQLite. -/
def budgetColumns : BudgetColumns Category where
  key := Category.key
  budgetLimit category := MoneyCodec.signedUnits category.budgetLimit
  setBudgetLimit budget category :=
    { category with budgetLimit := Decimal.ofScaled Money.scale budget }
  key_setBudgetLimit _ _ := rfl
  budgetLimit_setBudgetLimit budget _ := signedUnits_ofScaled budget

namespace Database

def repairTables (database : Database) : Tables Category where
  configVersions := database.config.configVersions.map ConfigVersion.row
  categories := database.config.categories
  ledger := database.ledger
  syncState := database.syncState

/-- The database with the tables that the repair wrote. -/
def withRepairTables (database : Database) (tables : Tables Category) : Database :=
  { database with
    config := { database.config with categories := tables.categories }
    ledger := tables.ledger
    syncState := tables.syncState }

/-- `_repair_sqlite_budgets` on a database of the services. -/
def repairSqliteBudgets (conversions : Conversions) (database : Database) :
    Except Raised Database :=
  (MoneyScaleRepair.repairSqliteBudgets conversions budgetColumns database.repairTables).map
    database.withRepairTables

end Database

variable {environment : Environment} {conversions : Conversions} {database : Database}
  {tables : ConfigTables}

/-! ## What the snapshots denote -/

theorem entries_row (config : ConfigVersion) :
    entries (mapping (JsonValue.ofJson config.sourceConfig.toJson)) =
      config.sourceConfig.categories.map fun item => JsonValue.ofJson item.toJson := by
  have listed : entries (mapping (JsonValue.ofJson config.sourceConfig.toJson)) =
      JsonValue.ofItems (config.sourceConfig.categories.map CategoryConfigInput.toJson) := rfl
  rw [listed, JsonValue.ofItems_eq_map, List.map_map]
  rfl

theorem decimalOf_budget (item : CategoryConfigInput) :
    decimalOf conversions (some (.str item.budgetLimit.str)) =
      if item.budgetLimit.Representable then some (.finite item.budgetLimit) else none :=
  Decimal.ofText_str _ _

/-- An entry of a snapshot is usable unless no decimal could have its budget. -/
theorem usable_iff {item : CategoryConfigInput} (valid : item.Valid) {key : Text} {budget : Nat} :
    Usable conversions (JsonValue.ofJson item.toJson) key budget ↔
      item.key = key ∧ item.budgetLimit.Representable ∧
        Money.units item.budgetLimit = budget := by
  have bounded : Money.units item.budgetLimit < 10 ^ Decimal.precision :=
    valid.budgetLimit.2.2.trans (by decide)
  have sign : item.budgetLimit.negative = true → Money.units item.budgetLimit = 0 := by
    intro negative
    have zero := valid.budgetLimit.1 negative
    simp [Money.units, Decimal.quantize, Decimal.roundHalfEven, zero]
  have nonempty : item.key ≠ [] := by
    intro empty
    have matched := valid.key
    rw [empty] at matched
    cases matched
  have denotes : Denotes conversions (some (.str item.budgetLimit.str)) budget ↔
      item.budgetLimit.Representable ∧ Money.units item.budgetLimit = budget := by
    unfold Denotes
    rw [decimalOf_budget]
    constructor
    · rintro ⟨number, found, rfl, _⟩
      rw [Option.ite_none_right_eq_some] at found
      rcases found with ⟨representable, same⟩
      cases same
      exact ⟨representable, rfl⟩
    · rintro ⟨representable, rfl⟩
      rw [if_pos representable]
      exact ⟨item.budgetLimit, rfl, rfl, bounded, sign⟩
  constructor
  · rintro ⟨fields, same, keyFound, _, denoted⟩
    cases same
    cases keyFound
    exact ⟨rfl, denotes.mp denoted⟩
  · rintro ⟨rfl, denoted⟩
    exact ⟨_, rfl, rfl, nonempty, denotes.mpr denoted⟩

/-- Keys are unique, so that every usable entry is the last of its key. -/
theorem lastUsable_iff {items : List CategoryConfigInput} (valid : ∀ item ∈ items, item.Valid)
    (nodup : (items.map CategoryConfigInput.key).Nodup) {key : Text} {budget : Nat} :
    LastUsable conversions (items.map fun item => JsonValue.ofJson item.toJson) key budget ↔
      ∃ item ∈ items, item.key = key ∧ item.budgetLimit.Representable ∧
        Money.units item.budgetLimit = budget := by
  constructor
  · rintro ⟨before, entry, after, split, usable, _⟩
    have member : entry ∈ items.map fun item => JsonValue.ofJson item.toJson := by
      rw [split]
      simp
    rcases List.mem_map.mp member with ⟨item, itemMember, rfl⟩
    exact ⟨item, itemMember, (usable_iff (valid item itemMember)).mp usable⟩
  · rintro ⟨item, member, usable⟩
    rcases List.append_of_mem member with ⟨before, after, rfl⟩
    refine ⟨_, _, _, by rw [List.map_append, List.map_cons],
      (usable_iff (valid item member)).mpr usable, ?_⟩
    intro later laterMember other alsoUsable
    rcases List.mem_map.mp laterMember with ⟨source, sourceMember, rfl⟩
    have same := ((usable_iff (valid source (by simp [sourceMember]))).mp alsoUsable).1
    rw [List.map_append, List.map_cons, List.nodup_append, List.nodup_cons] at nodup
    apply nodup.2.1.1
    rw [usable.1, ← same]
    exact List.mem_map_of_mem sourceMember

theorem freeOfNaN_snapshot (items : List CategoryConfigInput) :
    FreeOfNaN conversions (items.map fun item => JsonValue.ofJson item.toJson) := by
  intro fields member
  rcases List.mem_map.mp member with ⟨item, _, same⟩
  cases same
  intro isNaN
  have read := @decimalOf_budget conversions item
  rw [show decimalOf conversions (some (.str item.budgetLimit.str)) = _ from isNaN] at read
  split at read
  · cases read
  · cases read

theorem shallow_snapshot (items : List CategoryConfigInput) :
    Shallow conversions (items.map fun item => JsonValue.ofJson item.toJson) := by
  intro fields member
  rcases List.mem_map.mp member with ⟨item, _, same⟩
  cases same
  exact Nat.zero_le _

/-- The snapshot that is compared is that of the active version. -/
theorem jsonDocument_active (shape : Shape tables.configVersions) :
    jsonDocument conversions (activeSourceConfig (tables.configVersions.map ConfigVersion.row)) =
      .ok (tables.active.bind fun config =>
        mapping (JsonValue.ofJson config.sourceConfig.toJson)) := by
  have filtered : (tables.configVersions.map ConfigVersion.row).filter
      (fun row => row.status = .active) =
        (tables.configVersions.filter fun config => config.status = .active).map
          ConfigVersion.row := by
    rw [List.filter_map]
    rfl
  unfold activeSourceConfig
  rw [filtered]
  cases found : tables.active with
  | none =>
      have empty : (tables.configVersions.filter fun config => config.status = .active) = [] := by
        rw [List.filter_eq_nil_iff]
        exact List.find?_eq_none.mp found
      rw [empty]
      rfl
  | some active =>
      rcases ConfigTables.active_mem found with ⟨member, isActive⟩
      have only : ∀ row ∈ (tables.configVersions.filter fun config =>
          config.status = .active).map ConfigVersion.row, row = active.row := by
        intro row rowMember
        rcases List.mem_map.mp rowMember with ⟨config, configMember, rfl⟩
        rcases List.mem_filter.mp configMember with ⟨inTable, alsoActive⟩
        rw [shape.oneActive config inTable active member (of_decide_eq_true alsoActive) isActive]
      split
      · next none =>
        rw [List.head?_eq_none_iff] at none
        have present : active.row ∈ Sorting.sortedOn
            (fun row : ConfigRow => OrderDual.toDual row.version)
            ((tables.configVersions.filter fun config => config.status = .active).map
              ConfigVersion.row) :=
          Sorting.mem_sortedOn.mpr (List.mem_map_of_mem
            (List.mem_filter.mpr ⟨member, decide_eq_true isActive⟩))
        rw [none] at present
        cases present
      · next row head =>
        rw [only row (Sorting.mem_sortedOn.mp (List.mem_of_head? head))]
        rfl

/-- The dictionary of budgets is the active snapshot. -/
theorem activeBudgetLimits_active (invariant : ConfigInvariant environment tables) :
    ∃ budgets, activeBudgetLimits conversions (tables.configVersions.map ConfigVersion.row) =
        .ok budgets ∧
      ∀ key budget, budgets.lookup key = some budget ↔
        ∃ active, tables.active = some active ∧ ∃ item ∈ active.sourceConfig.categories,
          item.key = key ∧ item.budgetLimit.Representable ∧
            Money.units item.budgetLimit = budget := by
  unfold activeBudgetLimits
  rw [jsonDocument_active invariant.shape, Outcome.ok_bind]
  cases found : tables.active with
  | none => exact ⟨[], rfl, by simp⟩
  | some active =>
      have valid := (invariant.wellFormed.sound active (ConfigTables.active_mem found).1).valid
      rw [Option.bind_some, entries_row]
      rcases foldlM_assignBudget (shallow_snapshot active.sourceConfig.categories)
        (@freeOfNaN_snapshot conversions active.sourceConfig.categories)
        with ⟨budgets, folded, listed⟩
      refine ⟨budgets, folded, fun key budget => ?_⟩
      rw [listed, lastUsable_iff valid.categories valid.uniqueKeys]
      simp

/-! ## The repair -/

/-- A budget is not ten thousand times a nonzero budget of a snapshot. Every decimal that can
be built is representable. -/
def Apart (source budget : Decimal) : Prop :=
  source.Representable → Money.units source ≠ 0 →
    MoneyCodec.signedUnits budget ≠ (10000 * Money.units source : Nat)

/-- No live budget is ten thousand times the budget of its category in the active snapshot. -/
def InScale (tables : ConfigTables) : Prop :=
  ∀ active, tables.active = some active → ∀ source ∈ active.sourceConfig.categories,
    ∀ category ∈ tables.categories, category.key = source.key →
      Apart source.budgetLimit category.budgetLimit

/-- The repair of a database of the services raises nothing. It changes nothing when every
budget is in scale, and otherwise it empties the live tables and changes budgets only. -/
theorem repairSqliteBudgets_spec (conversions : Conversions)
    (invariant : ConfigInvariant environment database.config) :
    ∃ after, database.repairSqliteBudgets conversions = .ok after ∧
      (InScale database.config → after = database) ∧
      (¬InScale database.config → after.ledger = ⟨[], []⟩ ∧ after.syncState = none ∧
        after.refresh = database.refresh ∧ after.config ≠ database.config) := by
  rcases @activeBudgetLimits_active environment conversions database.config invariant with
    ⟨budgets, collected, listed⟩
  have computed := @repairSqliteBudgets_eq conversions _ budgetColumns budgets
    database.repairTables invariant.wellFormed.categoryKeys collected
  have any_iff : (database.repairTables.categories.any fun category =>
      (target budgetColumns budgets category).isSome) = true ↔ ¬InScale database.config := by
    simp only [List.any_eq_true, Option.isSome_iff_exists, target_eq_some, listed]
    unfold InScale Apart
    push Not
    constructor
    · rintro ⟨category, member, budget, ⟨active, found, source, sourceMember, key,
        representable, rfl⟩, nonzero, scaled⟩
      refine ⟨active, found, source, sourceMember, category, member, key.symm, representable,
        nonzero, ?_⟩
      rw [mul_comm]
      exact scaled
    · rintro ⟨active, found, source, sourceMember, category, member, key, representable, nonzero,
        scaled⟩
      refine ⟨category, member, _, ⟨active, found, source, sourceMember, key.symm, representable,
        rfl⟩, nonzero, ?_⟩
      rw [mul_comm] at scaled
      exact scaled
  refine ⟨_, by rw [Database.repairSqliteBudgets, computed]; rfl, ?_, ?_⟩
  · intro inScale
    rw [afterRepair, if_neg fun any => any_iff.mp any inScale]
    rfl
  · intro outside
    have any := any_iff.mpr outside
    rw [afterRepair, if_pos any]
    refine ⟨rfl, rfl, rfl, fun same => ?_⟩
    rcases List.any_eq_true.mp any with ⟨category, member, isTarget⟩
    have kept : database.config.categories.map (repaired budgetColumns budgets) =
        database.config.categories := congrArg ConfigTables.categories same
    have fixed : repaired budgetColumns budgets category = category :=
      List.map_inj_left.mp (kept.trans (List.map_id _).symm) category member
    have again := @target_repaired _ budgetColumns budgets category
    rw [fixed] at again
    rw [again] at isTarget
    cases isTarget

end RollingBudget
