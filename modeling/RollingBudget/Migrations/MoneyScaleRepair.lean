import RollingBudget.Database.MoneyCodec
import RollingBudget.Database.Models
import RollingBudget.Foundation.Bytes
import RollingBudget.Foundation.DecimalText
import RollingBudget.Foundation.Outcome

namespace RollingBudget.MoneyScaleRepair

/-! Revision `0004_sqlite_money_scale_repair`. It compares the raw budgets of `categories`
with the budgets in the active configuration snapshot, divides those that are ten thousand
times too large, and then empties the live tables. -/

/-! ## Tables -/

/-- What a driver hands over for the column `source_config`. -/
inductive SourceConfig where
  | null
  | text (value : Text)
  | blob (value : Bytes)
  | document (value : JsonValue)

/-- The columns of `config_versions` that the repair reads. -/
structure ConfigRow where
  status : ConfigVersionStatus
  version : Nat
  sourceConfig : SourceConfig

/-- How the statements of the repair read and write a row of `categories`. -/
structure BudgetColumns (Row : Type) where
  key : Row → Text
  budgetLimit : Row → Int
  setBudgetLimit : Nat → Row → Row
  key_setBudgetLimit : ∀ budget row, key (setBudgetLimit budget row) = key row
  budgetLimit_setBudgetLimit : ∀ budget row, budgetLimit (setBudgetLimit budget row) = budget

structure Tables (Row : Type) where
  configVersions : List ConfigRow
  categories : List Row
  ledger : LedgerTables
  syncState : Option SyncState

/-- The exceptions that the repair does not catch. `loads` stands for all that `json.loads`
raises. -/
inductive Raised where
  | loads
  | unicodeDecodeError
  | recursionError
  | invalidOperation
deriving DecidableEq

/-! ## Budgets of the snapshot -/

/-- What the interpreter brings along: `str(float(literal))`, the value of a decimal digit
outside ASCII, and how many lists and dictionaries within one another `json.loads` and `str` get
through before they reach the recursion limit. -/
structure Conversions where
  floatText : Text → Text
  decimalDigit : Char → Option Nat
  jsonNesting : Nat
  strNesting : Nat

/-- The fields of a value that is a `Mapping`. -/
def mapping : JsonValue → Option (List (JsonString × JsonValue))
  | .obj fields => some fields
  | _ => none

variable (conversions : Conversions)

/-- `_json_document` -/
def jsonDocument : SourceConfig → Except Raised (Option (List (JsonString × JsonValue)))
  | .null => .ok none
  | .text value => (orRaise .loads (JsonReader.loads conversions.jsonNesting value)).map mapping
  | .blob value => do
      let text ← orRaise .unicodeDecodeError (Bytes.decode value)
      (orRaise .loads (JsonReader.loads conversions.jsonNesting text)).map mapping
  | .document value => .ok (mapping value)

/-- How deep `str(value)` has to go. -/
def textDepth : Option JsonValue → Nat
  | none => 0
  | some value => value.depth

/-- `Decimal(str(value))`. The texts of `None`, of booleans, of lists, of dictionaries and of
strings with half a surrogate pair are no numbers. An integer that is too long for `str` is too
long for the precision, too. -/
def decimalOf : Option JsonValue → Option Decimal.Number
  | some (.str value) => Decimal.ofText conversions.decimalDigit value
  | some (.int value) => some (.finite (MoneyCodec.ofInt value))
  | some (.float literal) =>
      Decimal.ofText conversions.decimalDigit (conversions.floatText literal)
  | _ => none

/-- What `_fixed_point` makes of the number. Infinities and signaling NaNs fail in `quantize`,
where the failure is caught; a quiet NaN gets as far as the comparison with zero. -/
def scaledBudget (value : Option JsonValue) : Except Raised (Option Nat) :=
  match decimalOf conversions value with
  | none => .ok none
  | some (.infinite _) => .ok none
  | some (.nan true) => .ok none
  | some (.nan false) => .error .invalidOperation
  | some (.finite number) =>
      match Decimal.quantizeLike MoneyCodec.moneyQuantum number with
      | none => .ok none
      | some amount =>
          let scaled := amount.mul MoneyCodec.moneyFactor
          if amount.less (Decimal.ofNat 0) ∨ ¬scaled.equal scaled.toIntegralValue then .ok none
          else .ok (some scaled.truncate.toNat)

/-- `_fixed_point`. A `RecursionError` of `str` is not caught. -/
def fixedPoint (value : Option JsonValue) : Except Raised (Option Nat) := do
  require (textDepth value ≤ conversions.strNesting) .recursionError
  scaledBudget conversions value

/-- The source config of the active version with the highest number. -/
def activeSourceConfig (rows : List ConfigRow) : SourceConfig :=
  match (Sorting.sortedOn (fun row : ConfigRow => OrderDual.toDual row.version)
    (rows.filter fun row => row.status = .active)).head? with
  | none => .null
  | some row => row.sourceConfig

/-- What one entry of the document assigns in the dictionary of budgets, which lists its
latest assignment first. A key with half a surrogate pair is left out: no row has it. -/
def assignBudget (budgets : List (Text × Nat)) (category : JsonValue) :
    Except Raised (List (Text × Nat)) :=
  match category with
  | .obj fields => do
      let budgetLimit ← fixedPoint conversions (JsonValue.get fields "budget_limit".toList)
      match JsonValue.get fields "key".toList, budgetLimit with
      | some (.str key), some budgetLimit =>
          if key = [] then pure budgets else pure ((key, budgetLimit) :: budgets)
      | _, _ => pure budgets
  | _ => pure budgets

/-- The entries under `categories`, when they are a list. -/
def entries (document : Option (List (JsonString × JsonValue))) : List JsonValue :=
  match document with
  | none => []
  | some fields =>
      match JsonValue.get fields "categories".toList with
      | some (.arr categories) => categories
      | _ => []

/-- `_active_budget_limits` -/
def activeBudgetLimits (rows : List ConfigRow) : Except Raised (List (Text × Nat)) := do
  let document ← jsonDocument conversions (activeSourceConfig rows)
  (entries document).foldlM (assignBudget conversions) []

/-! ## The repair -/

variable {Row : Type} (columns : BudgetColumns Row)

def moneyFactor : Nat := 10000

/-- One round of the loop: the rows, and whether one of them has been repaired. -/
def repairRow (budgets : List (Text × Nat)) (state : List Row × Bool) (row : Row) :
    List Row × Bool :=
  match budgets.lookup (columns.key row) with
  | none => state
  | some expected =>
      if expected = 0 then state
      else if columns.budgetLimit row ≠ (expected * moneyFactor : Nat) then state
      else
        (Table.modify columns.key (columns.key row) (columns.setBudgetLimit expected) state.1, true)

/-- `_repair_sqlite_budgets` -/
def repairSqliteBudgets (tables : Tables Row) : Except Raised (Tables Row) := do
  let expectedBudgets ← activeBudgetLimits conversions tables.configVersions
  if expectedBudgets = [] then pure tables
  else
    let (categories, repaired) :=
      tables.categories.foldl (repairRow columns expectedBudgets) (tables.categories, false)
    if repaired then
      pure { tables with categories, ledger := ⟨[], []⟩, syncState := none }
    else pure { tables with categories }

/-- `upgrade` -/
def upgrade (dialect : Dialect) (tables : Tables Row) : Except Raised (Tables Row) :=
  match dialect with
  | .sqlite => repairSqliteBudgets conversions columns tables
  | .postgresql => pure tables

/-! ## What an entry denotes -/

/-- The budget, in units of `10 ^ -4`, that a value stands for: a number that is not negative,
rounded half to even to four places, of at most 28 digits. -/
def Denotes (value : Option JsonValue) (budget : Nat) : Prop :=
  ∃ number, decimalOf conversions value = some (.finite number) ∧
    (number.quantize Money.scale).coefficient = budget ∧ budget < 10 ^ Decimal.precision ∧
    (number.negative = true → budget = 0)

/-- A value whose text is that of a quiet NaN. -/
def IsNaN (value : Option JsonValue) : Prop := decimalOf conversions value = some (.nan false)

variable {conversions} {columns}

theorem value_quantize_eq_signedUnits (number : Decimal) :
    (number.quantize Money.scale).value * MoneyCodec.moneyFactor.value =
      MoneyCodec.signedUnits number := by
  have written : (number.quantize Money.scale).value = (if number.negative then -1 else 1) *
      ((number.quantize Money.scale).coefficient : ℚ) * 10 ^ (-(Money.scale : Int)) := rfl
  unfold MoneyCodec.signedUnits MoneyCodec.moneyFactor
  have factor : (10 : ℚ) ^ (-(Money.scale : Int)) * (10 ^ Money.scale : Nat) = 1 := by
    norm_num [Money.scale]
  rw [written, Decimal.value_ofNat, mul_assoc, factor, mul_one]
  push_cast
  rfl

theorem less_zero_iff (number : Decimal) :
    (number.quantize Money.scale).less (Decimal.ofNat 0) = true ↔
      MoneyCodec.signedUnits number < 0 := by
  have scaled := value_quantize_eq_signedUnits number
  have positive : (0 : ℚ) < MoneyCodec.moneyFactor.value := by
    simp [MoneyCodec.moneyFactor, Money.scale]
  rw [Decimal.less_iff, Decimal.value_ofNat, Nat.cast_zero, ← Int.cast_lt_zero (R := ℚ), ← scaled,
    mul_neg_iff]
  constructor
  · intro negative
    exact Or.inr ⟨negative, positive⟩
  · rintro (⟨_, negative⟩ | ⟨negative, _⟩)
    · exact absurd negative positive.le.not_gt
    · exact negative

theorem signedUnits_neg_iff (number : Decimal) :
    MoneyCodec.signedUnits number < 0 ↔
      ¬(number.negative = true → (number.quantize Money.scale).coefficient = 0) := by
  unfold MoneyCodec.signedUnits
  cases number.negative with
  | true =>
      simp
      omega
  | false => simp

theorem toNat_signedUnits (number : Decimal)
    (nonnegative : number.negative = true → (number.quantize Money.scale).coefficient = 0) :
    (MoneyCodec.signedUnits number).toNat = (number.quantize Money.scale).coefficient := by
  unfold MoneyCodec.signedUnits
  cases sign : number.negative with
  | true => simp [nonnegative sign]
  | false => simp

/-- The scaling is exact: an amount of 28 digits keeps them all. -/
theorem scaledBudget_finite {value : Option JsonValue} {number : Decimal}
    (found : decimalOf conversions value = some (.finite number)) :
    scaledBudget conversions value = .ok
      (if (number.quantize Money.scale).coefficient < 10 ^ Decimal.precision ∧
          (number.negative = true → (number.quantize Money.scale).coefficient = 0) then
        some (number.quantize Money.scale).coefficient
      else none) := by
  have digits := @Decimal.length_digits_le_iff (number.quantize Money.scale).coefficient
    Decimal.precision (by decide)
  have quantized : Decimal.quantizeLike MoneyCodec.moneyQuantum number =
      if (number.quantize Money.scale).coefficient < 10 ^ Decimal.precision then
        some (number.quantize Money.scale)
      else none := by
    rw [MoneyCodec.moneyQuantum_eq]
    unfold Decimal.quantizeLike
    simp only [neg_neg, Int.toNat_natCast, digits]
  unfold scaledBudget
  rw [found]
  dsimp only
  rw [quantized]
  by_cases fits : (number.quantize Money.scale).coefficient < 10 ^ Decimal.precision
  · rw [if_pos fits]
    have size : (MoneyCodec.signedUnits number).natAbs =
        (number.quantize Money.scale).coefficient := by
      unfold MoneyCodec.signedUnits
      split <;> simp
    have short : Decimal.Short
        ((number.quantize Money.scale).value * MoneyCodec.moneyFactor.value) := by
      apply Decimal.short_of_units (MoneyCodec.signedUnits number) 0
      · rwa [size]
      · rw [value_quantize_eq_signedUnits, zpow_zero, mul_one]
    have scaled := (Decimal.value_mul short).trans (value_quantize_eq_signedUnits number)
    have integral := (Decimal.equal_iff _ _).mpr
      (scaled.trans (Decimal.value_toIntegralValue_of_value scaled).symm)
    dsimp only
    simp only [integral, not_true_eq_false, or_false, less_zero_iff, signedUnits_neg_iff,
      Decimal.truncate_eq_of_value scaled, fits, true_and]
    by_cases nonnegative : number.negative = true → (number.quantize Money.scale).coefficient = 0
    · rw [if_neg (not_not.mpr nonnegative), if_pos nonnegative, toNat_signedUnits number nonnegative]
    · rw [if_pos nonnegative, if_neg nonnegative]
  · rw [if_neg fits, if_neg fun both => fits both.1]

theorem fixedPoint_eq_ok_iff {value : Option JsonValue} {result : Option Nat} :
    fixedPoint conversions value = .ok result ↔
      textDepth value ≤ conversions.strNesting ∧ scaledBudget conversions value = .ok result := by
  unfold fixedPoint
  simp only [Outcome.bind_eq_ok, Outcome.require_eq_ok, exists_const]

/-- A value that is not a NaN raises nothing once it has a text, and it gives what it denotes. -/
theorem scaledBudget_spec {value : Option JsonValue} (number : ¬IsNaN conversions value) :
    ∃ result, scaledBudget conversions value = .ok result ∧
      ∀ budget, result = some budget ↔ Denotes conversions value budget := by
  unfold IsNaN at number
  have nothing : ∀ {outcome : Option Decimal.Number}, decimalOf conversions value = outcome →
      (∀ decimal, outcome ≠ some (.finite decimal)) →
      ∀ budget, (none : Option Nat) = some budget ↔ Denotes conversions value budget := by
    intro outcome found notFinite budget
    refine ⟨fun none => (Option.some_ne_none _ none.symm).elim, ?_⟩
    rintro ⟨decimal, finite, _⟩
    exact (notFinite decimal (found.symm.trans finite)).elim
  cases found : decimalOf conversions value with
  | none => exact ⟨none, by simp [scaledBudget, found], nothing found (by simp)⟩
  | some read =>
      cases read with
      | infinite negative =>
          exact ⟨none, by simp [scaledBudget, found], nothing found (by simp)⟩
      | nan signaling =>
          cases signaling with
          | true => exact ⟨none, by simp [scaledBudget, found], nothing found (by simp)⟩
          | false => exact absurd found number
      | finite decimal =>
          refine ⟨_, scaledBudget_finite found, fun budget => ?_⟩
          unfold Denotes
          rw [found]
          constructor
          · intro equal
            rw [Option.ite_none_right_eq_some, Option.some.injEq] at equal
            rcases equal with ⟨⟨fits, nonnegative⟩, rfl⟩
            exact ⟨decimal, rfl, rfl, fits, nonnegative⟩
          · rintro ⟨other, same, rfl, fits, nonnegative⟩
            cases same
            rw [if_pos ⟨fits, nonnegative⟩]

theorem Denotes.unique {value : Option JsonValue} {budget budget' : Nat}
    (first : Denotes conversions value budget) (second : Denotes conversions value budget') :
    budget = budget' := by
  rcases first with ⟨number, found, rfl, _⟩
  rcases second with ⟨other, found', rfl, _⟩
  rw [found] at found'
  cases found'
  rfl

/-! ## What a document denotes -/

variable (conversions) in
/-- An entry that assigns a budget to a key. -/
def Usable (entry : JsonValue) (key : Text) (budget : Nat) : Prop :=
  ∃ fields, entry = .obj fields ∧ JsonValue.get fields "key".toList = some (.str key) ∧
    key ≠ [] ∧ Denotes conversions (JsonValue.get fields "budget_limit".toList) budget

variable (conversions) in
/-- The last usable entry of a key gives it its budget. -/
def LastUsable (entries : List JsonValue) (key : Text) (budget : Nat) : Prop :=
  ∃ before entry after, entries = before ++ entry :: after ∧
    Usable conversions entry key budget ∧
    ∀ later ∈ after, ∀ other, ¬Usable conversions later key other

variable (conversions) in
/-- No entry nests its budget deeper than `str` can go. -/
def Shallow (entries : List JsonValue) : Prop :=
  ∀ fields, JsonValue.obj fields ∈ entries →
    textDepth (JsonValue.get fields "budget_limit".toList) ≤ conversions.strNesting

variable (conversions) in
/-- No entry has a NaN for its budget. -/
def FreeOfNaN (entries : List JsonValue) : Prop :=
  ∀ fields, JsonValue.obj fields ∈ entries →
    ¬IsNaN conversions (JsonValue.get fields "budget_limit".toList)

theorem Usable.unique {entry : JsonValue} {key key' : Text} {budget budget' : Nat}
    (first : Usable conversions entry key budget) (second : Usable conversions entry key' budget') :
    key = key' ∧ budget = budget' := by
  rcases first with ⟨fields, rfl, keyFound, _, denoted⟩
  rcases second with ⟨others, same, keyFound', _, denoted'⟩
  cases same
  rw [keyFound, Option.some.injEq, JsonValue.str.injEq] at keyFound'
  exact ⟨keyFound', denoted.unique denoted'⟩

/-- An entry either assigns what it denotes or changes nothing. -/
theorem assignBudget_spec {entry : JsonValue} (budgets : List (Text × Nat))
    (shallow : Shallow conversions [entry])
    (free : ∀ fields, entry = .obj fields →
      ¬IsNaN conversions (JsonValue.get fields "budget_limit".toList)) :
    (∃ key budget, Usable conversions entry key budget ∧
      assignBudget conversions budgets entry = .ok ((key, budget) :: budgets)) ∨
    ((∀ key budget, ¬Usable conversions entry key budget) ∧
      assignBudget conversions budgets entry = .ok budgets) := by
  cases entry with
  | obj fields =>
      rcases scaledBudget_spec (free fields rfl) with ⟨result, scaled, denotes⟩
      have computed := fixedPoint_eq_ok_iff.mpr
        ⟨shallow fields (List.mem_singleton_self _), scaled⟩
      unfold assignBudget
      dsimp only
      rw [computed, Outcome.ok_bind]
      split
      · next _ _ key budget keyFound =>
        split
        · next empty =>
          refine Or.inr ⟨?_, rfl⟩
          rintro key' budget' ⟨others, same, keyFound', nonempty, _⟩
          cases same
          rw [keyFound, Option.some.injEq, JsonValue.str.injEq] at keyFound'
          exact nonempty (keyFound' ▸ empty)
        · next nonempty =>
          exact Or.inl ⟨key, budget, ⟨fields, rfl, keyFound, nonempty, (denotes budget).mp rfl⟩, rfl⟩
      · next unusable =>
        refine Or.inr ⟨?_, rfl⟩
        rintro key' budget' ⟨others, same, keyFound, _, denoted⟩
        cases same
        exact unusable key' budget' keyFound ((denotes budget').mpr denoted)
  | _ =>
      refine Or.inr ⟨?_, rfl⟩
      rintro key budget ⟨fields, same, _⟩
      cases same

theorem lastUsable_concat {entries : List JsonValue} {entry : JsonValue} {key : Text}
    {budget : Nat} :
    LastUsable conversions (entries ++ [entry]) key budget ↔
      Usable conversions entry key budget ∨
        ((∀ other, ¬Usable conversions entry key other) ∧
          LastUsable conversions entries key budget) := by
  constructor
  · rintro ⟨before, chosen, after, split, usable, last⟩
    rcases List.eq_nil_or_concat after with rfl | ⟨initial, final, rfl⟩
    · rcases List.append_inj' split rfl with ⟨_, same⟩
      cases same
      exact Or.inl usable
    · rw [List.concat_eq_append, ← List.cons_append, ← List.append_assoc] at split
      rcases List.append_inj' split rfl with ⟨whole, same⟩
      cases same
      refine Or.inr ⟨last entry (by simp), before, chosen, initial, whole, usable, ?_⟩
      intro later member
      exact last later (by simp [member])
  · rintro (usable | ⟨unusable, before, chosen, after, rfl, usable, last⟩)
    · exact ⟨entries, entry, [], rfl, usable, by simp⟩
    · refine ⟨before, chosen, after ++ [entry], by simp, usable, ?_⟩
      intro later member
      rcases List.mem_append.mp member with inside | final
      · exact last later inside
      · rw [List.mem_singleton.mp final]
        exact unusable

/-- The dictionary holds the budget of the last usable entry of every key. -/
theorem foldlM_assignBudget {entries : List JsonValue} (shallow : Shallow conversions entries)
    (free : FreeOfNaN conversions entries) :
    ∃ budgets, entries.foldlM (assignBudget conversions) [] = .ok budgets ∧
      ∀ key budget, budgets.lookup key = some budget ↔
        LastUsable conversions entries key budget := by
  induction entries using List.reverseRecOn with
  | nil => exact ⟨[], rfl, by simp [LastUsable]⟩
  | append_singleton entries entry induction =>
      rcases induction (fun fields member => shallow fields (List.mem_append_left _ member))
        (fun fields member => free fields (List.mem_append_left _ member)) with
        ⟨budgets, collected, found⟩
      have own : ∀ fields, entry = .obj fields →
          ¬IsNaN conversions (JsonValue.get fields "budget_limit".toList) := by
        rintro fields rfl
        exact free fields (by simp)
      have assigned := assignBudget_spec budgets
        (fun fields member => shallow fields (List.mem_append_right _ member)) own
      rw [List.foldlM_append, collected, Outcome.ok_bind, List.foldlM_cons]
      rcases assigned with ⟨own, ownBudget, usable, result⟩ | ⟨unusable, result⟩
      · refine ⟨(own, ownBudget) :: budgets, by rw [result]; rfl, fun key budget => ?_⟩
        rw [lastUsable_concat, ← found, List.lookup_cons]
        by_cases same : key = own
        · subst same
          simp only [BEq.rfl, Option.some.injEq]
          constructor
          · rintro rfl
            exact Or.inl usable
          · rintro (denoted | ⟨unusable, _⟩)
            · exact (usable.unique denoted).2
            · exact absurd usable (unusable ownBudget)
        · have different : (key == own) = false := by simpa using same
          simp only [different]
          constructor
          · intro earlier
            exact Or.inr ⟨fun other also => same (also.unique usable).1, earlier⟩
          · rintro (denoted | ⟨_, earlier⟩)
            · exact absurd (denoted.unique usable).1 same
            · exact earlier
      · refine ⟨budgets, by rw [result]; rfl, fun key budget => ?_⟩
        rw [lastUsable_concat, ← found]
        constructor
        · intro earlier
          exact Or.inr ⟨unusable key, earlier⟩
        · rintro (denoted | ⟨_, earlier⟩)
          · exact absurd denoted (unusable key budget)
          · exact earlier

/-! ## The rows -/

variable (columns) in
/-- The budget that a row is set to. -/
def target (budgets : List (Text × Nat)) (row : Row) : Option Nat :=
  (budgets.lookup (columns.key row)).filter fun expected =>
    expected ≠ 0 ∧ columns.budgetLimit row = (expected * moneyFactor : Nat)

variable (columns) in
def repaired (budgets : List (Text × Nat)) (row : Row) : Row :=
  match target columns budgets row with
  | none => row
  | some budget => columns.setBudgetLimit budget row

variable {budgets : List (Text × Nat)}

theorem key_repaired (row : Row) : columns.key (repaired columns budgets row) = columns.key row := by
  unfold repaired
  split
  · rfl
  · exact columns.key_setBudgetLimit _ row

theorem target_eq_some {row : Row} {budget : Nat} :
    target columns budgets row = some budget ↔ budgets.lookup (columns.key row) = some budget ∧
      budget ≠ 0 ∧ columns.budgetLimit row = (budget * moneyFactor : Nat) := by
  unfold target
  rw [Option.filter_eq_some_iff, decide_eq_true_iff]

theorem repairRow_eq (state : List Row × Bool) (row : Row) :
    repairRow columns budgets state row = match target columns budgets row with
      | none => state
      | some budget => (Table.modify columns.key (columns.key row)
          (columns.setBudgetLimit budget) state.1, true) := by
  unfold repairRow target
  cases budgets.lookup (columns.key row) with
  | none => rfl
  | some expected =>
      dsimp only [Option.filter]
      by_cases zero : expected = 0
      · rw [if_pos zero, if_neg (by simp [zero])]
      · by_cases matched : columns.budgetLimit row = (expected * moneyFactor : Nat)
        · rw [if_neg zero, if_neg (not_not.mpr matched), if_pos (decide_eq_true ⟨zero, matched⟩)]
        · rw [if_neg zero, if_pos matched,
            if_neg fun both => matched (of_decide_eq_true both).2]

/-- The updates of the loop, each by its key, repair every row in its place. -/
theorem foldl_repairRow {rows : List Row} (nodup : (rows.map columns.key).Nodup) :
    rows.foldl (repairRow columns budgets) (rows, false) =
      (rows.map (repaired columns budgets),
        rows.any fun row => (target columns budgets row).isSome) := by
  have general : ∀ rest done flag, done ++ rest = rows →
      rest.foldl (repairRow columns budgets) (done.map (repaired columns budgets) ++ rest, flag) =
        (rows.map (repaired columns budgets),
          flag || rest.any fun row => (target columns budgets row).isSome) := by
    intro rest
    induction rest with
    | nil =>
        intro done flag whole
        simp [← whole]
    | cons row rest induction =>
        intro done flag whole
        have others : ∀ other ∈ done.map (repaired columns budgets) ++ rest,
            columns.key other ≠ columns.key row := by
          rw [← whole, List.map_append, List.map_cons, List.nodup_middle,
            ← List.map_append, ← List.map_cons, List.map_cons, List.nodup_cons] at nodup
          intro other member same
          apply nodup.1
          rcases List.mem_append.mp member with inDone | inRest
          · rcases List.mem_map.mp inDone with ⟨source, sourceMember, rfl⟩
            rw [← same, key_repaired]
            exact List.mem_map_of_mem (List.mem_append_left _ sourceMember)
          · rw [← same]
            exact List.mem_map_of_mem (List.mem_append_right _ inRest)
        have stepped : repairRow columns budgets
            (done.map (repaired columns budgets) ++ row :: rest, flag) row =
              ((done ++ [row]).map (repaired columns budgets) ++ rest,
                flag || (target columns budgets row).isSome) := by
          rw [repairRow_eq, List.map_append, List.map_singleton]
          cases found : target columns budgets row with
          | none => simp [repaired, found]
          | some budget =>
              have changed : repaired columns budgets row = columns.setBudgetLimit budget row := by
                unfold repaired
                rw [found]
              have before := @Table.modify_of_forall_ne _ _ _ columns.key _ _
                (columns.setBudgetLimit budget) fun other member =>
                  others other (List.mem_append_left _ member)
              have after := @Table.modify_of_forall_ne _ _ _ columns.key _ _
                (columns.setBudgetLimit budget) fun other member =>
                  others other (List.mem_append_right _ member)
              unfold Table.modify at before after ⊢
              dsimp only
              rw [List.map_append, List.map_cons, before, after, if_pos rfl, changed]
              simp
        rw [List.foldl_cons, stepped, induction (done ++ [row]) _ (by simpa using whole),
          List.any_cons, Bool.or_assoc]
  have loop := general rows [] false rfl
  simpa using loop

/-- A repaired budget is not ten thousand times itself. -/
theorem target_repaired (row : Row) :
    target columns budgets (repaired columns budgets row) = none := by
  by_contra found
  rcases Option.ne_none_iff_exists'.mp found with ⟨budget, again⟩
  rw [target_eq_some, key_repaired] at again
  rcases again with ⟨listed, nonzero, scaled⟩
  unfold repaired at scaled
  split at scaled
  · next untouched =>
    have matches' : target columns budgets row = some budget :=
      target_eq_some.mpr ⟨listed, nonzero, scaled⟩
    rw [untouched] at matches'
    cases matches'
  · next own first =>
    have same := (target_eq_some.mp first).1
    rw [listed, Option.some.injEq] at same
    subst same
    rw [columns.budgetLimit_setBudgetLimit] at scaled
    unfold moneyFactor at scaled
    omega

theorem repaired_of_target {row : Row} (untouched : target columns budgets row = none) :
    repaired columns budgets row = row := by
  unfold repaired
  rw [untouched]

/-! ## The repair as a whole -/

section Repair

variable {tables : Tables Row}

variable (columns) in
/-- What the repair leaves of the tables. -/
def afterRepair (budgets : List (Text × Nat)) (tables : Tables Row) : Tables Row :=
  if tables.categories.any fun row => (target columns budgets row).isSome then
    { tables with
      categories := tables.categories.map (repaired columns budgets)
      ledger := ⟨[], []⟩
      syncState := none }
  else tables

theorem categories_afterRepair :
    (afterRepair columns budgets tables).categories =
      tables.categories.map (repaired columns budgets) := by
  unfold afterRepair
  split
  · rfl
  · next untouched =>
    refine ((List.map_congr_left (g := id) fun row member => ?_).trans (List.map_id _)).symm
    apply repaired_of_target
    by_contra found
    exact untouched (List.any_eq_true.mpr ⟨row, member, Option.ne_none_iff_isSome.mp found⟩)

theorem configVersions_afterRepair :
    (afterRepair columns budgets tables).configVersions = tables.configVersions := by
  unfold afterRepair
  split <;> rfl

theorem repairSqliteBudgets_eq (nodup : (tables.categories.map columns.key).Nodup)
    (collected : activeBudgetLimits conversions tables.configVersions = .ok budgets) :
    repairSqliteBudgets conversions columns tables = .ok (afterRepair columns budgets tables) := by
  have categories := @categories_afterRepair _ columns budgets tables
  unfold repairSqliteBudgets
  rw [collected, Outcome.ok_bind, foldl_repairRow nodup]
  unfold afterRepair at categories ⊢
  by_cases any : (tables.categories.any fun row => (target columns budgets row).isSome) = true
  · have nonempty : budgets ≠ [] := by
      rintro rfl
      rcases List.any_eq_true.mp any with ⟨row, _, found⟩
      cases found
    rw [if_neg nonempty, if_pos any, any]
    rfl
  · rw [if_neg any] at categories ⊢
    rw [← categories]
    simp only [any, Bool.false_eq_true, if_false, ite_self]
    rfl

/-- Running the repair on what it left changes nothing. -/
theorem afterRepair_afterRepair :
    afterRepair columns budgets (afterRepair columns budgets tables) =
      afterRepair columns budgets tables := by
  have settled : ((afterRepair columns budgets tables).categories.any
      fun row => (target columns budgets row).isSome) = false := by
    rw [categories_afterRepair]
    simp [target_repaired]
  generalize afterRepair columns budgets tables = after at settled
  unfold afterRepair
  rw [settled]
  rfl

theorem nodup_afterRepair (nodup : (tables.categories.map columns.key).Nodup) :
    ((afterRepair columns budgets tables).categories.map columns.key).Nodup := by
  have keys : columns.key ∘ repaired columns budgets = columns.key := funext key_repaired
  rwa [categories_afterRepair, List.map_map, keys]

variable (conversions columns) in
/-- The raw budget of a row is ten thousand times the nonzero budget that the last usable
entry of its key denotes. -/
def DoubleScaled (entries : List JsonValue) (row : Row) (budget : Nat) : Prop :=
  LastUsable conversions entries (columns.key row) budget ∧ budget ≠ 0 ∧
    columns.budgetLimit row = (10000 * budget : Nat)

theorem target_iff_doubleScaled {entries : List JsonValue}
    (found : ∀ key budget, budgets.lookup key = some budget ↔
      LastUsable conversions entries key budget) (row : Row) (budget : Nat) :
    target columns budgets row = some budget ↔
      DoubleScaled conversions columns entries row budget := by
  rw [target_eq_some, found, mul_comm]
  rfl

/-- A row is repaired when it is double-scaled. -/
theorem any_target_iff {entries : List JsonValue}
    (found : ∀ key budget, budgets.lookup key = some budget ↔
      LastUsable conversions entries key budget) :
    (tables.categories.any fun row => (target columns budgets row).isSome) = true ↔
      ∃ row ∈ tables.categories, ∃ budget, DoubleScaled conversions columns entries row budget := by
  simp only [List.any_eq_true, Option.isSome_iff_exists, target_iff_doubleScaled found]

/-! ## Which documents can be read -/

/-- The JSON document that a source config is, also in string form. -/
def SourceConfig.value : SourceConfig → Option JsonValue
  | .null => some .null
  | .text value => JsonReader.read value
  | .blob value => (Bytes.decode value).bind JsonReader.read
  | .document value => some value

/-- A source config in string form. -/
def SourceConfig.Written : SourceConfig → Prop
  | .text _ => True
  | .blob _ => True
  | _ => False

variable (conversions) in
/-- The interpreter gets through the document: `json.loads` through all of it when it is in
string form, and `str` through every budget. -/
structure Readable (source : SourceConfig) (document : JsonValue) : Prop where
  loadable : source.Written → document.Loadable conversions.jsonNesting
  shallow : Shallow conversions (entries (mapping document))

theorem jsonDocument_eq_ok_iff {source : SourceConfig} {document : JsonValue}
    (written : source.value = some document)
    {result : Option (List (JsonString × JsonValue))} :
    jsonDocument conversions source = .ok result ↔
      (source.Written → document.Loadable conversions.jsonNesting) ∧ mapping document = result := by
  have loaded : ∀ {text : Text}, JsonReader.read text = some document →
      ((orRaise Raised.loads (JsonReader.loads conversions.jsonNesting text)).map mapping =
          .ok result ↔
        document.Loadable conversions.jsonNesting ∧ mapping document = result) := by
    intro text read
    by_cases loadable : document.Loadable conversions.jsonNesting
    · rw [JsonReader.loads_eq_some_iff.mpr ⟨read, loadable⟩, Outcome.orRaise_some]
      simp [Except.map, loadable]
    · have raises : JsonReader.loads conversions.jsonNesting text = none := by
        rw [Option.eq_none_iff_forall_ne_some]
        intro value loaded
        rcases JsonReader.loads_eq_some_iff.mp loaded with ⟨same, within⟩
        rw [read, Option.some.injEq] at same
        exact loadable (same ▸ within)
      rw [raises]
      simp [Except.map, orRaise, loadable]
  cases source with
  | null =>
      cases written
      simp [jsonDocument, SourceConfig.Written, mapping]
  | text value =>
      rw [jsonDocument, loaded written]
      simp [SourceConfig.Written]
  | blob value =>
      rcases Option.bind_eq_some_iff.mp written with ⟨text, decoded, read⟩
      rw [jsonDocument, decoded, Outcome.orRaise_some, Outcome.ok_bind, loaded read]
      simp [SourceConfig.Written]
  | document value =>
      cases written
      simp [jsonDocument, SourceConfig.Written]

/-- The loop over the entries raises where `str` cannot go. -/
theorem shallow_of_folded {entries : List JsonValue} {budgets collected : List (Text × Nat)}
    (folded : entries.foldlM (assignBudget conversions) budgets = .ok collected) :
    Shallow conversions entries := by
  induction entries generalizing budgets with
  | nil => exact fun fields member => absurd member List.not_mem_nil
  | cons entry entries induction =>
      rw [List.foldlM_cons] at folded
      rcases Outcome.bind_eq_ok.mp folded with ⟨next, assigned, rest⟩
      intro fields member
      rcases List.mem_cons.mp member with rfl | later
      · rcases Outcome.bind_eq_ok.mp assigned with ⟨result, computed, -⟩
        exact (fixedPoint_eq_ok_iff.mp computed).1
      · exact induction rest fields later

variable (conversions columns) in
/-- What the repair is for: the rows whose budget is double-scaled are set to the budget that
their entry denotes, the live tables are emptied when there is one, nothing changes when there
is none, and a second run changes nothing. -/
structure RepairedTo (entries : List JsonValue) (tables after : Tables Row) : Prop where
  completed : repairSqliteBudgets conversions columns tables = .ok after
  configVersions : after.configVersions = tables.configVersions
  categories : List.Forall₂ (fun row row' =>
    (∀ budget, DoubleScaled conversions columns entries row budget →
      row' = columns.setBudgetLimit budget row ∧ columns.budgetLimit row' = budget ∧
        columns.budgetLimit row' ≠ columns.budgetLimit row) ∧
    ((∀ budget, ¬DoubleScaled conversions columns entries row budget) → row' = row))
    tables.categories after.categories
  emptied : (∃ row ∈ tables.categories, ∃ budget,
    DoubleScaled conversions columns entries row budget) →
      after.ledger = ⟨[], []⟩ ∧ after.syncState = none
  untouched : (∀ row ∈ tables.categories, ∀ budget,
    ¬DoubleScaled conversions columns entries row budget) → after = tables
  again : repairSqliteBudgets conversions columns after = .ok after

theorem repairedTo_of_readable {document : JsonValue}
    (uniqueKeys : (tables.categories.map columns.key).Nodup)
    (written : (activeSourceConfig tables.configVersions).value = some document)
    (free : FreeOfNaN conversions (entries (mapping document)))
    (readable : Readable conversions (activeSourceConfig tables.configVersions) document) :
    ∃ after, RepairedTo conversions columns (entries (mapping document)) tables after := by
  rcases foldlM_assignBudget readable.shallow free with ⟨budgets, folded, found⟩
  have loads := (jsonDocument_eq_ok_iff written).mpr ⟨readable.loadable, rfl⟩
  have collected : activeBudgetLimits conversions tables.configVersions = .ok budgets := by
    unfold activeBudgetLimits
    rw [loads, Outcome.ok_bind, folded]
  have scaled := @target_iff_doubleScaled conversions _ columns budgets _ found
  have any := @any_target_iff conversions _ columns budgets tables _ found
  have again : activeBudgetLimits conversions
      (afterRepair columns budgets tables).configVersions = .ok budgets := by
    rwa [configVersions_afterRepair]
  refine ⟨afterRepair columns budgets tables, ?_⟩
  constructor
  · exact repairSqliteBudgets_eq uniqueKeys collected
  · exact configVersions_afterRepair
  · rw [categories_afterRepair, List.forall₂_map_right_iff, List.forall₂_same]
    intro row _
    constructor
    · intro budget doubled
      have set : repaired columns budgets row = columns.setBudgetLimit budget row := by
        rw [repaired, (scaled row budget).mpr doubled]
      rw [set, columns.budgetLimit_setBudgetLimit, doubled.2.2]
      have nonzero := doubled.2.1
      exact ⟨rfl, rfl, by omega⟩
    · intro untouched
      apply repaired_of_target
      by_contra present
      rcases Option.ne_none_iff_exists'.mp present with ⟨budget, is⟩
      exact untouched budget ((scaled row budget).mp is)
  · intro doubled
    unfold afterRepair
    rw [if_pos (any.mpr doubled)]
    exact ⟨rfl, rfl⟩
  · intro healthy
    apply if_neg
    rw [any]
    rintro ⟨row, member, budget, doubled⟩
    exact healthy row member budget doubled
  · rw [repairSqliteBudgets_eq (nodup_afterRepair uniqueKeys) again, afterRepair_afterRepair]

theorem readable_of_completed {document : JsonValue} {after : Tables Row}
    (written : (activeSourceConfig tables.configVersions).value = some document)
    (completed : repairSqliteBudgets conversions columns tables = .ok after) :
    Readable conversions (activeSourceConfig tables.configVersions) document := by
  rcases Outcome.bind_eq_ok.mp completed with ⟨budgets, collected, -⟩
  rcases Outcome.bind_eq_ok.mp collected with ⟨fields, loaded, folded⟩
  rcases (jsonDocument_eq_ok_iff written).mp loaded with ⟨loadable, rfl⟩
  exact ⟨loadable, shallow_of_folded folded⟩

/-- The repair does what it is for exactly when the interpreter gets through the document. -/
theorem money_repair_exact_iff (conversions : Conversions) (columns : BudgetColumns Row)
    (tables : Tables Row) {document : JsonValue}
    (uniqueKeys : (tables.categories.map columns.key).Nodup)
    (written : (activeSourceConfig tables.configVersions).value = some document)
    (free : FreeOfNaN conversions (entries (mapping document))) :
    (∃ after, RepairedTo conversions columns (entries (mapping document)) tables after) ↔
      Readable conversions (activeSourceConfig tables.configVersions) document := by
  constructor
  · rintro ⟨after, repaired⟩
    exact readable_of_completed written repaired.completed
  · exact repairedTo_of_readable uniqueKeys written free

end Repair

/-- Rows of a key and a raw budget. -/
def Sample.pairs : BudgetColumns (Text × Int) where
  key := Prod.fst
  budgetLimit := Prod.snd
  setBudgetLimit budget row := (row.1, budget)
  key_setBudgetLimit _ _ := rfl
  budgetLimit_setBudgetLimit _ _ := rfl

/-- The text of a float is that of its literal, there are only ASCII digits, and the recursion
limit is 1000. -/
def Sample.ascii : Conversions := ⟨id, fun _ => none, 1000, 1000⟩

def Sample.entry (key : Text) (budgetLimit : JsonValue) : JsonValue :=
  .obj [("key".toList, .str key), ("budget_limit".toList, budgetLimit)]

/-- A snapshot with a repeated key, a malformed budget and something that is no entry. -/
def Sample.snapshot : List JsonValue :=
  [Sample.entry "restaurant".toList (.int 1), Sample.entry "dating".toList (.float "0.5".toList),
    .null, Sample.entry "restaurant".toList (.str "750.00".toList),
    Sample.entry "restaurant".toList (.arr [.str "much".toList])]

def Sample.document : JsonValue := .obj [("categories".toList, .arr Sample.snapshot)]

def Sample.tables (source : SourceConfig) : Tables (Text × Int) where
  configVersions := [⟨.superseded, 1, .text "[1".toList⟩, ⟨.active, 2, source⟩]
  categories := [("restaurant".toList, 75000000000), ("dating".toList, 900000)]
  ledger := ⟨[], []⟩
  syncState := none

theorem money_repair_exact_restaurant :
    ∃ after, RepairedTo Sample.ascii Sample.pairs Sample.snapshot
        (Sample.tables (.document Sample.document)) after ∧
      after.categories = [("restaurant".toList, 7500000), ("dating".toList, 900000)] := by
  have computed : (repairSqliteBudgets Sample.ascii Sample.pairs
      (Sample.tables (.document Sample.document))).map Tables.categories =
        .ok [("restaurant".toList, 7500000), ("dating".toList, 900000)] := by
    decide +kernel
  have free : FreeOfNaN Sample.ascii Sample.snapshot := by
    intro fields member
    simp only [Sample.snapshot, Sample.entry, List.mem_cons, List.not_mem_nil, or_false,
      reduceCtorEq, false_or, JsonValue.obj.injEq] at member
    unfold IsNaN
    rcases member with rfl | rfl | rfl | rfl <;> decide +kernel
  have shallow : Shallow Sample.ascii Sample.snapshot := by
    intro fields member
    simp only [Sample.snapshot, Sample.entry, List.mem_cons, List.not_mem_nil, or_false,
      reduceCtorEq, false_or, JsonValue.obj.injEq] at member
    rcases member with rfl | rfl | rfl | rfl <;> decide +kernel
  rcases (money_repair_exact_iff Sample.ascii Sample.pairs (Sample.tables (.document Sample.document))
    (by decide +kernel) rfl free).mpr ⟨fun written => written.elim, shallow⟩ with ⟨after, repaired⟩
  rw [repaired.completed] at computed
  exact ⟨after, repaired, Except.ok.inj computed⟩

/-- A document with an integer of 4301 digits. -/
def Sample.longInteger : Json :=
  .obj [("categories".toList, .arr []), ("total".toList, .nat (10 ^ 4300))]

/-- A document in string form that is read but for the length of an integer. -/
theorem money_repair_raises :
    (activeSourceConfig
      (Sample.tables (.text Sample.longInteger.dumpsAscii)).configVersions).value =
        some (JsonValue.ofJson Sample.longInteger.sortKeys) ∧
      FreeOfNaN Sample.ascii (entries (mapping (JsonValue.ofJson Sample.longInteger.sortKeys))) ∧
      ¬∃ after, RepairedTo Sample.ascii Sample.pairs
        (entries (mapping (JsonValue.ofJson Sample.longInteger.sortKeys)))
        (Sample.tables (.text Sample.longInteger.dumpsAscii)) after := by
  have written : (activeSourceConfig
      (Sample.tables (.text Sample.longInteger.dumpsAscii)).configVersions).value =
        some (JsonValue.ofJson Sample.longInteger.sortKeys) :=
    JsonReader.read_dumpsAscii Sample.longInteger
  have none : entries (mapping (JsonValue.ofJson Sample.longInteger.sortKeys)) = [] := rfl
  have long : ¬(JsonValue.ofJson Sample.longInteger.sortKeys).Loadable
      Sample.ascii.jsonNesting := by
    decide +kernel
  refine ⟨written, ?_, ?_⟩
  · rw [none]
    exact fun fields member => absurd member List.not_mem_nil
  · rintro ⟨after, repaired⟩
    exact long ((readable_of_completed written repaired.completed).loadable trivial)

end RollingBudget.MoneyScaleRepair
