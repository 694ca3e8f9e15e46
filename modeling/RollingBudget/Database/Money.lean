import RollingBudget.Schemas.Config

namespace RollingBudget

/-! The `Money` column type: exact `NUMERIC` on PostgreSQL and integers scaled by
ten thousand on SQLite. -/

inductive Dialect where
  | sqlite
  | postgresql
deriving DecidableEq

/-- What a money column holds. -/
inductive MoneyCell where
  | integer (units : Int)
  | numeric (value : Decimal)

/-- `NUMERIC` keeps no sign on zero. -/
def MoneyCell.stored : MoneyCell → MoneyCell
  | .integer units => .integer units
  | .numeric value => .numeric { value with negative := value.negative && value.coefficient != 0 }

namespace Money

def scale : Nat := 4

/-- `process_bind_param` -/
def processBindParam (dialect : Dialect) (value : Decimal) : MoneyCell :=
  let normalized := value.quantize scale
  match dialect with
  | .sqlite => .integer (normalized.toScaled scale)
  | .postgresql => .numeric normalized

/-- `process_result_value` -/
def processResultValue : MoneyCell → Decimal
  | .integer units => Decimal.ofScaled scale units
  | .numeric value => value.quantize scale

/-- What a fresh session reads after `value` was written and committed. -/
def reload (dialect : Dialect) (value : Decimal) : Decimal :=
  processResultValue (processBindParam dialect value).stored

example : reload .sqlite ⟨true, 0, 7⟩ = ⟨false, 0, 0⟩ := by decide
example : reload .postgresql ⟨false, 25, 1⟩ = ⟨false, 2500000, -4⟩ := by decide

/-- The stored number in units of `10 ^ -4`. -/
def units (value : Decimal) : Nat := (value.quantize scale).coefficient

private theorem quantize_eq (value : Decimal) :
    value.quantize scale = ⟨value.negative, units value, -(scale : Int)⟩ := rfl

variable {value : Decimal}

theorem reload_sqlite (admitted : value.Admitted) :
    reload .sqlite value = Decimal.ofScaled scale (units value) := by
  have scaled : (value.quantize scale).toScaled scale = (units value : Int) := by
    unfold Decimal.toScaled
    rw [Decimal.quantize_quantize, quantize_eq]
    dsimp only
    split
    · next negative =>
      have zero : units value = 0 := by
        have noCoefficient := admitted.1 negative
        simp [units, Decimal.quantize, Decimal.roundHalfEven, noCoefficient]
      simp [zero]
    · rfl
  simp only [reload, processBindParam, MoneyCell.stored, processResultValue, scaled]

private theorem quantize_cell (negative : Bool) (number : Nat) :
    Decimal.quantize scale ⟨negative, number, -(scale : Int)⟩ =
      ⟨negative, number, -(scale : Int)⟩ := by
  simp [Decimal.quantize]

theorem reload_postgresql (admitted : value.Admitted) :
    reload .postgresql value = ⟨false, units value, -(scale : Int)⟩ := by
  have sign : (value.negative && units value != 0) = false := by
    cases negative : value.negative with
    | false => rfl
    | true =>
        have noCoefficient := admitted.1 negative
        simp [units, Decimal.quantize, Decimal.roundHalfEven, noCoefficient]
  have cell : (processBindParam .postgresql value).stored =
      .numeric ⟨false, units value, -(scale : Int)⟩ := by
    rw [← sign]
    rfl
  rw [reload, cell]
  exact quantize_cell false (units value)

/-- A stored budget quantizes to the same coefficient, without a sign. -/
theorem quantize_reload (dialect : Dialect) (admitted : value.Admitted) :
    (reload dialect value).quantize scale = ⟨false, units value, -(scale : Int)⟩ := by
  cases dialect with
  | sqlite =>
      rw [reload_sqlite admitted]
      have coefficient := Decimal.quantize_ofScaled_coefficient scale (units value)
      have sign : ((Decimal.ofScaled scale (units value)).quantize scale).negative = false := by
        simp [Decimal.quantize, Decimal.ofScaled]
      exact (Decimal.mk.injEq ..).mpr ⟨sign, coefficient, rfl⟩
  | postgresql =>
      rw [reload_postgresql admitted, quantize_cell]

/-- Storing a budget changes its text exactly when it carries a sign. -/
theorem quantize_reload_eq_iff (dialect : Dialect) (admitted : value.Admitted) :
    (reload dialect value).quantize scale = value.quantize scale ↔ value.negative = false := by
  rw [quantize_reload dialect admitted, quantize_eq]
  constructor
  · intro equal
    exact (congrArg Decimal.negative equal).symm
  · intro positive
    rw [positive]

theorem fitsPlaces_reload (dialect : Dialect) (admitted : value.Admitted) :
    (reload dialect value).FitsPlaces scale := by
  cases dialect with
  | sqlite =>
      rw [reload_sqlite admitted]
      exact Decimal.fitsPlaces_ofScaled scale (units value)
  | postgresql =>
      rw [reload_postgresql admitted]
      exact Or.inl le_rfl

theorem units_reload (dialect : Dialect) (admitted : value.Admitted) :
    units (reload dialect value) = units value := by
  rw [units, quantize_reload dialect admitted]

theorem negative_reload (dialect : Dialect) (admitted : value.Admitted) :
    (reload dialect value).negative = false :=
  congrArg Decimal.negative (quantize_reload dialect admitted)

theorem admitted_reload (dialect : Dialect) (admitted : value.Admitted) :
    (reload dialect value).Admitted := by
  refine ⟨?_, fitsPlaces_reload dialect admitted, ?_⟩
  · rw [negative_reload dialect admitted]
    simp
  · change units (reload dialect value) < 10 ^ 18
    rw [units_reload dialect admitted]
    exact admitted.2.2

/-- Writing and reading a budget again changes nothing. -/
theorem reload_reload (dialect : Dialect) (admitted : value.Admitted) :
    reload dialect (reload dialect value) = reload dialect value := by
  have again := admitted_reload dialect admitted
  have units := units_reload dialect admitted
  cases dialect with
  | sqlite => rw [reload_sqlite again, units, reload_sqlite admitted]
  | postgresql => rw [reload_postgresql again, units, reload_postgresql admitted]

/-- The value of an admitted budget is its number of stored units. -/
theorem value_eq_units (admitted : value.Admitted) :
    value.value = units value * 10 ^ (-(scale : Int)) := by
  rw [← Decimal.value_quantize admitted.2.1]
  unfold Decimal.value
  change (if value.negative = true then (-1 : ℚ) else 1) * (units value : ℚ) *
    10 ^ (-(scale : Int)) = _
  split
  · next negative =>
    have zero : units value = 0 := by
      have noCoefficient := admitted.1 negative
      simp [units, Decimal.quantize, Decimal.roundHalfEven, noCoefficient]
    simp [zero]
  · simp

theorem value_nonneg (admitted : value.Admitted) : 0 ≤ value.value := by
  rw [value_eq_units admitted]
  positivity

/-- Storage keeps the number. -/
theorem value_reload (dialect : Dialect) (admitted : value.Admitted) :
    (reload dialect value).value = value.value := by
  rw [value_eq_units (admitted_reload dialect admitted), units_reload dialect admitted,
    value_eq_units admitted]

end Money

end RollingBudget
