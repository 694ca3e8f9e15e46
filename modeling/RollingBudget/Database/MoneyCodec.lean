import RollingBudget.Database.Money
import RollingBudget.Foundation.DecimalValue

namespace RollingBudget.MoneyCodec

/-! The arithmetic of the `Money` column type, step by step in the decimal context:
`quantize`, the scaling by `MONEY_FACTOR`, the truncation by `int` and the division on the
way back. On every number the column holds it computes what `Money` states. -/

/-- `MONEY_FACTOR = Decimal(10) ** MONEY_SCALE` -/
def moneyFactor : Decimal := Decimal.ofNat (10 ^ Money.scale)

/-- `MONEY_QUANTUM = Decimal(1) / MONEY_FACTOR` -/
def moneyQuantum : Decimal := (Decimal.ofNat 1).div moneyFactor

/-- `Decimal(units)` -/
def ofInt (units : Int) : Decimal := ⟨decide (units < 0), units.natAbs, 0⟩

/-- `process_bind_param` -/
def processBindParam (dialect : Dialect) (value : Decimal) : Option MoneyCell := do
  let normalized ← Decimal.quantizeLike moneyQuantum value
  match dialect with
  | .sqlite => some (.integer (normalized.mul moneyFactor).truncate)
  | .postgresql => some (.numeric normalized)

/-- `process_result_value` -/
def processResultValue : MoneyCell → Option Decimal
  | .integer units => some ((ofInt units).div moneyFactor)
  | .numeric value => Decimal.quantizeLike moneyQuantum value

/-- One write and one read. -/
def cycle (dialect : Dialect) (value : Decimal) : Option Decimal := do
  let cell ← processBindParam dialect value
  processResultValue cell.stored

/-- Any number of writes and reads. -/
def cycles (dialect : Dialect) : Nat → Decimal → Option Decimal
  | 0, value => some value
  | count + 1, value => (cycle dialect value).bind (cycles dialect count)

example : cycle .sqlite ⟨false, 1250, -2⟩ = some ⟨false, 125, -1⟩ := by decide +kernel

/-- The numbers of a `NUMERIC(18, 4)` column, signed and in any representation. -/
def Storable (value : Decimal) : Prop :=
  value.FitsPlaces Money.scale ∧ (value.quantize Money.scale).coefficient < 10 ^ 18

theorem moneyQuantum_eq : moneyQuantum = ⟨false, 1, -(Money.scale : Int)⟩ := by
  decide +kernel

variable {value : Decimal}

/-- Quantizing a number of the column raises nothing. -/
theorem quantizeLike_moneyQuantum
    (bound : (value.quantize Money.scale).coefficient < 10 ^ 18) :
    Decimal.quantizeLike moneyQuantum value = some (value.quantize Money.scale) := by
  have digits : (Text.digits (value.quantize Money.scale).coefficient).length ≤
      Decimal.precision := by
    rw [Decimal.length_digits_le_iff (by decide)]
    exact bound.trans (by decide)
  rw [moneyQuantum_eq]
  exact if_pos digits

/-! ## Writing -/

/-- The signed number of units of `10 ^ -4`. -/
def signedUnits (value : Decimal) : Int :=
  (if value.negative then -1 else 1) * (value.quantize Money.scale).coefficient

theorem value_eq_signedUnits (fits : value.FitsPlaces Money.scale) :
    value.value = signedUnits value * 10 ^ (-(Money.scale : Int)) := by
  rw [← Decimal.value_quantize fits]
  unfold signedUnits Decimal.value
  push_cast
  rfl

theorem signedUnits_eq_mul_value (fits : value.FitsPlaces Money.scale) :
    (signedUnits value : ℚ) = 10000 * value.value := by
  rw [value_eq_signedUnits fits]
  unfold Money.scale
  norm_num
  ring

/-- Neither the multiplication nor the truncation loses a digit. -/
theorem processBindParam_sqlite (storable : Storable value) :
    processBindParam .sqlite value = some (.integer (signedUnits value)) := by
  have product : (value.quantize Money.scale).value * moneyFactor.value = signedUnits value := by
    rw [Decimal.value_quantize storable.1, signedUnits_eq_mul_value storable.1]
    unfold moneyFactor Money.scale
    rw [Decimal.value_ofNat]
    norm_num
    ring
  have short : Decimal.Short ((value.quantize Money.scale).value * moneyFactor.value) := by
    apply Decimal.short_of_units (signedUnits value) 0
    · have size : (signedUnits value).natAbs = (value.quantize Money.scale).coefficient := by
        unfold signedUnits
        split <;> simp
      rw [size]
      exact storable.2.trans (by decide)
    · rw [product, zpow_zero, mul_one]
  have truncated := Decimal.truncate_eq_of_value ((Decimal.value_mul short).trans product)
  unfold processBindParam
  rw [quantizeLike_moneyQuantum storable.2]
  exact congrArg (fun units => some (MoneyCell.integer units)) truncated

theorem processBindParam_postgresql (storable : Storable value) :
    processBindParam .postgresql value = some (.numeric (value.quantize Money.scale)) := by
  unfold processBindParam
  rw [quantizeLike_moneyQuantum storable.2]
  rfl

theorem signedUnits_eq_units (admitted : value.Admitted) :
    signedUnits value = Money.units value := by
  have scaled : (signedUnits value : ℚ) = Money.units value := by
    rw [signedUnits_eq_mul_value admitted.2.1, Money.value_eq_units admitted]
    unfold Money.scale
    norm_num
    ring
  exact_mod_cast scaled

/-! ## Reading -/

theorem dropZeros_add (first second coefficient : Nat) :
    Decimal.dropZeros (first + second) (coefficient * 10 ^ first) =
      Decimal.dropZeros second coefficient := by
  induction first with
  | zero => simp
  | succ first induction =>
      rw [Nat.add_right_comm, pow_succ, ← mul_assoc, Decimal.dropZeros, Nat.mul_mod_left,
        if_pos rfl, Nat.mul_div_cancel _ (by decide), induction]

theorem droppedZeros_add (first second coefficient : Nat) :
    Decimal.droppedZeros (first + second) (coefficient * 10 ^ first) =
      first + Decimal.droppedZeros second coefficient := by
  induction first with
  | zero => simp
  | succ first induction =>
      rw [Nat.add_right_comm, pow_succ, ← mul_assoc, Decimal.droppedZeros, Nat.mul_mod_left,
        if_pos rfl, Nat.mul_div_cancel _ (by decide), induction]
      omega

theorem reduceScale_eq (places coefficient : Nat) :
    Decimal.droppedZeros places coefficient ≤ places ∧
      Decimal.reduceScale places coefficient = (Decimal.dropZeros places coefficient,
        places - Decimal.droppedZeros places coefficient) := by
  induction places generalizing coefficient with
  | zero => simp [Decimal.reduceScale, Decimal.dropZeros, Decimal.droppedZeros]
  | succ places induction =>
      unfold Decimal.reduceScale Decimal.dropZeros Decimal.droppedZeros
      split
      · rcases induction (coefficient / 10) with ⟨bound, reduced⟩
        rw [reduced]
        exact ⟨by omega, by simp⟩
      · simp

/-- The division on the way back is exact and leaves the shortest scale. -/
theorem div_moneyFactor {units : Nat} (bound : units < 10 ^ 18) :
    (ofInt units).div moneyFactor = Decimal.ofScaled Money.scale units := by
  by_cases zero : units = 0
  · subst zero
    decide +kernel
  · have digits : (Text.digits units).length ≤ 18 :=
      (Decimal.length_digits_le_iff (by decide)).mpr bound
    have positive := Decimal.length_digits_pos units
    obtain ⟨room, roomEq⟩ : ∃ room : Nat,
        (5 : Int) - (Text.digits units).length + Decimal.precision + 1 = (room + 4 : Nat) :=
      ⟨30 - (Text.digits units).length, by unfold Decimal.precision; omega⟩
    have factorDigits : (Text.digits moneyFactor.coefficient).length = 5 := by decide +kernel
    have whole : units * 10 ^ (room + 4) = units * 10 ^ room * 10000 := by
      rw [pow_add, ← mul_assoc]
      norm_num
    rcases reduceScale_eq 4 units with ⟨dropped, reduced⟩
    have quotient : (ofInt units).div moneyFactor = Decimal.contextRound
        ⟨false, Decimal.dropZeros 4 units,
          0 - ((room + 4 : Nat) : Int) + ((room + Decimal.droppedZeros 4 units : Nat) : Int)⟩ := by
      unfold Decimal.div
      have coefficient : (ofInt units).coefficient = units := by simp [ofInt]
      have sign : ((ofInt units).negative != moneyFactor.negative) = false := by
        simp [ofInt, moneyFactor, Decimal.ofNat]
      have exponents : (ofInt units).exponent - moneyFactor.exponent = 0 := by
        simp [ofInt, moneyFactor, Decimal.ofNat]
      have divisor : moneyFactor.coefficient * 10 ^ (-((room + 4 : Nat) : Int)).toNat = 10000 := by
        rw [show (-((room + 4 : Nat) : Int)).toNat = 0 by omega]
        rfl
      simp only [coefficient, if_neg zero, sign, exponents, factorDigits, Nat.cast_ofNat, roomEq,
        divisor, Int.toNat_natCast, whole, Nat.mul_mod_left, if_true,
        Nat.mul_div_cancel _ (show 0 < 10000 by decide), dropZeros_add, droppedZeros_add]
    have shorter : Decimal.dropZeros 4 units < 10 ^ 18 := by
      have kept := Decimal.dropZeros_mul_pow 4 units
      have power : 1 ≤ 10 ^ Decimal.droppedZeros 4 units := Nat.pow_pos (by decide)
      nlinarith
    have unrounded : (Text.digits (Decimal.dropZeros 4 units)).length - Decimal.precision = 0 := by
      have short := (Decimal.length_digits_le_iff (by decide : 0 < 18)).mpr shorter
      unfold Decimal.precision
      omega
    have exponent : 0 - ((room + 4 : Nat) : Int) +
        ((room + Decimal.droppedZeros 4 units : Nat) : Int) =
        -((4 - Decimal.droppedZeros 4 units : Nat) : Int) := by omega
    rw [quotient, exponent]
    simp [Decimal.contextRound, unrounded, Decimal.ofScaled, Money.scale, reduced]

/-- One write and one read through the decimal context give what `Money` states. -/
theorem cycle_eq_reload (dialect : Dialect) (admitted : value.Admitted) :
    cycle dialect value = some (Money.reload dialect value) := by
  have bound : Money.units value < 10 ^ 18 := admitted.2.2
  cases dialect with
  | sqlite =>
      unfold cycle
      rw [processBindParam_sqlite admitted.2, signedUnits_eq_units admitted,
        Money.reload_sqlite admitted, ← div_moneyFactor bound]
      rfl
  | postgresql =>
      unfold cycle
      rw [processBindParam_postgresql admitted.2]
      apply quantizeLike_moneyQuantum
      exact lt_of_eq_of_lt (congrArg Decimal.coefficient (Money.reload_postgresql admitted)) bound

theorem cycles_eq_iterate (dialect : Dialect) (count : Nat) (admitted : value.Admitted) :
    cycles dialect count value = some ((Money.reload dialect)^[count] value) ∧
      ((Money.reload dialect)^[count] value).value = value.value := by
  induction count generalizing value with
  | zero => exact ⟨rfl, rfl⟩
  | succ count induction =>
      rcases induction (Money.admitted_reload dialect admitted) with ⟨cycled, kept⟩
      rw [cycles, cycle_eq_reload dialect admitted, Option.bind_some, cycled]
      exact ⟨rfl, kept.trans (Money.value_reload dialect admitted)⟩

/-! ## Order -/

private theorem value_le_iff {left right : Decimal} (leftFits : left.FitsPlaces Money.scale)
    (rightFits : right.FitsPlaces Money.scale) :
    signedUnits left ≤ signedUnits right ↔ left.value ≤ right.value := by
  rw [← Int.cast_le (R := ℚ), signedUnits_eq_mul_value leftFits,
    signedUnits_eq_mul_value rightFits]
  exact mul_le_mul_iff_of_pos_left (by norm_num)

private theorem nonneg_iff (fits : value.FitsPlaces Money.scale) :
    0 ≤ signedUnits value ↔ 0 ≤ value.value := by
  rw [← Int.cast_nonneg_iff (R := ℚ), signedUnits_eq_mul_value fits]
  exact mul_nonneg_iff_of_pos_left (by norm_num)

/-- A column of either dialect keeps every admitted number through any number of writes and
reads, and scaled integers compare as the decimals they stand for. -/
theorem storage_lossless (admitted : value.Admitted) :
    (∃ units : Int, processBindParam .sqlite value = some (.integer units) ∧
        0 ≤ units ∧ units < 2 ^ 63 ∧ (units : ℚ) = 10000 * value.value) ∧
      (∃ stored, processBindParam .postgresql value = some (.numeric stored) ∧
        stored.coefficient < 10 ^ 18 ∧ stored.value = value.value) ∧
      (∀ dialect count, ∃ loaded,
        cycles dialect count value = some loaded ∧ loaded.value = value.value) ∧
      ∀ left right, Storable left → Storable right → ∃ leftUnits rightUnits,
        processBindParam .sqlite left = some (.integer leftUnits) ∧
        processBindParam .sqlite right = some (.integer rightUnits) ∧
        (0 ≤ leftUnits ↔ 0 ≤ left.value) ∧
        (leftUnits ≤ rightUnits ↔ left.value ≤ right.value) ∧
        (leftUnits < rightUnits ↔ left.value < right.value) := by
  refine ⟨⟨signedUnits value, processBindParam_sqlite admitted.2, ?_, ?_, ?_⟩,
    ⟨_, processBindParam_postgresql admitted.2, admitted.2.2, ?_⟩, ?_, ?_⟩
  · exact (nonneg_iff admitted.2.1).mpr (Money.value_nonneg admitted)
  · have bound : Money.units value < 10 ^ 18 := admitted.2.2
    rw [signedUnits_eq_units admitted]
    omega
  · exact signedUnits_eq_mul_value admitted.2.1
  · exact Decimal.value_quantize admitted.2.1
  · intro dialect count
    exact ⟨_, cycles_eq_iterate dialect count admitted⟩
  · intro left right leftStorable rightStorable
    have order := value_le_iff leftStorable.1 rightStorable.1
    have converse := value_le_iff rightStorable.1 leftStorable.1
    refine ⟨_, _, processBindParam_sqlite leftStorable, processBindParam_sqlite rightStorable,
      nonneg_iff leftStorable.1, order, ?_⟩
    rw [← not_le, ← not_le, converse]

theorem storage_lossless_largest :
    ∃ units : Int, processBindParam .sqlite ⟨false, 999999999999999999, -4⟩ =
        some (.integer units) ∧ 0 ≤ units ∧ units < 2 ^ 63 ∧
      (units : ℚ) = 10000 * Decimal.value ⟨false, 999999999999999999, -4⟩ :=
  (@storage_lossless ⟨false, 999999999999999999, -4⟩ (by decide +kernel)).1

end RollingBudget.MoneyCodec
