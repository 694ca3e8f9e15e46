import RollingBudget.Foundation.DecimalContext

namespace RollingBudget.Decimal

/-! The numbers that arithmetic in the decimal context computes. A result that can be
written with 28 digits is exact; a quotient is otherwise within one part in `10 ^ 27`. -/

/-! ## Digits -/

theorem length_digits_le_iff {number count : Nat} (positive : 0 < count) :
    (Text.digits number).length ≤ count ↔ number < 10 ^ count :=
  Nat.length_toDigits_le_iff (by decide) positive

theorem length_digits_pos (number : Nat) : 0 < (Text.digits number).length :=
  List.length_pos_iff.mpr (Text.digits_ne_nil number)

theorem lt_pow_length_digits (number : Nat) : number < 10 ^ (Text.digits number).length :=
  (length_digits_le_iff (length_digits_pos number)).mp le_rfl

theorem pow_length_digits_le {number : Nat} (nonzero : number ≠ 0) :
    10 ^ ((Text.digits number).length - 1) ≤ number := by
  have positive := length_digits_pos number
  by_cases single : (Text.digits number).length = 1
  · rw [single]
    show 1 ≤ number
    omega
  · have shorter : 0 < (Text.digits number).length - 1 := by omega
    by_contra small
    have bounded := (length_digits_le_iff shorter).mpr (Nat.lt_of_not_le small)
    omega

/-! ## Sign and magnitude -/

/-- The factor a sign contributes. -/
def sign (negative : Bool) : ℚ := if negative then -1 else 1

def magnitude (decimal : Decimal) : ℚ := decimal.coefficient * 10 ^ decimal.exponent

theorem value_eq_sign_mul (decimal : Decimal) :
    decimal.value = sign decimal.negative * decimal.magnitude := by
  unfold value sign magnitude
  rw [mul_assoc]

theorem abs_sign (negative : Bool) : |sign negative| = 1 := by
  cases negative <;> simp [sign]

theorem magnitude_nonneg (decimal : Decimal) : 0 ≤ decimal.magnitude := by
  unfold magnitude
  positivity

theorem abs_value (decimal : Decimal) : |decimal.value| = decimal.magnitude := by
  rw [value_eq_sign_mul, abs_mul, abs_sign, one_mul, abs_of_nonneg decimal.magnitude_nonneg]

@[simp] theorem value_ofNat (number : Nat) : (ofNat number).value = number := by
  simp [value, ofNat]

private theorem ten_ne_zero : (10 : ℚ) ≠ 0 := by norm_num

/-! ## Rounding to the context -/

/-- A number that some decimal of at most 28 digits denotes. -/
def Short (number : ℚ) : Prop :=
  ∃ (digits exponent : Int), digits.natAbs < 10 ^ precision ∧ number = digits * 10 ^ exponent

theorem short_of_units {number : ℚ} (units exponent : Int) (bound : units.natAbs < 10 ^ precision)
    (equal : number = units * 10 ^ exponent) : Short number :=
  ⟨units, exponent, bound, equal⟩

/-- Rounding drops trailing zeros only when the rest of the digits fit. -/
private theorem magnitude_contextRound_of_factor {decimal : Decimal} {digits : Nat} (shift : Nat)
    (short : digits < 10 ^ precision) (factored : decimal.coefficient = digits * 10 ^ shift) :
    (contextRound decimal).magnitude = decimal.magnitude := by
  by_cases fits : (Text.digits decimal.coefficient).length - precision = 0
  · simp [contextRound, fits]
  · generalize excessEq : (Text.digits decimal.coefficient).length - precision = excess at fits
    have precisionPositive : 0 < precision := by decide
    have long : (Text.digits decimal.coefficient).length = precision + excess := by omega
    have lengthBound : precision + excess ≤ precision + shift := by
      rw [← long, length_digits_le_iff (by omega), factored, pow_add]
      exact Nat.mul_lt_mul_of_pos_right short (Nat.pow_pos (by decide))
    have divides : 10 ^ excess ∣ decimal.coefficient := by
      rw [factored]
      exact Dvd.dvd.mul_left (Nat.pow_dvd_pow 10 (by omega)) digits
    have coefficientBound := lt_pow_length_digits decimal.coefficient
    rw [long, pow_add] at coefficientBound
    have quotientBound : decimal.coefficient / 10 ^ excess < 10 ^ precision :=
      Nat.div_lt_of_lt_mul (by rwa [mul_comm])
    have rounded := roundHalfEven_of_dvd (Nat.pow_pos (by decide)) divides
    have unchanged : contextRound decimal = ⟨decimal.negative,
        decimal.coefficient / 10 ^ excess, decimal.exponent + excess⟩ := by
      simp only [contextRound, excessEq, if_neg fits, rounded, if_neg (ne_of_lt quotientBound)]
    rcases divides with ⟨quotient, whole⟩
    rw [unchanged]
    unfold magnitude
    dsimp only
    rw [whole, Nat.mul_div_cancel_left _ (Nat.pow_pos (by decide)), zpow_add₀ ten_ne_zero]
    push_cast
    rw [zpow_natCast]
    ring

theorem negative_contextRound (decimal : Decimal) :
    (contextRound decimal).negative = decimal.negative := by
  simp only [contextRound]
  split
  · rfl
  · split <;> rfl

/-- Rounding keeps a number of at most 28 digits, however it is written. -/
theorem value_contextRound {decimal : Decimal} (short : Short decimal.value) :
    (contextRound decimal).value = decimal.value := by
  rw [value_eq_sign_mul, value_eq_sign_mul, negative_contextRound]
  congr 1
  rcases short with ⟨digits, exponent, bound, equal⟩
  have magnitudes : (decimal.coefficient : ℚ) * 10 ^ decimal.exponent =
      digits.natAbs * 10 ^ exponent := by
    have absolute := abs_value decimal
    have positive : (0 : ℚ) < 10 ^ exponent := zpow_pos (by norm_num) exponent
    rw [equal, abs_mul, abs_of_pos positive] at absolute
    rw [Nat.cast_natAbs, Int.cast_abs]
    exact absolute.symm
  by_cases small : decimal.coefficient < 10 ^ precision
  · exact magnitude_contextRound_of_factor 0 small (by simp)
  · have above : decimal.exponent ≤ exponent := by
      by_contra below
      have shorter : decimal.coefficient ≤ digits.natAbs := by
        have powers : (10 : ℚ) ^ exponent ≤ 10 ^ decimal.exponent :=
          zpow_le_zpow_right₀ (by norm_num) (by omega)
        have positive : (0 : ℚ) < 10 ^ exponent := zpow_pos (by norm_num) exponent
        have product : (decimal.coefficient : ℚ) * 10 ^ exponent ≤
            digits.natAbs * 10 ^ exponent := by
          rw [← magnitudes]
          exact mul_le_mul_of_nonneg_left powers (Nat.cast_nonneg _)
        exact_mod_cast le_of_mul_le_mul_right product positive
      omega
    apply magnitude_contextRound_of_factor (exponent - decimal.exponent).toNat bound
    have split : exponent = ((exponent - decimal.exponent).toNat : Int) + decimal.exponent := by
      omega
    rw [split, zpow_add₀ ten_ne_zero, ← mul_assoc, zpow_natCast] at magnitudes
    have positive : (10 : ℚ) ^ decimal.exponent ≠ 0 := zpow_ne_zero _ ten_ne_zero
    exact_mod_cast mul_right_cancel₀ positive magnitudes

/-- Rounding half to even moves a number by at most half a unit. -/
theorem roundHalfEven_bounds (number : Nat) {divisor : Nat} (positive : 0 < divisor) :
    2 * number ≤ 2 * (roundHalfEven number divisor * divisor) + divisor ∧
      2 * (roundHalfEven number divisor * divisor) ≤ 2 * number + divisor := by
  have division := Nat.div_add_mod number divisor
  have remainder := Nat.mod_lt number positive
  rw [mul_comm] at division
  unfold roundHalfEven
  dsimp only
  split
  · omega
  · rw [add_mul, one_mul]
    omega

/-- The relative error of rounding to the context. -/
theorem abs_value_contextRound_sub_le (decimal : Decimal) :
    |(contextRound decimal).value - decimal.value| ≤
      decimal.magnitude / (2 * 10 ^ (precision - 1)) := by
  rw [value_eq_sign_mul, value_eq_sign_mul, negative_contextRound, ← mul_sub, abs_mul, abs_sign,
    one_mul]
  have nonneg := decimal.magnitude_nonneg
  by_cases fits : (Text.digits decimal.coefficient).length - precision = 0
  · have unchanged : contextRound decimal = decimal := by simp [contextRound, fits]
    rw [unchanged, sub_self, abs_zero]
    positivity
  · generalize excessEq : (Text.digits decimal.coefficient).length - precision = excess at fits
    have precisionPositive : 0 < precision := by decide
    have nonzero : decimal.coefficient ≠ 0 := by
      intro zero
      rw [zero, show (Text.digits 0).length = 1 by decide] at excessEq
      omega
    have large : 10 ^ (precision - 1) * 10 ^ excess ≤ decimal.coefficient := by
      have bound := pow_length_digits_le nonzero
      rw [← pow_add]
      rwa [show (Text.digits decimal.coefficient).length - 1 = precision - 1 + excess by omega]
        at bound
    have rounding := roundHalfEven_bounds decimal.coefficient
      (Nat.pow_pos (by decide) : 0 < 10 ^ excess)
    generalize roundedEq : roundHalfEven decimal.coefficient (10 ^ excess) = rounded at rounding
    have result : (contextRound decimal).magnitude =
        (rounded * 10 ^ excess : ℚ) * 10 ^ decimal.exponent := by
      simp only [contextRound, excessEq, if_neg fits, roundedEq]
      split
      · next carry =>
        unfold magnitude
        dsimp only
        rw [zpow_add₀ ten_ne_zero, zpow_add₀ ten_ne_zero, carry,
          show precision = precision - 1 + 1 by decide]
        push_cast
        rw [zpow_natCast, pow_succ]
        ring
      · unfold magnitude
        dsimp only
        rw [zpow_add₀ ten_ne_zero, zpow_natCast]
        ring
    have scale : (0 : ℚ) < 10 ^ decimal.exponent := zpow_pos (by norm_num) _
    have lower : (2 : ℚ) * decimal.coefficient ≤ 2 * (rounded * 10 ^ excess) + 10 ^ excess := by
      exact_mod_cast rounding.1
    have upper : (2 : ℚ) * (rounded * 10 ^ excess) ≤ 2 * decimal.coefficient + 10 ^ excess := by
      exact_mod_cast rounding.2
    have unit : (10 : ℚ) ^ (precision - 1) * 10 ^ excess ≤ decimal.coefficient := by
      exact_mod_cast large
    have half : (10 : ℚ) ^ excess / 2 ≤
        decimal.coefficient / (2 * 10 ^ (precision - 1)) := by
      rw [div_le_div_iff₀ (by norm_num) (by positivity)]
      linarith
    rw [result]
    unfold magnitude
    rw [← sub_mul, abs_mul, abs_of_pos scale, mul_div_right_comm]
    apply mul_le_mul_of_nonneg_right _ scale.le
    rw [abs_le]
    constructor <;> linarith

/-! ## Sums and differences -/

theorem scaledTo_mul_pow {decimal : Decimal} {exponent : Int}
    (below : exponent ≤ decimal.exponent) :
    (decimal.scaledTo exponent : ℚ) * 10 ^ exponent = decimal.value := by
  have split : decimal.exponent = ((decimal.exponent - exponent).toNat : Int) + exponent := by
    omega
  have shifted : (10 : ℚ) ^ decimal.exponent =
      10 ^ (decimal.exponent - exponent).toNat * 10 ^ exponent := by
    conv_lhs => rw [split]
    rw [zpow_add₀ ten_ne_zero, zpow_natCast]
  unfold scaledTo value
  rw [shifted]
  push_cast
  ring

/-- A sum that fits in 28 digits is exact. -/
theorem value_add {left right : Decimal} (short : Short (left.value + right.value)) :
    (left.add right).value = left.value + right.value := by
  have exact : ∀ exponent, exponent ≤ left.exponent → exponent ≤ right.exponent →
      ∀ negative : Bool,
      (negative = true ↔ left.scaledTo exponent + right.scaledTo exponent < 0 ∨
        (left.scaledTo exponent + right.scaledTo exponent = 0 ∧ left.negative = true ∧
          right.negative = true)) →
      (⟨negative, (left.scaledTo exponent + right.scaledTo exponent).natAbs, exponent⟩ :
        Decimal).value = left.value + right.value := by
    intro exponent leftBelow rightBelow negative negativeIff
    rw [← scaledTo_mul_pow leftBelow, ← scaledTo_mul_pow rightBelow, ← add_mul]
    generalize left.scaledTo exponent = leftUnits at negativeIff ⊢
    generalize right.scaledTo exponent = rightUnits at negativeIff ⊢
    unfold value
    dsimp only
    congr 1
    rw [Nat.cast_natAbs, ← Int.cast_add]
    generalize leftUnits + rightUnits = total at negativeIff ⊢
    cases negative with
    | true =>
        have nonpositive : total ≤ 0 := by
          rcases negativeIff.mp rfl with below | ⟨zero, -, -⟩ <;> omega
        rw [abs_of_nonpos nonpositive]
        simp
    | false =>
        have nonnegative : 0 ≤ total := by
          by_contra below
          have signed := negativeIff.mpr (Or.inl (by omega))
          cases signed
        rw [abs_of_nonneg nonnegative]
        simp
  unfold add
  dsimp only
  have equal := exact (min left.exponent right.exponent) (min_le_left _ _) (min_le_right _ _)
    _ (decide_eq_true_iff)
  rw [value_contextRound (by rw [equal]; exact short), equal]

@[simp] theorem value_negated (decimal : Decimal) : decimal.negated.value = -decimal.value := by
  unfold negated value
  cases decimal.negative <;> simp

theorem value_sub {left right : Decimal} (short : Short (left.value - right.value)) :
    (left.sub right).value = left.value - right.value := by
  unfold sub
  rw [value_add (by rwa [value_negated, ← sub_eq_add_neg]), value_negated, sub_eq_add_neg]

theorem less_iff (left right : Decimal) : left.less right = true ↔ left.value < right.value := by
  have positive : (0 : ℚ) < 10 ^ min left.exponent right.exponent := zpow_pos (by norm_num) _
  rw [← scaledTo_mul_pow (min_le_left left.exponent right.exponent),
    ← scaledTo_mul_pow (min_le_right left.exponent right.exponent),
    mul_lt_mul_iff_of_pos_right positive, Int.cast_lt]
  simp [less]

theorem equal_iff (left right : Decimal) : left.equal right = true ↔ left.value = right.value := by
  have nonzero : (10 : ℚ) ^ min left.exponent right.exponent ≠ 0 := zpow_ne_zero _ (by norm_num)
  rw [← scaledTo_mul_pow (min_le_left left.exponent right.exponent),
    ← scaledTo_mul_pow (min_le_right left.exponent right.exponent),
    mul_left_inj' nonzero, Int.cast_inj]
  simp [equal]

theorem value_max (left right : Decimal) :
    (left.max right).value = Max.max left.value right.value := by
  unfold max
  split
  · next below =>
    exact (max_eq_right ((less_iff left right).mp below).le).symm
  · next notBelow =>
    rw [less_iff, not_lt] at notBelow
    exact (max_eq_left notBelow).symm

/-- A decimal that counts units of `10 ^ exponent`. -/
def Counts (exponent : Int) (decimal : Decimal) : Prop :=
  ∃ units : Nat, decimal.value = units * 10 ^ exponent

/-- A running total that never needs more than 28 digits is exact. -/
theorem value_foldl_add {exponent : Int} (decimals : List Decimal) (start : Decimal)
    (startCounts : Counts exponent start)
    (counts : ∀ decimal ∈ decimals, Counts exponent decimal)
    (fits : start.value + (decimals.map value).sum < 10 ^ precision * 10 ^ exponent) :
    (decimals.foldl add start).value = start.value + (decimals.map value).sum := by
  induction decimals generalizing start with
  | nil => simp
  | cons head tail induction =>
      rcases startCounts with ⟨startUnits, startValue⟩
      rcases counts head (by simp) with ⟨headUnits, headValue⟩
      have tailCounts : ∀ decimal ∈ tail, Counts exponent decimal := by
        intro decimal member
        exact counts decimal (List.mem_cons_of_mem head member)
      have positive : (0 : ℚ) < 10 ^ exponent := zpow_pos (by norm_num) exponent
      have tailNonneg : 0 ≤ (tail.map value).sum := by
        apply List.sum_nonneg
        intro number member
        rcases List.mem_map.mp member with ⟨decimal, inTail, rfl⟩
        rcases tailCounts decimal inTail with ⟨units, equal⟩
        rw [equal]
        positivity
      have together : start.value + head.value = (startUnits + headUnits : Nat) * 10 ^ exponent := by
        rw [startValue, headValue]
        push_cast
        ring
      rw [List.map_cons, List.sum_cons, ← add_assoc] at fits ⊢
      have bound : startUnits + headUnits < 10 ^ precision := by
        have below : ((startUnits + headUnits : Nat) : ℚ) * 10 ^ exponent <
            10 ^ precision * 10 ^ exponent := by
          rw [← together]
          linarith
        exact_mod_cast lt_of_mul_lt_mul_right below positive.le
      have headSum : (start.add head).value = start.value + head.value := by
        apply value_add
        exact short_of_units (startUnits + headUnits : Nat) exponent bound together
      rw [List.foldl_cons, induction (start.add head) ⟨_, headSum.trans together⟩ tailCounts
        (by rwa [headSum]), headSum]

theorem value_sum (exponent : Int) {decimals : List Decimal}
    (counts : ∀ decimal ∈ decimals, Counts exponent decimal)
    (fits : (decimals.map value).sum < 10 ^ precision * 10 ^ exponent) :
    (sum decimals).value = (decimals.map value).sum := by
  have total := value_foldl_add decimals (ofNat 0) ⟨0, by simp⟩ counts (by simpa using fits)
  simpa [sum] using total

/-! ## Products and truncation -/

theorem sign_xor (left right : Bool) : sign (left != right) = sign left * sign right := by
  cases left <;> cases right <;> simp [sign]

theorem value_mul {left right : Decimal} (short : Short (left.value * right.value)) :
    (left.mul right).value = left.value * right.value := by
  have exact : (⟨left.negative != right.negative, left.coefficient * right.coefficient,
      left.exponent + right.exponent⟩ : Decimal).value = left.value * right.value := by
    rw [value_eq_sign_mul, value_eq_sign_mul, value_eq_sign_mul, sign_xor]
    unfold magnitude
    dsimp only
    rw [zpow_add₀ ten_ne_zero]
    push_cast
    ring
  unfold mul
  rw [value_contextRound (by rwa [exact]), exact]

/-- Truncation keeps an integer, however it is written. -/
theorem truncate_eq_of_value {decimal : Decimal} {number : Int}
    (equal : decimal.value = number) : decimal.truncate = number := by
  have factors : (decimal.coefficient * 10 ^ decimal.exponent.toNat : ℚ) =
      number.natAbs * 10 ^ (-decimal.exponent).toNat := by
    have split : ((decimal.exponent.toNat : Int)) =
        decimal.exponent + ((-decimal.exponent).toNat : Int) := by omega
    have shifted : (10 : ℚ) ^ decimal.exponent.toNat =
        10 ^ decimal.exponent * 10 ^ (-decimal.exponent).toNat := by
      rw [← zpow_natCast, split, zpow_add₀ ten_ne_zero, zpow_natCast]
    have absolute := abs_value decimal
    rw [equal] at absolute
    rw [shifted, ← mul_assoc, Nat.cast_natAbs, Int.cast_abs, absolute]
    rfl
  have whole : decimal.coefficient * 10 ^ decimal.exponent.toNat =
      number.natAbs * 10 ^ (-decimal.exponent).toNat := by
    exact_mod_cast factors
  have signed : sign decimal.negative * (number.natAbs : ℚ) = number := by
    rw [← equal, value_eq_sign_mul, Nat.cast_natAbs, Int.cast_abs, ← equal, abs_value]
  unfold truncate
  rw [whole, Nat.mul_div_cancel _ (Nat.pow_pos (by decide))]
  generalize number.natAbs = size at signed ⊢
  cases negative : decimal.negative with
  | true =>
      have negated : -(size : ℚ) = number := by simpa [sign, negative] using signed
      have integers : -(size : Int) = number := by exact_mod_cast negated
      simpa using integers
  | false =>
      have unchanged : (size : ℚ) = number := by simpa [sign, negative] using signed
      have integers : (size : Int) = number := by exact_mod_cast unchanged
      simpa using integers

/-- An integer is its own integral value, however it is written. -/
theorem value_toIntegralValue_of_value {decimal : Decimal} {number : Int}
    (equal : decimal.value = number) : decimal.toIntegralValue.value = number := by
  unfold toIntegralValue
  split
  · exact equal
  · next fraction =>
    have absolute := abs_value decimal
    rw [equal] at absolute
    have factors : (decimal.coefficient : ℚ) =
        10 ^ (-decimal.exponent).toNat * number.natAbs := by
      have place : ((-decimal.exponent).toNat : Int) + decimal.exponent = 0 := by omega
      rw [Nat.cast_natAbs, Int.cast_abs, absolute]
      unfold magnitude
      rw [mul_comm, mul_assoc, mul_comm (10 ^ decimal.exponent), ← zpow_natCast,
        ← zpow_add₀ ten_ne_zero, place, zpow_zero, mul_one]
    have fits : decimal.FitsPlaces 0 := by
      right
      refine ⟨number.natAbs, ?_⟩
      have place : (-((0 : Nat) : Int) - decimal.exponent).toNat =
          (-decimal.exponent).toNat := by omega
      rw [place]
      exact_mod_cast factors
    rw [value_quantize fits, equal]

/-! ## Quotients -/

theorem dropZeros_mul_pow (count coefficient : Nat) :
    dropZeros count coefficient * 10 ^ droppedZeros count coefficient = coefficient := by
  induction count generalizing coefficient with
  | zero => simp [dropZeros, droppedZeros]
  | succ count induction =>
      unfold dropZeros droppedZeros
      split
      · next divides =>
        rw [pow_succ, ← mul_assoc, induction]
        omega
      · simp

/-- How far the dividend is shifted for the quotient to have at least 29 digits. -/
def quotientShift (left right : Decimal) : Int :=
  (Text.digits right.coefficient).length - (Text.digits left.coefficient).length + precision + 1

def numerator (left right : Decimal) : Nat :=
  left.coefficient * 10 ^ (quotientShift left right).toNat

def denominator (left right : Decimal) : Nat :=
  right.coefficient * 10 ^ (-quotientShift left right).toNat

section Quotient

variable {left right : Decimal}

private theorem denominator_pos (left : Decimal) (divisible : right.coefficient ≠ 0) :
    0 < denominator left right :=
  Nat.mul_pos (Nat.pos_of_ne_zero divisible) (Nat.pow_pos (by decide))

private theorem pow_mul_denominator_le (right : Decimal) (nonzero : left.coefficient ≠ 0) :
    10 ^ precision * denominator left right ≤ numerator left right := by
  have leftBound := pow_length_digits_le nonzero
  have leftPositive := length_digits_pos left.coefficient
  have rightBound := (lt_pow_length_digits right.coefficient).le
  have balance : precision + (Text.digits right.coefficient).length +
      (-quotientShift left right).toNat =
      (Text.digits left.coefficient).length - 1 + (quotientShift left right).toNat := by
    unfold quotientShift
    omega
  unfold numerator denominator
  calc 10 ^ precision * (right.coefficient * 10 ^ (-quotientShift left right).toNat)
      ≤ 10 ^ precision * (10 ^ (Text.digits right.coefficient).length *
          10 ^ (-quotientShift left right).toNat) := by gcongr
    _ = 10 ^ ((Text.digits left.coefficient).length - 1) *
          10 ^ (quotientShift left right).toNat := by
        rw [← pow_add, ← pow_add, ← pow_add, ← add_assoc, balance]
    _ ≤ left.coefficient * 10 ^ (quotientShift left right).toNat := by gcongr

/-- The exact quotient in terms of the integers that are divided. -/
private theorem value_div_value (left : Decimal) (divisible : right.coefficient ≠ 0) :
    left.value / right.value = sign (left.negative != right.negative) *
      (numerator left right / denominator left right *
        10 ^ (left.exponent - right.exponent - quotientShift left right)) := by
  have shifted : (10 : ℚ) ^ (quotientShift left right).toNat =
      10 ^ quotientShift left right * 10 ^ (-quotientShift left right).toNat := by
    have split : ((quotientShift left right).toNat : Int) =
        quotientShift left right + ((-quotientShift left right).toNat : Int) := by omega
    rw [← zpow_natCast, split, zpow_add₀ ten_ne_zero, zpow_natCast]
  have signs : sign left.negative / sign right.negative =
      sign (left.negative != right.negative) := by
    cases left.negative <;> cases right.negative <;> simp [sign]
  have divisor : (right.coefficient : ℚ) ≠ 0 := by exact_mod_cast divisible
  have scale : (10 : ℚ) ^ quotientShift left right ≠ 0 := zpow_ne_zero _ ten_ne_zero
  have rightScale : (10 : ℚ) ^ right.exponent ≠ 0 := zpow_ne_zero _ ten_ne_zero
  rw [← signs, value_eq_sign_mul, value_eq_sign_mul, mul_div_mul_comm]
  congr 1
  unfold numerator denominator magnitude
  push_cast
  rw [shifted, zpow_sub₀ ten_ne_zero, zpow_sub₀ ten_ne_zero]
  field_simp

/-- The quotient before it is rounded to the context. -/
private theorem div_eq_contextRound (nonzero : left.coefficient ≠ 0)
    (divisible : right.coefficient ≠ 0) :
    ∃ quotient : Decimal, left.div right = contextRound quotient ∧
      quotient.negative = (left.negative != right.negative) ∧
      |quotient.magnitude - numerator left right / denominator left right *
        10 ^ (left.exponent - right.exponent - quotientShift left right)| ≤
        10 ^ (left.exponent - right.exponent - quotientShift left right) ∧
      (denominator left right ∣ numerator left right →
        quotient.magnitude = numerator left right / denominator left right *
          10 ^ (left.exponent - right.exponent - quotientShift left right)) := by
  have positive := denominator_pos left divisible
  have scale : (0 : ℚ) < 10 ^ (left.exponent - right.exponent - quotientShift left right) :=
    zpow_pos (by norm_num) _
  have castPositive : (0 : ℚ) < denominator left right := by exact_mod_cast positive
  by_cases divides : numerator left right % denominator left right = 0
  · rcases Nat.dvd_of_mod_eq_zero divides with ⟨whole, product⟩
    have wholeEq : numerator left right / denominator left right = whole := by
      rw [product, Nat.mul_div_cancel_left _ positive]
    have ratio : (numerator left right : ℚ) / denominator left right = whole := by
      rw [product]
      push_cast
      rw [mul_div_cancel_left₀ _ castPositive.ne']
    have magnitudeEq : magnitude ⟨left.negative != right.negative,
        dropZeros (quotientShift left right).toNat whole,
        left.exponent - right.exponent - quotientShift left right +
          droppedZeros (quotientShift left right).toNat whole⟩ =
        numerator left right / denominator left right *
          10 ^ (left.exponent - right.exponent - quotientShift left right) := by
      have kept := dropZeros_mul_pow (quotientShift left right).toNat whole
      unfold magnitude
      dsimp only
      rw [ratio, zpow_add₀ ten_ne_zero, zpow_natCast]
      conv_rhs => rw [← kept]
      push_cast
      ring
    refine ⟨_, ?_, rfl, ?_, fun _ => magnitudeEq⟩
    · unfold div
      rw [if_neg nonzero]
      change (if numerator left right % denominator left right = 0 then _ else _) = _
      rw [if_pos divides]
      change contextRound ⟨_, dropZeros _ (numerator left right / denominator left right),
        _ + (droppedZeros _ (numerator left right / denominator left right) : Nat)⟩ = _
      rw [wholeEq]
      rfl
    · rw [magnitudeEq, sub_self, abs_zero]
      exact scale.le
  · refine ⟨⟨left.negative != right.negative,
      if (numerator left right / denominator left right) % 5 = 0 then
        numerator left right / denominator left right + 1
      else numerator left right / denominator left right,
      left.exponent - right.exponent - quotientShift left right⟩, ?_, rfl, ?_, ?_⟩
    · unfold div
      rw [if_neg nonzero]
      change (if numerator left right % denominator left right = 0 then _ else _) = _
      rw [if_neg divides]
      rfl
    · have lower : ((numerator left right / denominator left right : Nat) : ℚ) ≤
          numerator left right / denominator left right := Nat.cast_div_le
      have upper : (numerator left right : ℚ) / denominator left right <
          (numerator left right / denominator left right : Nat) + 1 := by
        rw [div_lt_iff₀ castPositive]
        exact_mod_cast (Nat.lt_mul_of_div_lt (Nat.lt_succ_self _) positive)
      unfold magnitude
      dsimp only
      rw [← sub_mul, abs_mul, abs_of_pos scale]
      apply mul_le_of_le_one_left scale.le
      rw [abs_le]
      split <;> push_cast <;> constructor <;> linarith
    · intro whole
      exact absurd (Nat.mod_eq_zero_of_dvd whole) divides

/-- Dividing zero gives zero. -/
theorem value_div_of_zero (zero : left.coefficient = 0) :
    (left.div right).value = left.value / right.value := by
  have leftZero : left.value = 0 := by simp [value, zero]
  rw [leftZero, zero_div]
  simp [div, zero, value]

/-- A quotient of at most 28 digits is exact. -/
theorem value_div (divisible : right.coefficient ≠ 0) (short : Short (left.value / right.value)) :
    (left.div right).value = left.value / right.value := by
  by_cases zero : left.coefficient = 0
  · exact value_div_of_zero zero
  · rcases div_eq_contextRound zero divisible with ⟨quotient, result, signs, -, exact⟩
    have positive := denominator_pos left divisible
    have castPositive : (0 : ℚ) < denominator left right := by exact_mod_cast positive
    have divides : denominator left right ∣ numerator left right := by
      rcases short with ⟨digits, exponent, bound, equal⟩
      have large := pow_mul_denominator_le right zero
      generalize shiftEq : left.exponent - right.exponent - quotientShift left right = shift
      have ratio : (numerator left right : ℚ) / denominator left right =
          digits.natAbs * 10 ^ (exponent - shift) := by
        have absolute := congrArg abs equal
        rw [value_div_value left divisible, shiftEq, abs_mul, abs_sign, one_mul, abs_mul, abs_mul,
          abs_of_pos (zpow_pos (by norm_num : (0 : ℚ) < 10) shift),
          abs_of_pos (zpow_pos (by norm_num : (0 : ℚ) < 10) exponent),
          abs_of_nonneg (div_nonneg (Nat.cast_nonneg _) (Nat.cast_nonneg _))] at absolute
        rw [Nat.cast_natAbs, Int.cast_abs, zpow_sub₀ ten_ne_zero, ← mul_div_assoc, ← absolute,
          mul_div_cancel_right₀ _ (zpow_ne_zero _ ten_ne_zero)]
      have above : shift ≤ exponent := by
        by_contra below
        have power : (10 : ℚ) ^ (exponent - shift) ≤ 1 :=
          zpow_le_one_of_nonpos₀ (by norm_num) (by omega)
        have small : (numerator left right : ℚ) / denominator left right ≤ digits.natAbs := by
          rw [ratio]
          exact mul_le_of_le_one_right (Nat.cast_nonneg _) power
        have big : ((10 ^ precision : Nat) : ℚ) ≤
            numerator left right / denominator left right := by
          rw [le_div_iff₀ castPositive]
          exact_mod_cast large
        have contradiction : ((10 ^ precision : Nat) : ℚ) ≤ digits.natAbs := big.trans small
        have naturals : 10 ^ precision ≤ digits.natAbs := by exact_mod_cast contradiction
        omega
      have power : (10 : ℚ) ^ (exponent - shift) = 10 ^ (exponent - shift).toNat := by
        rw [← zpow_natCast]
        congr 1
        omega
      rw [power, div_eq_iff castPositive.ne'] at ratio
      have whole : numerator left right =
          digits.natAbs * 10 ^ (exponent - shift).toNat * denominator left right := by
        exact_mod_cast ratio
      exact ⟨_, whole.trans (mul_comm _ _)⟩
    have unrounded : quotient.value = left.value / right.value := by
      rw [value_eq_sign_mul, signs, exact divides, value_div_value left divisible]
    rw [result, value_contextRound (by rwa [unrounded]), unrounded]

/-- The relative error of a quotient. -/
theorem abs_value_div_sub_le (left : Decimal) (divisible : right.coefficient ≠ 0) :
    |(left.div right).value - left.value / right.value| ≤
      |left.value / right.value| / 10 ^ (precision - 1) := by
  by_cases zero : left.coefficient = 0
  · rw [value_div_of_zero zero, sub_self, abs_zero]
    positivity
  · rcases div_eq_contextRound zero divisible with ⟨quotient, result, signs, close, -⟩
    have castPositive : (0 : ℚ) < denominator left right := by
      exact_mod_cast denominator_pos left divisible
    have scale : (0 : ℚ) < 10 ^ (left.exponent - right.exponent - quotientShift left right) :=
      zpow_pos (by norm_num) _
    have large : (10 : ℚ) ^ precision ≤ numerator left right / denominator left right := by
      rw [le_div_iff₀ castPositive]
      exact_mod_cast pow_mul_denominator_le right zero
    have exact := value_div_value left divisible
    have rounding := abs_value_contextRound_sub_le quotient
    generalize ratioEq : (numerator left right : ℚ) / denominator left right = ratio at *
    generalize scaleEq :
      (10 : ℚ) ^ (left.exponent - right.exponent - quotientShift left right) = unit at *
    have ratioNonneg : 0 ≤ ratio := le_trans (by positivity) large
    have nonneg : 0 ≤ ratio * unit := mul_nonneg ratioNonneg scale.le
    have absolute : |left.value / right.value| = ratio * unit := by
      rw [exact, abs_mul, abs_sign, one_mul, abs_of_nonneg nonneg]
    have unrounded : |quotient.value - left.value / right.value| ≤ unit := by
      rw [value_eq_sign_mul, signs, exact, ← mul_sub, abs_mul, abs_sign, one_mul]
      exact close
    have magnitudeBound : quotient.magnitude ≤ ratio * unit + unit := by
      have upper := (abs_le.mp close).2
      linarith
    have unitBound : 10 ^ precision * unit ≤ ratio * unit :=
      mul_le_mul_of_nonneg_right large scale.le
    have triangle := abs_add_le ((contextRound quotient).value - quotient.value)
      (quotient.value - left.value / right.value)
    rw [sub_add_sub_cancel] at triangle
    rw [result, absolute, le_div_iff₀ (by norm_num)]
    rw [le_div_iff₀ (by norm_num)] at rounding
    unfold precision at rounding unitBound ⊢
    norm_num at rounding unitBound ⊢
    nlinarith

end Quotient

end RollingBudget.Decimal
