import RollingBudget.Foundation.Text

namespace RollingBudget

/-! Python's finite `Decimal`: a sign, a coefficient and an exponent. Numerically
equal decimals can differ in representation (`1.5` and `1.50`, `0` and `-0`), and
both the text of a decimal and its fixed-point form depend on the representation. -/

structure Decimal where
  negative : Bool
  coefficient : Nat
  exponent : Int
deriving DecidableEq

namespace Decimal

/-- The number a decimal denotes. -/
def value (decimal : Decimal) : ℚ :=
  (if decimal.negative then -1 else 1) * decimal.coefficient * 10 ^ decimal.exponent

/-- `Decimal(n)` for a nonnegative integer. -/
def ofNat (number : Nat) : Decimal := ⟨false, number, 0⟩

/-! ## Text -/

def signText (negative : Bool) : Text := if negative then ['-'] else []

/-- Digits before and after a decimal point that stands `dotPlace` digits into `int`. -/
def placeDot (int : Text) (dotPlace : Int) : Text × Text :=
  if dotPlace ≤ 0 then
    (['0'], List.replicate (-dotPlace).toNat '0' ++ int)
  else if (int.length : Int) ≤ dotPlace then
    (int ++ List.replicate (dotPlace - int.length).toNat '0', [])
  else
    (int.take dotPlace.toNat, int.drop dotPlace.toNat)

def dotted (fraction : Text) : Text := if fraction = [] then [] else '.' :: fraction

def exponentText (shift : Int) : Text :=
  if shift = 0 then []
  else 'E' :: (if shift < 0 then '-' else '+') :: Text.digits shift.natAbs

/-- Digits of the coefficient to the left of the decimal point. -/
def leftDigits (decimal : Decimal) : Int :=
  decimal.exponent + (Text.digits decimal.coefficient).length

/-- `Decimal.__str__` uses the scientific form for a positive exponent and for very
small numbers. -/
def dotPlace (decimal : Decimal) : Int :=
  if decimal.exponent ≤ 0 ∧ -6 < decimal.leftDigits then decimal.leftDigits else 1

/-- `str(decimal)`. -/
def str (decimal : Decimal) : Text :=
  let parts := placeDot (Text.digits decimal.coefficient) decimal.dotPlace
  signText decimal.negative ++ parts.1 ++ dotted parts.2 ++
    exponentText (decimal.leftDigits - decimal.dotPlace)

/-- `format(decimal, "f")`. -/
def formatFixed (decimal : Decimal) : Text :=
  let parts := placeDot (Text.digits decimal.coefficient) decimal.leftDigits
  signText decimal.negative ++ parts.1 ++ dotted parts.2

example : str ⟨false, 1250, -2⟩ = "12.50".toList := by decide
example : str ⟨true, 0, 3⟩ = "-0E+3".toList := by decide
example : str ⟨false, 12, -9⟩ = "1.2E-8".toList := by decide
example : formatFixed ⟨true, 0, -4⟩ = "-0.0000".toList := by decide

private theorem digits_length_pos (number : Nat) : 0 < (Text.digits number).length :=
  List.length_pos_iff.mpr (Text.digits_ne_nil number)

theorem dotPlace_le_length (decimal : Decimal) :
    decimal.dotPlace ≤ (Text.digits decimal.coefficient).length := by
  have positive := digits_length_pos decimal.coefficient
  unfold dotPlace
  split
  · next plain =>
    unfold leftDigits
    omega
  · omega

theorem isDigit_of_mem_placeDot {int : Text} (place : Int)
    (digits : ∀ character ∈ int, character.isDigit = true) :
    (∀ character ∈ (placeDot int place).1, character.isDigit = true) ∧
      ∀ character ∈ (placeDot int place).2, character.isDigit = true := by
  have zeros : ∀ count, ∀ character ∈ List.replicate count '0', character.isDigit = true := by
    intro count character member
    rw [List.eq_of_mem_replicate member]
    rfl
  unfold placeDot
  split
  · refine ⟨by simp, fun character member => ?_⟩
    rcases List.mem_append.mp member with zero | digit
    · exact zeros _ _ zero
    · exact digits character digit
  · split
    · refine ⟨fun character member => ?_, by simp⟩
      rcases List.mem_append.mp member with digit | zero
      · exact digits character digit
      · exact zeros _ _ zero
    · exact ⟨fun character member => digits character (List.mem_of_mem_take member),
        fun character member => digits character (List.mem_of_mem_drop member)⟩

theorem placeDot_fst_ne_nil {int : Text} {place : Int} (nonempty : int ≠ []) :
    (placeDot int place).1 ≠ [] := by
  have positive : 0 < int.length := List.length_pos_iff.mpr nonempty
  unfold placeDot
  split
  · simp
  · split
    · simp [nonempty]
    · intro empty
      rcases List.take_eq_nil_iff.mp empty with none | noDigits
      · omega
      · exact nonempty noDigits

/-- Moving the point inside a number adds nothing but leading zeros. -/
theorem ofDigitChars_placeDot {int : Text} {place : Int} (inside : place ≤ int.length) :
    Nat.ofDigitChars 10 ((placeDot int place).1 ++ (placeDot int place).2) 0 =
      Nat.ofDigitChars 10 int 0 := by
  unfold placeDot
  split
  · simp only [List.cons_append, List.nil_append, Nat.ofDigitChars_cons,
      Nat.ofDigitChars_append, Nat.ofDigitChars_replicate_zero]
    simp
  · split
    · next atEnd =>
      have equal : (place - int.length).toNat = 0 := by omega
      simp [equal]
    · simp

theorem length_placeDot_snd {int : Text} {place : Int} (inside : place ≤ int.length) :
    ((placeDot int place).2.length : Int) = int.length - place := by
  unfold placeDot
  split
  · simp
    omega
  · split
    · simp
      omega
    · simp
      omega

private theorem exponentText_injective : Function.Injective exponentText := by
  intro left right equal
  by_cases leftZero : left = 0 <;> by_cases rightZero : right = 0 <;>
    simp only [exponentText, leftZero, rightZero, if_true, if_false, List.cons.injEq,
      true_and, reduceCtorEq] at equal
  · rw [leftZero, rightZero]
  · have magnitudes := Text.digits_injective equal.2
    have directions := equal.1
    by_cases leftSign : left < 0 <;> by_cases rightSign : right < 0 <;>
      simp [leftSign, rightSign] at directions <;> omega

theorem exponentText_ne_dot (shift : Int) (rest : Text) :
    exponentText shift ≠ '.' :: rest := by
  unfold exponentText
  split <;> simp

/-- The parts of a written number are determined by the whole. -/
private theorem parts_injective {leftSign rightSign : Bool}
    {leftInt rightInt leftFraction rightFraction : Text} {leftShift rightShift : Int}
    (leftDigits : ∀ character ∈ leftInt, character.isDigit = true)
    (rightDigits : ∀ character ∈ rightInt, character.isDigit = true)
    (leftFractionDigits : ∀ character ∈ leftFraction, character.isDigit = true)
    (rightFractionDigits : ∀ character ∈ rightFraction, character.isDigit = true)
    (leftNonempty : leftInt ≠ []) (rightNonempty : rightInt ≠ [])
    (equal : signText leftSign ++ leftInt ++ dotted leftFraction ++ exponentText leftShift =
      signText rightSign ++ rightInt ++ dotted rightFraction ++ exponentText rightShift) :
    leftSign = rightSign ∧ leftInt = rightInt ∧ leftFraction = rightFraction ∧
      leftShift = rightShift := by
  have exponentStops : ∀ shift, Text.StopsAt Char.isDigit (exponentText shift) := by
    intro shift
    unfold exponentText
    split
    · exact Text.stopsAt_nil _
    · exact Text.stopsAt_cons _ rfl
  have fractionStops : ∀ fraction shift,
      Text.StopsAt Char.isDigit (dotted fraction ++ exponentText shift) := by
    intro fraction shift
    unfold dotted
    split
    · exact exponentStops shift
    · exact Text.stopsAt_cons _ rfl
  have minusOutside : ∀ {digits : Text}, (∀ character ∈ digits, character.isDigit = true) →
      ∀ {rest other : Text}, digits ≠ [] → digits ++ rest ≠ '-' :: other := by
    intro digits allDigits rest other nonempty heads
    cases digits with
    | nil => exact nonempty rfl
    | cons head tail =>
        simp only [List.cons_append, List.cons.injEq] at heads
        have digit := allDigits head (by simp)
        rw [heads.1] at digit
        cases digit
  simp only [List.append_assoc] at equal
  have signs : leftSign = rightSign := by
    cases leftSign <;> cases rightSign <;> simp [signText] at equal ⊢
    · exact minusOutside leftDigits leftNonempty equal
    · exact minusOutside rightDigits rightNonempty equal.symm
  subst signs
  have afterSign := List.append_cancel_left equal
  rcases Text.append_eq_append_of_stopsAt leftDigits rightDigits
    (fractionStops _ _) (fractionStops _ _) afterSign with ⟨ints, afterInt⟩
  have fractions : leftFraction = rightFraction ∧
      exponentText leftShift = exponentText rightShift := by
    unfold dotted at afterInt
    by_cases leftEmpty : leftFraction = [] <;> by_cases rightEmpty : rightFraction = [] <;>
      simp only [leftEmpty, rightEmpty, if_true, if_false, List.nil_append,
        List.cons_append] at afterInt
    · exact ⟨leftEmpty.trans rightEmpty.symm, afterInt⟩
    · exact absurd afterInt (exponentText_ne_dot _ _)
    · exact absurd afterInt.symm (exponentText_ne_dot _ _)
    · exact Text.append_eq_append_of_stopsAt leftFractionDigits rightFractionDigits
        (exponentStops _) (exponentStops _) (List.cons.inj afterInt).2
  exact ⟨rfl, ints, fractions.1, exponentText_injective fractions.2⟩

/-- The text of a decimal determines its sign, coefficient and exponent. -/
theorem str_injective : Function.Injective str := by
  intro left right equal
  have leftInside := left.dotPlace_le_length
  have rightInside := right.dotPlace_le_length
  have leftParts := isDigit_of_mem_placeDot left.dotPlace
    (Text.forall_mem_digits left.coefficient)
  have rightParts := isDigit_of_mem_placeDot right.dotPlace
    (Text.forall_mem_digits right.coefficient)
  rcases parts_injective leftParts.1 rightParts.1 leftParts.2 rightParts.2
    (placeDot_fst_ne_nil (Text.digits_ne_nil _)) (placeDot_fst_ne_nil (Text.digits_ne_nil _))
    equal with ⟨signs, ints, fractions, shifts⟩
  have coefficients : left.coefficient = right.coefficient := by
    have leftRead := ofDigitChars_placeDot leftInside
    have rightRead := ofDigitChars_placeDot rightInside
    rw [ints, fractions, rightRead] at leftRead
    simpa [Text.digits] using leftRead.symm
  have exponents : left.exponent = right.exponent := by
    have leftLength := length_placeDot_snd leftInside
    have rightLength := length_placeDot_snd rightInside
    rw [fractions] at leftLength
    unfold leftDigits at shifts
    omega
  cases left
  cases right
  simp_all

/-! ## Rounding to a fixed number of places -/

/-- Integer division rounded half to even. -/
def roundHalfEven (number divisor : Nat) : Nat :=
  let quotient := number / divisor
  let remainder := number % divisor
  if 2 * remainder < divisor ∨ (2 * remainder = divisor ∧ quotient % 2 = 0) then quotient
  else quotient + 1

/-- `decimal.quantize(Decimal(1).scaleb(-places))` under the default rounding. -/
def quantize (places : Nat) (decimal : Decimal) : Decimal :=
  { negative := decimal.negative
    coefficient :=
      if -(places : Int) ≤ decimal.exponent then
        decimal.coefficient * 10 ^ (decimal.exponent + places).toNat
      else
        roundHalfEven decimal.coefficient (10 ^ (-(places : Int) - decimal.exponent).toNat)
    exponent := -(places : Int) }

/-- A decimal whose value has at most `places` fractional digits, in whatever
representation. -/
def FitsPlaces (places : Nat) (decimal : Decimal) : Prop :=
  -(places : Int) ≤ decimal.exponent ∨
    10 ^ (-(places : Int) - decimal.exponent).toNat ∣ decimal.coefficient

instance (places : Nat) (decimal : Decimal) : Decidable (FitsPlaces places decimal) :=
  inferInstanceAs (Decidable (_ ∨ _))

theorem roundHalfEven_of_dvd {number divisor : Nat} (positive : 0 < divisor)
    (divides : divisor ∣ number) : roundHalfEven number divisor = number / divisor := by
  have noRemainder : number % divisor = 0 := Nat.mod_eq_zero_of_dvd divides
  simp [roundHalfEven, noRemainder, positive]

/-- Quantizing a number that fits does not round it. -/
theorem value_quantize {places : Nat} {decimal : Decimal} (fits : FitsPlaces places decimal) :
    (quantize places decimal).value = decimal.value := by
  have ten : (10 : ℚ) ≠ 0 := by norm_num
  unfold quantize value
  dsimp only
  rw [mul_assoc, mul_assoc]
  congr 1
  split
  · next wide =>
    have split : decimal.exponent =
        ((decimal.exponent + places).toNat : Int) + -(places : Int) := by omega
    push_cast
    rw [mul_assoc, ← zpow_natCast, ← zpow_add₀ ten, ← split]
  · next narrow =>
    have divides := fits.resolve_left narrow
    rw [roundHalfEven_of_dvd (Nat.pow_pos (by decide)) divides]
    rcases divides with ⟨quotient, factored⟩
    have shifted : ((-(places : Int) - decimal.exponent).toNat : Int) + decimal.exponent =
        -(places : Int) := by omega
    rw [factored, Nat.mul_div_cancel_left _ (Nat.pow_pos (by decide))]
    push_cast
    rw [mul_comm ((10 : ℚ) ^ _), mul_assoc, ← zpow_natCast, ← zpow_add₀ ten, shifted]

theorem quantize_quantize (places : Nat) (decimal : Decimal) :
    quantize places (quantize places decimal) = quantize places decimal := by
  simp [quantize]

/-- Fixed-point texts of quantized decimals agree only for equal signs and coefficients. -/
theorem formatFixed_quantize_eq_iff (places : Nat) (left right : Decimal) :
    formatFixed (quantize places left) = formatFixed (quantize places right) ↔
      quantize places left = quantize places right := by
  refine ⟨fun equal => ?_, fun equal => by rw [equal]⟩
  have inside : ∀ decimal : Decimal, (quantize places decimal).leftDigits ≤
      (Text.digits (quantize places decimal).coefficient).length := by
    intro decimal
    unfold leftDigits
    have nonpositive : (quantize places decimal).exponent ≤ 0 := by simp [quantize]
    omega
  have leftParts := isDigit_of_mem_placeDot (quantize places left).leftDigits
    (Text.forall_mem_digits (quantize places left).coefficient)
  have rightParts := isDigit_of_mem_placeDot (quantize places right).leftDigits
    (Text.forall_mem_digits (quantize places right).coefficient)
  have padded : formatFixed (quantize places left) ++ exponentText 0 =
      formatFixed (quantize places right) ++ exponentText 0 := by rw [equal]
  rcases parts_injective leftParts.1 rightParts.1 leftParts.2 rightParts.2
    (placeDot_fst_ne_nil (Text.digits_ne_nil _)) (placeDot_fst_ne_nil (Text.digits_ne_nil _))
    padded with ⟨signs, ints, fractions, _⟩
  have leftRead := ofDigitChars_placeDot (inside left)
  have rightRead := ofDigitChars_placeDot (inside right)
  rw [ints, fractions, rightRead] at leftRead
  have coefficients : (quantize places left).coefficient =
      (quantize places right).coefficient := by
    simpa [Text.digits] using leftRead.symm
  have exponents : (quantize places left).exponent = (quantize places right).exponent := rfl
  exact (Decimal.mk.injEq ..).mpr ⟨signs, coefficients, exponents⟩

/-! ## Scaled integers -/

/-- The integer count of units `10 ^ -places` that a decimal rounds to. -/
def toScaled (places : Nat) (decimal : Decimal) : Int :=
  let quantized := quantize places decimal
  if quantized.negative then -(quantized.coefficient : Int) else quantized.coefficient

/-- Drop trailing zeros of a coefficient while its scale is positive. -/
def reduceScale : Nat → Nat → Nat × Nat
  | 0, coefficient => (coefficient, 0)
  | places + 1, coefficient =>
      if coefficient % 10 = 0 then reduceScale places (coefficient / 10)
      else (coefficient, places + 1)

/-- `Decimal(units) / 10 ** places`: an exact quotient whose exponent is as close to
zero as the digits allow. -/
def ofScaled (places : Nat) (units : Int) : Decimal :=
  let reduced := reduceScale places units.natAbs
  ⟨decide (units < 0), reduced.1, -(reduced.2 : Int)⟩

example : ofScaled 4 7500000 = ⟨false, 750, 0⟩ := by decide
example : ofScaled 4 12500 = ⟨false, 125, -2⟩ := by decide

private theorem reduceScale_spec (places coefficient : Nat) :
    (reduceScale places coefficient).2 ≤ places ∧
      coefficient = (reduceScale places coefficient).1 *
        10 ^ (places - (reduceScale places coefficient).2) := by
  induction places generalizing coefficient with
  | zero => simp [reduceScale]
  | succ places induction =>
      unfold reduceScale
      split
      · next zero =>
        rcases induction (coefficient / 10) with ⟨bound, factored⟩
        refine ⟨by omega, ?_⟩
        have shift : places + 1 - (reduceScale places (coefficient / 10)).2 =
            places - (reduceScale places (coefficient / 10)).2 + 1 := by omega
        rw [shift, pow_succ, ← mul_assoc, ← factored]
        omega
      · simp

theorem quantize_ofScaled_coefficient (places units : Nat) :
    (quantize places (ofScaled places units)).coefficient = units := by
  rcases reduceScale_spec places units with ⟨bound, factored⟩
  have wide : -(places : Int) ≤ -((reduceScale places units).2 : Int) := by omega
  have shift : (-((reduceScale places units).2 : Int) + places).toNat =
      places - (reduceScale places units).2 := by omega
  simp only [quantize, ofScaled, Int.natAbs_natCast, if_pos wide, shift]
  exact factored.symm

theorem fitsPlaces_ofScaled (places units : Nat) : FitsPlaces places (ofScaled places units) := by
  rcases reduceScale_spec places units with ⟨bound, _⟩
  left
  simp only [ofScaled, Int.natAbs_natCast]
  omega

end Decimal

end RollingBudget
