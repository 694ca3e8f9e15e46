import RollingBudget.Foundation.Decimal

namespace RollingBudget.Decimal

/-! Arithmetic in Python's default decimal context: 28 significant digits, rounded half
to even. -/

def precision : Nat := 28

/-- Round a result to the precision of the context. -/
def contextRound (decimal : Decimal) : Decimal :=
  let excess := (Text.digits decimal.coefficient).length - precision
  if excess = 0 then decimal
  else
    let rounded := roundHalfEven decimal.coefficient (10 ^ excess)
    if rounded = 10 ^ precision then
      ⟨decimal.negative, 10 ^ (precision - 1), decimal.exponent + excess + 1⟩
    else ⟨decimal.negative, rounded, decimal.exponent + excess⟩

/-- The signed coefficient at an exponent not above the decimal's own. -/
def scaledTo (exponent : Int) (decimal : Decimal) : Int :=
  (if decimal.negative then -1 else 1) *
    (decimal.coefficient * 10 ^ (decimal.exponent - exponent).toNat : Nat)

/-- `left + right` -/
def add (left right : Decimal) : Decimal :=
  let exponent := min left.exponent right.exponent
  let sum := left.scaledTo exponent + right.scaledTo exponent
  contextRound {
    negative := sum < 0 ∨ (sum = 0 ∧ left.negative = true ∧ right.negative = true)
    coefficient := sum.natAbs
    exponent := exponent }

/-- `-decimal`, before rounding. -/
def negated (decimal : Decimal) : Decimal := { decimal with negative := !decimal.negative }

/-- `left - right` -/
def sub (left right : Decimal) : Decimal := left.add right.negated

/-- `left * right` -/
def mul (left right : Decimal) : Decimal :=
  contextRound {
    negative := left.negative != right.negative
    coefficient := left.coefficient * right.coefficient
    exponent := left.exponent + right.exponent }

/-- `decimal.quantize(quantum)` for a power of ten not above one; `none` stands for
`InvalidOperation`, which more digits than the context holds raise. -/
def quantizeLike (quantum decimal : Decimal) : Option Decimal :=
  let rescaled := decimal.quantize (-quantum.exponent).toNat
  if (Text.digits rescaled.coefficient).length ≤ precision then some rescaled else none

/-- `int(decimal)` truncates towards zero. -/
def truncate (decimal : Decimal) : Int :=
  (if decimal.negative then -1 else 1) *
    (decimal.coefficient * 10 ^ decimal.exponent.toNat / 10 ^ (-decimal.exponent).toNat : Nat)

/-- `left < right` -/
def less (left right : Decimal) : Bool :=
  let exponent := min left.exponent right.exponent
  left.scaledTo exponent < right.scaledTo exponent

/-- `left == right` -/
def equal (left right : Decimal) : Bool :=
  let exponent := min left.exponent right.exponent
  left.scaledTo exponent = right.scaledTo exponent

/-- `decimal.to_integral_value()` -/
def toIntegralValue (decimal : Decimal) : Decimal :=
  if 0 ≤ decimal.exponent then decimal else decimal.quantize 0

/-- `sum(decimals, Decimal("0"))` -/
def sum (decimals : List Decimal) : Decimal := decimals.foldl add (ofNat 0)

/-- `max(left, right)` keeps the first argument of two equal ones. -/
def max (left right : Decimal) : Decimal := if left.less right then right else left

/-- Drop trailing zeros while the exponent stays below the ideal one. -/
def dropZeros : Nat → Nat → Nat
  | 0, coefficient => coefficient
  | count + 1, coefficient =>
      if coefficient % 10 = 0 then dropZeros count (coefficient / 10) else coefficient

/-- How many zeros `dropZeros` drops. -/
def droppedZeros : Nat → Nat → Nat
  | 0, _ => 0
  | count + 1, coefficient =>
      if coefficient % 10 = 0 then droppedZeros count (coefficient / 10) + 1 else 0

/-- `left / right` for a nonzero divisor. A quotient that is not exact carries a sticky
last digit into the rounding. -/
def div (left right : Decimal) : Decimal :=
  let negative := left.negative != right.negative
  let ideal := left.exponent - right.exponent
  if left.coefficient = 0 then ⟨negative, 0, ideal⟩
  else
    let shift : Int := (Text.digits right.coefficient).length -
      (Text.digits left.coefficient).length + precision + 1
    let numerator := left.coefficient * 10 ^ shift.toNat
    let denominator := right.coefficient * 10 ^ (-shift).toNat
    let quotient := numerator / denominator
    if numerator % denominator = 0 then
      let room := shift.toNat
      contextRound ⟨negative, dropZeros room quotient,
        ideal - shift + droppedZeros room quotient⟩
    else
      contextRound ⟨negative, if quotient % 5 = 0 then quotient + 1 else quotient, ideal - shift⟩

example : add ⟨false, 1250, -2⟩ ⟨false, 5, -1⟩ = ⟨false, 1300, -2⟩ := by decide +kernel
example : sub ⟨false, 5, 0⟩ ⟨false, 500, -2⟩ = ⟨false, 0, -2⟩ := by decide +kernel
example : div ⟨false, 80, 0⟩ ⟨false, 100, 0⟩ = ⟨false, 8, -1⟩ := by decide +kernel
example : div ⟨false, 2, 0⟩ ⟨false, 3, 0⟩ =
    ⟨false, 6666666666666666666666666667, -28⟩ := by decide +kernel

end RollingBudget.Decimal
