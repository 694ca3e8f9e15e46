import Mathlib

namespace RollingBudget

/-! Python strings as lists of code points. The order on texts is the
lexicographic order of code points, which is how Python compares strings. -/

abbrev Text := List Char

instance : LawfulBEq Text := inferInstance

namespace Text

/-! ## Decimal digits -/

/-- The decimal digits of a natural number, as `str` prints them. -/
def digits (number : Nat) : Text := Nat.toDigits 10 number

theorem isDigit_of_mem_digits {number : Nat} {character : Char}
    (member : character ∈ digits number) : character.isDigit = true :=
  Nat.isDigit_of_mem_toDigits (by decide) (by decide) member

theorem forall_mem_digits (number : Nat) :
    ∀ character ∈ digits number, character.isDigit = true :=
  fun _ member => isDigit_of_mem_digits member

theorem digits_injective : Function.Injective digits := by
  intro left right equal
  have parsed := congrArg (fun text => Nat.ofDigitChars 10 text 0) equal
  simpa [digits] using parsed

theorem digits_ne_nil (number : Nat) : digits number ≠ [] := by
  unfold digits
  rw [Nat.toDigits_eq_if (by decide)]
  split <;> simp

/-- Pad with zeros on the left up to a width, as a format such as `%04d` does. -/
def zeroPad (width : Nat) (text : Text) : Text :=
  List.replicate (width - text.length) '0' ++ text

theorem zeroPad_digits_injective (width : Nat) :
    Function.Injective fun number => zeroPad width (digits number) := by
  intro left right equal
  have parsed := congrArg (fun text => Nat.ofDigitChars 10 text 0) equal
  simpa [digits, zeroPad, Nat.ofDigitChars_append] using parsed

theorem isDigit_of_mem_zeroPad_digits {width number : Nat} {character : Char}
    (member : character ∈ zeroPad width (digits number)) :
    character.isDigit = true := by
  rcases List.mem_append.mp member with zero | digit
  · rw [List.eq_of_mem_replicate zero]
    rfl
  · exact isDigit_of_mem_digits digit

/-! ## Splitting at the first character outside a class -/

/-- A text does not begin with a character of the class. -/
def StopsAt (inClass : Char → Bool) (rest : Text) : Prop :=
  ∀ character tail, rest = character :: tail → inClass character = false

theorem stopsAt_nil (inClass : Char → Bool) : StopsAt inClass [] := by
  intro character tail equal
  cases equal

theorem stopsAt_cons {inClass : Char → Bool} {character : Char} (tail : Text)
    (outside : inClass character = false) : StopsAt inClass (character :: tail) := by
  intro head rest equal
  cases equal
  exact outside

/-- A run of class characters and the remainder after it are determined by
their concatenation. -/
theorem append_eq_append_of_stopsAt {inClass : Char → Bool}
    {left right leftRest rightRest : Text}
    (leftClass : ∀ character ∈ left, inClass character = true)
    (rightClass : ∀ character ∈ right, inClass character = true)
    (leftStops : StopsAt inClass leftRest) (rightStops : StopsAt inClass rightRest)
    (equal : left ++ leftRest = right ++ rightRest) :
    left = right ∧ leftRest = rightRest := by
  induction left generalizing right with
  | nil =>
      cases right with
      | nil => exact ⟨rfl, equal⟩
      | cons head tail =>
          have stopped := leftStops head (tail ++ rightRest) equal
          rw [rightClass head (by simp)] at stopped
          cases stopped
  | cons head tail induction =>
      cases right with
      | nil =>
          have stopped := rightStops head (tail ++ leftRest) equal.symm
          rw [leftClass head (by simp)] at stopped
          cases stopped
      | cons other rest =>
          simp only [List.cons_append, List.cons.injEq] at equal
          rcases induction (fun character member => leftClass character (by simp [member]))
            (fun character member => rightClass character (by simp [member]))
            equal.2 with ⟨tails, rests⟩
          exact ⟨by rw [equal.1, tails], rests⟩

/-! ## Stripping and lengths -/

/-- `str.strip` with a set of characters: both ends lose every such character. -/
def stripChars (drop : Char → Bool) (text : Text) : Text :=
  ((text.dropWhile drop).reverse.dropWhile drop).reverse

/-- The characters with the Unicode property White_Space. -/
def isWhitespace (character : Char) : Bool :=
  let code := character.toNat
  (9 ≤ code && code ≤ 13) || code == 0x20 || code == 0x85 || code == 0xA0 ||
    code == 0x1680 || (0x2000 ≤ code && code ≤ 0x200A) || code == 0x2028 ||
    code == 0x2029 || code == 0x202F || code == 0x205F || code == 0x3000

/-- `str.isspace`, which goes beyond the Unicode property by four control characters. -/
def isSpace (character : Char) : Bool :=
  isWhitespace character || (0x1C ≤ character.toNat && character.toNat ≤ 0x1F)

/-- The effect of `str_strip_whitespace` on a string field. -/
def stripWhitespace (text : Text) : Text := stripChars isWhitespace text

/-- `text.strip('"')`. -/
def stripQuotes (text : Text) : Text := stripChars (· == '"') text

/-- The number of bytes of the UTF-8 encoding. -/
def utf8Length (text : Text) : Nat := (text.map Char.utf8Size).sum

end Text

end RollingBudget
