import RollingBudget.Foundation.DecimalContext
import RollingBudget.Foundation.JsonReader

namespace RollingBudget.Decimal

/-! `Decimal(text)`, the constructor. It takes surrounding whitespace, underscores, decimal
digits of any script, infinities and NaNs, and it reads back what `str` writes. -/

/-- A number of the `decimal` module. -/
inductive Number where
  | finite (value : Decimal)
  | infinite (negative : Bool)
  | nan (signaling : Bool)
deriving DecidableEq

/-- The exponents that a number can have without being rounded. -/
def Representable (decimal : Decimal) : Prop :=
  -1999999999999999997 ≤ decimal.exponent ∧ decimal.leftDigits ≤ 1000000000000000000

instance (decimal : Decimal) : Decidable decimal.Representable :=
  inferInstanceAs (Decidable (_ ∧ _))

/-- The ASCII form of a text. `decimalDigit` is the decimal value of a character, where the
Unicode database has one. -/
def asciiForm (decimalDigit : Char → Option Nat) (text : Text) : Option Text :=
  ((Text.stripChars Text.isSpace text).filter (· ≠ '_')).mapM fun character =>
    if character.toNat < 128 then some character
    else (decimalDigit character).map fun digit => Char.ofNat (48 + digit)

/-- `([eE][-+]?[0-9]+)?` up to the end. -/
def readExponent : Text → Option Int
  | [] => some 0
  | marker :: rest =>
      let (sign, digits) := JsonReader.readSign rest
      let magnitude : Int := Nat.ofDigitChars 10 digits 0
      if (marker = 'e' ∨ marker = 'E') ∧ digits ≠ [] ∧ digits.all Char.isDigit then
        some (if sign = ['-'] then -magnitude else magnitude)
      else none

/-- Digits around an optional point, and an exponent. -/
def readFinite (negative : Bool) (text : Text) : Option Decimal :=
  let int := text.takeWhile Char.isDigit
  let (fraction, rest) := match text.dropWhile Char.isDigit with
    | '.' :: rest => (rest.takeWhile Char.isDigit, rest.dropWhile Char.isDigit)
    | rest => ([], rest)
  if int ++ fraction = [] then none
  else (readExponent rest).map fun exponent =>
    ⟨negative, Nat.ofDigitChars 10 (int ++ fraction) 0, exponent - fraction.length⟩

def readNumber (text : Text) : Option Number :=
  let (sign, body) := JsonReader.readSign text
  let negative := decide (sign = ['-'])
  let word := body.map Char.toLower
  if word = "inf".toList ∨ word = "infinity".toList then some (.infinite negative)
  else if word.take 3 = "nan".toList ∧ (word.drop 3).all Char.isDigit then some (.nan false)
  else if word.take 4 = "snan".toList ∧ (word.drop 4).all Char.isDigit then some (.nan true)
  else ((readFinite negative body).filter fun value => value.Representable).map .finite

/-- `Decimal(text)`, where `none` stands for `InvalidOperation`. -/
def ofText (decimalDigit : Char → Option Nat) (text : Text) : Option Number :=
  (asciiForm decimalDigit text).bind readNumber

example : ofText (fun _ => none) " -1_2.50e+1 ".toList = some (.finite ⟨true, 1250, -1⟩) := by
  decide +kernel

/-! ## Reading back -/

/-- A character that stays as it is: no space, no underscore, and ASCII. -/
def IsPlain (character : Char) : Prop :=
  Text.isSpace character = false ∧ character ≠ '_' ∧ character.toNat < 128

theorem isPlain_of_isDigit {character : Char} (digit : character.isDigit = true) :
    IsPlain character := by
  have range : 48 ≤ character.toNat ∧ character.toNat ≤ 57 := by
    rw [Char.isDigit, Bool.and_eq_true, decide_eq_true_iff, decide_eq_true_iff] at digit
    exact digit
  refine ⟨?_, ?_, by omega⟩
  · unfold Text.isSpace Text.isWhitespace
    simp only [Bool.or_eq_false_iff, Bool.and_eq_false_iff, decide_eq_false_iff_not,
      beq_eq_false_iff_ne]
    omega
  · rintro rfl
    cases digit

theorem asciiForm_eq (decimalDigit : Char → Option Nat) {text : Text}
    (plain : ∀ character ∈ text, IsPlain character) : asciiForm decimalDigit text = some text := by
  have kept : ∀ part : Text, (∀ character ∈ part, IsPlain character) →
      part.dropWhile Text.isSpace = part := by
    intro part plain
    cases part with
    | nil => rfl
    | cons head tail =>
        rw [List.dropWhile_cons_of_neg]
        simp [(plain head List.mem_cons_self).1]
  have stripped : Text.stripChars Text.isSpace text = text := by
    unfold Text.stripChars
    rw [kept text plain, kept text.reverse fun character member =>
      plain character (List.mem_reverse.mp member), List.reverse_reverse]
  have unfiltered : text.filter (· ≠ '_') = text :=
    List.filter_eq_self.mpr fun character member => decide_eq_true (plain character member).2.1
  unfold asciiForm
  rw [stripped, unfiltered]
  clear stripped unfiltered
  induction text with
  | nil => rfl
  | cons head tail induction =>
      rcases List.forall_mem_cons.mp plain with ⟨headPlain, tailPlain⟩
      rw [List.mapM_cons, if_pos headPlain.2.2, induction tailPlain]
      rfl

theorem isPlain_of_mem_str {decimal : Decimal} {character : Char}
    (member : character ∈ decimal.str) : IsPlain character := by
  have parts := isDigit_of_mem_placeDot decimal.dotPlace
    (Text.forall_mem_digits decimal.coefficient)
  have marks : ∀ mark ∈ ['-', '.', 'E', '+'], IsPlain mark := by
    intro mark member
    simp only [List.mem_cons, List.not_mem_nil, or_false] at member
    rcases member with rfl | rfl | rfl | rfl <;> exact ⟨rfl, by decide, by decide⟩
  unfold str at member
  rcases List.mem_append.mp member with member | exponent
  · rcases List.mem_append.mp member with member | fraction
    · rcases List.mem_append.mp member with sign | int
      · unfold signText at sign
        split at sign
        · exact marks character (by simp_all)
        · cases sign
      · exact isPlain_of_isDigit (parts.1 character int)
    · unfold dotted at fraction
      split at fraction
      · cases fraction
      · rcases List.mem_cons.mp fraction with rfl | digit
        · exact marks _ (by decide)
        · exact isPlain_of_isDigit (parts.2 character digit)
  · unfold exponentText at exponent
    split at exponent
    · cases exponent
    · rcases List.mem_cons.mp exponent with rfl | exponent
      · exact marks _ (by decide)
      · rcases List.mem_cons.mp exponent with rfl | digit
        · split <;> exact marks _ (by decide)
        · exact isPlain_of_isDigit (Text.isDigit_of_mem_digits digit)

theorem readExponent_exponentText (shift : Int) : readExponent (exponentText shift) = some shift := by
  unfold exponentText
  by_cases zero : shift = 0
  · rw [if_pos zero, zero]
    rfl
  · have value : Nat.ofDigitChars 10 (Text.digits shift.natAbs) 0 = shift.natAbs := by
      simp [Text.digits]
    have allDigits : (Text.digits shift.natAbs).all Char.isDigit = true :=
      List.all_eq_true.mpr (Text.forall_mem_digits _)
    have nonempty := Text.digits_ne_nil shift.natAbs
    rw [if_neg zero]
    by_cases negative : shift < 0
    · rw [if_pos negative]
      unfold readExponent JsonReader.readSign
      simp only [allDigits, nonempty, ne_eq, not_false_eq_true, and_self, or_true, if_true, value]
      congr 1
      omega
    · rw [if_neg negative]
      unfold readExponent JsonReader.readSign
      simp only [allDigits, nonempty, ne_eq, not_false_eq_true, and_self, or_true, if_true, value]
      rw [if_neg (by decide)]
      congr 1
      omega

theorem readFinite_written (negative : Bool) {int fraction : Text} (shift : Int)
    (intDigits : ∀ character ∈ int, character.isDigit = true)
    (fractionDigits : ∀ character ∈ fraction, character.isDigit = true) (nonempty : int ≠ []) :
    readFinite negative (int ++ (dotted fraction ++ exponentText shift)) =
      some ⟨negative, Nat.ofDigitChars 10 (int ++ fraction) 0, shift - fraction.length⟩ := by
  have exponentStops : (exponentText shift).takeWhile Char.isDigit = [] ∧
      (exponentText shift).dropWhile Char.isDigit = exponentText shift := by
    unfold exponentText
    split <;> exact ⟨rfl, rfl⟩
  have restStops : (dotted fraction ++ exponentText shift).takeWhile Char.isDigit = [] ∧
      (dotted fraction ++ exponentText shift).dropWhile Char.isDigit =
        dotted fraction ++ exponentText shift := by
    unfold dotted
    split
    · exact exponentStops
    · exact ⟨rfl, rfl⟩
  unfold readFinite
  simp only [List.takeWhile_append_of_pos intDigits, List.dropWhile_append_of_pos intDigits,
    restStops.1, restStops.2, List.append_nil]
  by_cases noFraction : fraction = []
  · have read := readExponent_exponentText shift
    have shape : exponentText shift = [] ∨ ∃ tail, exponentText shift = 'E' :: tail := by
      unfold exponentText
      split
      · exact Or.inl rfl
      · exact Or.inr ⟨_, rfl⟩
    simp only [noFraction, dotted, if_true, List.nil_append, List.append_nil]
    rcases shape with equal | ⟨tail, equal⟩
    · rw [equal] at read ⊢
      simp [nonempty, read]
    · rw [equal] at read ⊢
      simp [nonempty, read]
  · simp only [dotted, noFraction, if_false, List.cons_append,
      List.takeWhile_append_of_pos fractionDigits, List.dropWhile_append_of_pos fractionDigits,
      exponentStops.1, exponentStops.2, List.append_nil, readExponent_exponentText]
    simp [nonempty]

theorem toLower_of_isDigit {character : Char} (digit : character.isDigit = true) :
    character.toLower = character := by
  apply Char.toLower_eq_of_not_isUpper
  intro upper
  simp only [Char.isDigit, Char.isUpper, Bool.and_eq_true, decide_eq_true_eq,
    UInt32.le_iff_toNat_le] at digit upper
  exact absurd (upper.1.trans digit.2) (by decide)

/-- A number that begins with a digit is none of the words. -/
theorem readNumber_written {negative : Bool} {int rest : Text}
    (intDigits : ∀ character ∈ int, character.isDigit = true) (nonempty : int ≠ []) :
    readNumber (signText negative ++ (int ++ rest)) =
      ((readFinite negative (int ++ rest)).filter fun value => value.Representable).map
        .finite := by
  cases int with
  | nil => exact absurd rfl nonempty
  | cons head tail =>
      have digit := intDigits head List.mem_cons_self
      have lower := toLower_of_isDigit digit
      have outside : ∀ letter : Char, letter.isDigit = false → ∀ letters rest,
          head :: letters ≠ letter :: rest := by
        intro letter other letters rest equal
        rw [(List.cons.inj equal).1, other] at digit
        cases digit
      have signRead : JsonReader.readSign (signText negative ++ (head :: (tail ++ rest))) =
          (signText negative, head :: (tail ++ rest)) := by
        cases negative with
        | true => rfl
        | false =>
            simp only [signText, Bool.false_eq_true, if_false, List.nil_append]
            unfold JsonReader.readSign
            split
            · next equal => exact absurd equal (outside '+' rfl _ _)
            · next equal => exact absurd equal (outside '-' rfl _ _)
            · rfl
      have sign : decide (signText negative = ['-']) = negative := by
        cases negative <;> rfl
      unfold readNumber
      rw [List.cons_append, signRead]
      have notI := outside 'i' rfl
      have notN := outside 'n' rfl
      have notS := outside 's' rfl
      simp only [sign, List.map_cons, lower]
      simp [notI, notN, notS]

/-- The constructor reads back what `str` writes. -/
theorem ofText_str (decimalDigit : Char → Option Nat) (decimal : Decimal) :
    ofText decimalDigit decimal.str =
      if decimal.Representable then some (.finite decimal) else none := by
  have parts := isDigit_of_mem_placeDot decimal.dotPlace
    (Text.forall_mem_digits decimal.coefficient)
  have nonempty := @placeDot_fst_ne_nil _ decimal.dotPlace (Text.digits_ne_nil decimal.coefficient)
  have inside := decimal.dotPlace_le_length
  have coefficient : Nat.ofDigitChars 10 ((placeDot (Text.digits decimal.coefficient)
      decimal.dotPlace).1 ++ (placeDot (Text.digits decimal.coefficient) decimal.dotPlace).2) 0 =
        decimal.coefficient := by
    rw [ofDigitChars_placeDot inside]
    simp [Text.digits]
  have exponent : decimal.leftDigits - decimal.dotPlace -
      ((placeDot (Text.digits decimal.coefficient) decimal.dotPlace).2.length : Int) =
        decimal.exponent := by
    rw [length_placeDot_snd inside]
    unfold leftDigits
    omega
  have read := readFinite_written decimal.negative (decimal.leftDigits - decimal.dotPlace)
    parts.1 parts.2 nonempty
  rw [coefficient, exponent] at read
  unfold ofText
  rw [asciiForm_eq decimalDigit fun character => isPlain_of_mem_str, Option.bind_some]
  have written : decimal.str = signText decimal.negative ++
      ((placeDot (Text.digits decimal.coefficient) decimal.dotPlace).1 ++
        (dotted (placeDot (Text.digits decimal.coefficient) decimal.dotPlace).2 ++
          exponentText (decimal.leftDigits - decimal.dotPlace))) := by
    simp [str]
  rw [written]
  rw [readNumber_written parts.1 nonempty, read]
  by_cases representable : decimal.Representable <;> simp [representable]

end RollingBudget.Decimal
