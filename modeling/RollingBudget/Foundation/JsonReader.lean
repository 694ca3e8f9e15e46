import RollingBudget.Foundation.Json

namespace RollingBudget

open Sorting

/-! `json.dumps` as it writes by default, in ASCII, and `json.loads`. A text is read
back as the value that was written, with its keys in order. -/

/-- A `str` that `json.loads` makes. An escape can leave half a surrogate pair in it, and then
it is no Unicode text. -/
inductive JsonString where
  | text (value : Text)
  | unpaired (codePoints : List Nat)
deriving DecidableEq

instance : Coe Text JsonString := ⟨.text⟩

/-- What `json.loads` returns. A number with a fraction or an exponent keeps its text; a string
with half a surrogate pair is `unpaired`. -/
inductive JsonValue where
  | null
  | bool (value : Bool)
  | int (value : Int)
  | float (literal : Text)
  | str (value : Text)
  | unpaired (codePoints : List Nat)
  | arr (items : List JsonValue)
  | obj (fields : List (JsonString × JsonValue))

namespace Json

/-! ## The ASCII writer -/

/-- A code unit as `\u` and four hexadecimal digits. -/
def unicodeEscape (unit : Nat) : Text :=
  ['\\', 'u', hexDigit (unit / 4096), hexDigit (unit / 256 % 16), hexDigit (unit / 16 % 16),
    hexDigit (unit % 16)]

/-- What `ensure_ascii` makes of a character: those past `~` are escaped, in two code
units when one is not enough. -/
def asciiChar (character : Char) : Text :=
  if character.toNat < 127 then [character]
  else if character.toNat < 0x10000 then unicodeEscape character.toNat
  else
    unicodeEscape ((character.toNat - 0x10000) / 1024 + 0xD800) ++
      unicodeEscape ((character.toNat - 0x10000) % 1024 + 0xDC00)

def asciiText (text : Text) : Text := text.flatMap asciiChar

/-- `json.dumps(value, separators=(",", ":"), sort_keys=True)`. Outside of strings there
are ASCII characters only. -/
def dumpsAscii (value : Json) : Text := asciiText (dumps value)

end Json

namespace JsonReader

/-! ## Strings -/

/-- The character of a code point that is not half a surrogate pair. -/
def scalar (codePoint : Nat) : Option Char :=
  if codePoint < 0xD800 ∨ (0xDFFF < codePoint ∧ codePoint < 0x110000) then
    some (Char.ofNat codePoint)
  else none

/-- The string of these code points. -/
def stringOf (codePoints : List Nat) : JsonString :=
  match codePoints.mapM scalar with
  | some value => .text value
  | none => .unpaired codePoints

def stringValue : JsonString → JsonValue
  | .text value => .str value
  | .unpaired codePoints => .unpaired codePoints

def hexValue (digit : Char) : Option Nat :=
  if digit.isDigit then some (digit.toNat - 48)
  else if 'a' ≤ digit ∧ digit ≤ 'f' then some (digit.toNat - 87)
  else if 'A' ≤ digit ∧ digit ≤ 'F' then some (digit.toNat - 55)
  else none

/-- The code unit after `\u`. -/
def readUnit : Text → Option (Nat × Text)
  | '\\' :: 'u' :: first :: second :: third :: fourth :: rest => do
      let first ← hexValue first
      let second ← hexValue second
      let third ← hexValue third
      let fourth ← hexValue fourth
      some (first * 4096 + second * 256 + third * 16 + fourth, rest)
  | _ => none

/-- The code point of one code unit, or of a pair of surrogates. A surrogate that is not
followed by its other half stands for itself. -/
def readUnicode (text : Text) : Option (Nat × Text) := do
  let (unit, rest) ← readUnit text
  match readUnit rest with
  | none => some (unit, rest)
  | some (low, after) =>
      if 0xD800 ≤ unit ∧ unit ≤ 0xDBFF ∧ 0xDC00 ≤ low ∧ low ≤ 0xDFFF then
        some ((unit - 0xD800) * 1024 + (low - 0xDC00) + 0x10000, after)
      else some (unit, rest)

/-- One code point of a string, as `scanstring` reads it when it is strict. -/
def readChar : Text → Option (Nat × Text)
  | '\\' :: 'u' :: rest => readUnicode ('\\' :: 'u' :: rest)
  | '\\' :: '"' :: rest => some ('"'.toNat, rest)
  | '\\' :: '\\' :: rest => some ('\\'.toNat, rest)
  | '\\' :: '/' :: rest => some ('/'.toNat, rest)
  | '\\' :: 'b' :: rest => some (8, rest)
  | '\\' :: 'f' :: rest => some (12, rest)
  | '\\' :: 'n' :: rest => some ('\n'.toNat, rest)
  | '\\' :: 'r' :: rest => some ('\r'.toNat, rest)
  | '\\' :: 't' :: rest => some ('\t'.toNat, rest)
  | '\\' :: _ => none
  | '"' :: _ => none
  | character :: rest => if character.toNat < 32 then none else some (character.toNat, rest)
  | [] => none

/-- The rest of a string after its opening quote, of at most `fuel` characters. -/
def readString : Nat → Text → Option (List Nat × Text)
  | 0, _ => none
  | _ + 1, '"' :: rest => some ([], rest)
  | fuel + 1, text => do
      let (codePoint, rest) ← readChar text
      let (codePoints, rest) ← readString fuel rest
      some (codePoint :: codePoints, rest)

/-! ## Numbers and words -/

def readInteger : Text → Option (Text × Text)
  | '0' :: rest => some (['0'], rest)
  | text =>
      let digits := text.takeWhile Char.isDigit
      if digits = [] then none else some (digits, text.dropWhile Char.isDigit)

/-- `(\.[0-9]+)?` -/
def readFraction : Text → Text × Text
  | '.' :: rest =>
      let digits := rest.takeWhile Char.isDigit
      if digits = [] then ([], '.' :: rest) else ('.' :: digits, rest.dropWhile Char.isDigit)
  | text => ([], text)

def readSign : Text → Text × Text
  | '+' :: rest => (['+'], rest)
  | '-' :: rest => (['-'], rest)
  | text => ([], text)

/-- `([eE][-+]?[0-9]+)?` -/
def readExponent : Text → Text × Text
  | [] => ([], [])
  | character :: rest =>
      let (sign, digitsOn) := readSign rest
      let digits := digitsOn.takeWhile Char.isDigit
      if (character = 'e' ∨ character = 'E') ∧ digits ≠ [] then
        (character :: (sign ++ digits), digitsOn.dropWhile Char.isDigit)
      else ([], character :: rest)

/-- A number is an integer unless it has a fraction or an exponent. -/
def readNumber (text : Text) : Option (JsonValue × Text) := do
  let negative := text.head? = some '-'
  let (digits, rest) ← readInteger (if negative then text.tail else text)
  let (fraction, rest) := readFraction rest
  let (exponent, rest) := readExponent rest
  let number : Int := Nat.ofDigitChars 10 digits 0
  if fraction = [] ∧ exponent = [] then
    some (.int (if negative then -number else number), rest)
  else
    some (.float ((if negative then ['-'] else []) ++ digits ++ fraction ++ exponent), rest)

/-- The words that stand for a value. -/
def words : List (Text × JsonValue) :=
  [("null".toList, .null), ("true".toList, .bool true), ("false".toList, .bool false),
    ("NaN".toList, .float "NaN".toList), ("Infinity".toList, .float "Infinity".toList),
    ("-Infinity".toList, .float "-Infinity".toList)]

def readWord (text : Text) : Option (JsonValue × Text) :=
  words.findSome? fun (word, value) =>
    if word.isPrefixOf text then some (value, text.drop word.length) else none

/-! ## Values -/

def isSpace (character : Char) : Bool :=
  character = ' ' || character = '\t' || character = '\n' || character = '\r'

def skipSpace (text : Text) : Text := text.dropWhile isSpace

mutual

/-- A value at the head of a text. Every call that goes on has read a character, so that
as much fuel as there are characters is enough. -/
def readValue : Nat → Text → Option (JsonValue × Text)
  | 0, _ => none
  | fuel + 1, text =>
      match text with
      | '"' :: rest => do
          let (codePoints, rest) ← readString fuel rest
          some (stringValue (stringOf codePoints), rest)
      | '[' :: rest =>
          match skipSpace rest with
          | ']' :: rest => some (.arr [], rest)
          | rest => do
              let (item, rest) ← readValue fuel rest
              let (items, rest) ← readItems fuel rest
              some (.arr (item :: items), rest)
      | '{' :: rest =>
          match skipSpace rest with
          | '}' :: rest => some (.obj [], rest)
          | rest => do
              let (field, rest) ← readField fuel rest
              let (fields, rest) ← readFields fuel rest
              some (.obj (field :: fields), rest)
      | text => (readWord text).or (readNumber text)

/-- The items after the first one and the closing bracket. -/
def readItems : Nat → Text → Option (List JsonValue × Text)
  | 0, _ => none
  | fuel + 1, text =>
      match skipSpace text with
      | ']' :: rest => some ([], rest)
      | ',' :: rest => do
          let (item, rest) ← readValue fuel (skipSpace rest)
          let (items, rest) ← readItems fuel rest
          some (item :: items, rest)
      | _ => none

def readField : Nat → Text → Option ((JsonString × JsonValue) × Text)
  | 0, _ => none
  | fuel + 1, text =>
      match text with
      | '"' :: rest => do
          let (key, rest) ← readString fuel rest
          match skipSpace rest with
          | ':' :: rest => do
              let (value, rest) ← readValue fuel (skipSpace rest)
              some ((stringOf key, value), rest)
          | _ => none
      | _ => none

/-- The fields after the first one and the closing brace. -/
def readFields : Nat → Text → Option (List (JsonString × JsonValue) × Text)
  | 0, _ => none
  | fuel + 1, text =>
      match skipSpace text with
      | '}' :: rest => some ([], rest)
      | ',' :: rest => do
          let (field, rest) ← readField fuel (skipSpace rest)
          let (fields, rest) ← readFields fuel rest
          some (field :: fields, rest)
      | _ => none

end

/-- The value of a text, for an interpreter without limits. A byte order mark is refused, and
so is anything after the value. -/
def read (text : Text) : Option JsonValue := do
  if text.head? = some (Char.ofNat 0xFEFF) then none
  let (value, rest) ← readValue (text.length + 1) (skipSpace text)
  if skipSpace rest = [] then some value else none

end JsonReader

namespace JsonValue

/-- The longest integer that `int` reads, in decimal digits. -/
def maxStrDigits : Nat := 4300

mutual

/-- How many lists and dictionaries stand within one another. -/
def depth : JsonValue → Nat
  | .arr items => depthItems items + 1
  | .obj fields => depthFields fields + 1
  | _ => 0

def depthItems : List JsonValue → Nat
  | [] => 0
  | item :: rest => max (depth item) (depthItems rest)

def depthFields : List (JsonString × JsonValue) → Nat
  | [] => 0
  | (_, value) :: rest => max (depth value) (depthFields rest)

end

mutual

/-- No integer of the value has more digits than `int` reads. -/
def shortIntegers : JsonValue → Bool
  | .int value => value.natAbs < 10 ^ maxStrDigits
  | .arr items => shortItems items
  | .obj fields => shortFields fields
  | _ => true

def shortItems : List JsonValue → Bool
  | [] => true
  | item :: rest => shortIntegers item && shortItems rest

def shortFields : List (JsonString × JsonValue) → Bool
  | [] => true
  | (_, value) :: rest => shortIntegers value && shortFields rest

end

/-- `json.loads` gets through the value when it can open `nesting` lists and dictionaries
within one another. -/
def Loadable (nesting : Nat) (value : JsonValue) : Prop :=
  value.shortIntegers = true ∧ value.depth ≤ nesting

instance (nesting : Nat) (value : JsonValue) : Decidable (Loadable nesting value) :=
  inferInstanceAs (Decidable (_ ∧ _))

end JsonValue

namespace JsonReader

/-- `json.loads`. It raises on a text that is no JSON, and where the interpreter sets a limit to
the digits of an integer or to its recursion. -/
def loads (nesting : Nat) (text : Text) : Option JsonValue :=
  (read text).filter fun value => value.Loadable nesting

theorem loads_eq_some_iff {nesting : Nat} {text : Text} {value : JsonValue} :
    loads nesting text = some value ↔ read text = some value ∧ value.Loadable nesting := by
  unfold loads
  rw [Option.filter_eq_some_iff, decide_eq_true_iff]

end JsonReader

namespace JsonValue

/-- `dict.get`. Of the fields with one key the last has replaced the others. -/
def get (fields : List (JsonString × JsonValue)) (key : Text) : Option JsonValue :=
  (fields.reverse.find? fun field => field.1 = .text key).map Prod.snd

mutual

/-- The value that a JSON document stands for. -/
def ofJson : Json → JsonValue
  | .null => .null
  | .bool value => .bool value
  | .nat value => .int value
  | .str value => .str value
  | .arr items => .arr (ofItems items)
  | .obj fields => .obj (ofFields fields)

def ofItems : List Json → List JsonValue
  | [] => []
  | item :: rest => ofJson item :: ofItems rest

def ofFields : List (Text × Json) → List (JsonString × JsonValue)
  | [] => []
  | (key, value) :: rest => (.text key, ofJson value) :: ofFields rest

end

end JsonValue

/-! ## Reading back what was written -/

namespace JsonReader

open Json (asciiChar asciiText unicodeEscape hexDigit escapeChar escape)

private theorem hexValue_hexDigit {value : Nat} (small : value < 16) :
    hexValue (hexDigit value) = some value := by
  revert value
  decide

private theorem readUnit_unicodeEscape {unit : Nat} (small : unit < 0x10000) (rest : Text) :
    readUnit (unicodeEscape unit ++ rest) = some (unit, rest) := by
  have sum : unit / 4096 * 4096 + unit / 256 % 16 * 256 + unit / 16 % 16 * 16 + unit % 16 =
      unit := by omega
  simp only [unicodeEscape, List.cons_append, List.nil_append, readUnit]
  rw [hexValue_hexDigit (by omega), hexValue_hexDigit (by omega), hexValue_hexDigit (by omega),
    hexValue_hexDigit (by omega)]
  simp [sum]

/-- No character is a surrogate. -/
private theorem toNat_valid (character : Char) :
    character.toNat < 0xD800 ∨ (0xDFFF < character.toNat ∧ character.toNat < 0x110000) :=
  character.valid

private theorem scalar_toNat (character : Char) : scalar character.toNat = some character := by
  unfold scalar
  rw [if_pos (toNat_valid character), Char.ofNat_toNat]

private theorem stringOf_toNat (text : Text) : stringOf (text.map Char.toNat) = .text text := by
  have read : (text.map Char.toNat).mapM scalar = some text := by
    induction text with
    | nil => rfl
    | cons head tail induction =>
        rw [List.map_cons, List.mapM_cons, scalar_toNat, induction]
        rfl
  unfold stringOf
  rw [read]

private theorem readUnicode_single {unit : Nat} (small : unit < 0x10000)
    (outside : unit < 0xD800 ∨ 0xDFFF < unit) (rest : Text) :
    readUnicode (unicodeEscape unit ++ rest) = some (unit, rest) := by
  have notHigh : ∀ low, ¬(0xD800 ≤ unit ∧ unit ≤ 0xDBFF ∧ 0xDC00 ≤ low ∧ low ≤ 0xDFFF) := by
    omega
  unfold readUnicode
  rw [readUnit_unicodeEscape small]
  simp only [Option.bind_eq_bind, Option.bind_some]
  cases readUnit rest with
  | none => rfl
  | some next => simp only [if_neg (notHigh next.1)]

private theorem readUnicode_pair {high low : Nat} (isHigh : 0xD800 ≤ high ∧ high ≤ 0xDBFF)
    (isLow : 0xDC00 ≤ low ∧ low ≤ 0xDFFF) (rest : Text) :
    readUnicode (unicodeEscape high ++ unicodeEscape low ++ rest) =
      some ((high - 0xD800) * 1024 + (low - 0xDC00) + 0x10000, rest) := by
  unfold readUnicode
  rw [List.append_assoc, readUnit_unicodeEscape (by omega)]
  simp only [Option.bind_eq_bind, Option.bind_some,
    readUnit_unicodeEscape (show low < 0x10000 by omega),
    if_pos (show _ ∧ _ ∧ _ ∧ _ from ⟨isHigh.1, isHigh.2, isLow⟩)]

private theorem asciiChar_plain {character : Char} (small : character.toNat < 127) :
    asciiChar character = [character] := if_pos small

private theorem asciiText_plain {text : Text} (plain : ∀ character ∈ text, character.toNat < 127) :
    asciiText text = text := by
  induction text with
  | nil => rfl
  | cons head tail induction =>
      rw [List.forall_mem_cons] at plain
      rw [asciiText, List.flatMap_cons, asciiChar_plain plain.1]
      exact congrArg (head :: ·) (induction plain.2)

private theorem readUnicode_asciiChar {character : Char} (large : 127 ≤ character.toNat)
    (rest : Text) : readUnicode (asciiChar character ++ rest) = some (character.toNat, rest) := by
  have valid := toNat_valid character
  by_cases single : character.toNat < 0x10000
  · have written : asciiChar character = unicodeEscape character.toNat := by
      unfold asciiChar
      rw [if_neg (by omega), if_pos single]
    rw [written, readUnicode_single single (by omega)]
  · have written : asciiChar character =
        unicodeEscape ((character.toNat - 0x10000) / 1024 + 0xD800) ++
          unicodeEscape ((character.toNat - 0x10000) % 1024 + 0xDC00) := by
      unfold asciiChar
      rw [if_neg (by omega), if_neg single]
    have code : ((character.toNat - 0x10000) / 1024 + 0xD800 - 0xD800) * 1024 +
        ((character.toNat - 0x10000) % 1024 + 0xDC00 - 0xDC00) + 0x10000 =
          character.toNat := by omega
    rw [written, readUnicode_pair (by omega) (by omega), code]

private theorem asciiChar_escaped {character : Char} (large : 127 ≤ character.toNat) :
    ∃ rest, asciiChar character = '\\' :: 'u' :: rest := by
  unfold asciiChar
  rw [if_neg (by omega)]
  split
  · exact ⟨_, rfl⟩
  · exact ⟨_, rfl⟩

private theorem readChar_unicode {text : Text} (escaped : ∃ tail, text = '\\' :: 'u' :: tail)
    (rest : Text) : readChar (text ++ rest) = readUnicode (text ++ rest) := by
  rcases escaped with ⟨tail, rfl⟩
  rfl

private theorem readChar_written (character : Char) (rest : Text) :
    readChar (asciiText (escapeChar character) ++ rest) = some (character.toNat, rest) := by
  unfold escapeChar
  split
  · next equal => subst equal; rfl
  · next notQuote =>
    split
    · next equal => subst equal; rfl
    · next notBackslash =>
      split
      · next equal => subst equal; rfl
      · split
        · next equal => subst equal; rfl
        · split
          · next equal => subst equal; rfl
          · split
            · next equal => subst equal; rfl
            · split
              · next equal => subst equal; rfl
              · split
                · next control =>
                  have digits : ∀ code < 32, asciiText ['\\', 'u', '0', '0',
                      hexDigit (code / 16), hexDigit (code % 16)] = unicodeEscape code := by
                    decide
                  have escaped : ∃ tail, unicodeEscape character.toNat = '\\' :: 'u' :: tail :=
                    ⟨_, rfl⟩
                  rw [digits _ control, readChar_unicode escaped,
                    readUnicode_single (by omega) (by omega)]
                · next printable =>
                  have single : asciiText [character] = asciiChar character := by
                    simp [asciiText]
                  rw [single]
                  by_cases large : 127 ≤ character.toNat
                  · rw [readChar_unicode (asciiChar_escaped large), readUnicode_asciiChar large]
                  · rw [asciiChar_plain (by omega), List.singleton_append]
                    unfold readChar
                    split <;> simp_all

private theorem written_ne_nil (character : Char) : asciiText (escapeChar character) ≠ [] := by
  intro none
  have read := readChar_written character []
  rw [none] at read
  cases read

private theorem readString_cons {fuel codePoint : Nat} {text rest : Text}
    (read : readChar text = some (codePoint, rest)) :
    readString (fuel + 1) text =
      (readString fuel rest).map fun result => (codePoint :: result.1, result.2) := by
  have notQuote : ∀ tail, text = '"' :: tail → False := by
    intro tail equal
    rw [equal] at read
    cases read
  rw [readString, read]
  · simp only [Option.bind_eq_bind, Option.bind_some]
    cases readString fuel rest <;> rfl
  · exact notQuote

/-- What is written for a string reads back up to its closing quote. -/
private theorem readString_written (text rest : Text) {fuel : Nat}
    (enough : (asciiText (escape text)).length < fuel) :
    readString fuel (asciiText (escape text) ++ '"' :: rest) =
      some (text.map Char.toNat, rest) := by
  induction text generalizing fuel with
  | nil =>
      cases fuel with
      | zero => cases enough
      | succ fuel => rfl
  | cons character text induction =>
      have split : asciiText (escape (character :: text)) =
          asciiText (escapeChar character) ++ asciiText (escape text) := by
        simp [asciiText, escape]
      have positive := List.length_pos_iff.mpr (written_ne_nil character)
      rw [split, List.length_append] at enough
      cases fuel with
      | zero => cases enough
      | succ fuel =>
          rw [split, List.append_assoc, readString_cons (readChar_written character _),
            induction (by omega)]
          rfl

/-! ## Numbers -/

/-- The text after a value of a written document: a comma, a closing bracket, or nothing. -/
private def Follows (rest : Text) : Prop :=
  rest = [] ∨ ∃ head tail, rest = head :: tail ∧ (head = ',' ∨ head = ']' ∨ head = '}')

private theorem digits_head (number : Nat) :
    Text.digits number = ['0'] ∨ ∃ head tail, Text.digits number = head :: tail ∧ head ≠ '0' := by
  unfold Text.digits
  induction number using Nat.strongRecOn with
  | ind number induction =>
      rw [Nat.toDigits_eq_if (by decide)]
      split
      · next single =>
        have others : ∀ digit < 10, digit ≠ 0 → Nat.digitChar digit ≠ '0' := by decide
        by_cases zero : number = 0
        · left
          rw [zero]
          rfl
        · exact Or.inr ⟨_, [], rfl, others number single zero⟩
      · next longer =>
        right
        have positive : number / 10 ≠ 0 := by omega
        rcases induction (number / 10) (by omega) with zero | ⟨head, tail, written, nonzero⟩
        · have value := congrArg (fun text => Nat.ofDigitChars 10 text 0) zero
          rw [Nat.ofDigitChars_toDigits (by decide) (by decide)] at value
          exact absurd value positive
        · exact ⟨head, _, by rw [written]; rfl, nonzero⟩

private theorem takeWhile_digits (number : Nat) {rest : Text} (follows : Follows rest) :
    (Text.digits number ++ rest).takeWhile Char.isDigit = Text.digits number ∧
      (Text.digits number ++ rest).dropWhile Char.isDigit = rest := by
  have stops : rest.takeWhile Char.isDigit = [] ∧ rest.dropWhile Char.isDigit = rest := by
    rcases follows with rfl | ⟨head, tail, rfl, rfl | rfl | rfl⟩ <;> exact ⟨rfl, rfl⟩
  have isDigit := Text.forall_mem_digits number
  rw [List.takeWhile_append_of_pos isDigit, List.dropWhile_append_of_pos isDigit, stops.1,
    stops.2, List.append_nil]
  exact ⟨rfl, rfl⟩

private theorem readInteger_digits (number : Nat) {rest : Text} (follows : Follows rest) :
    readInteger (Text.digits number ++ rest) = some (Text.digits number, rest) := by
  rcases digits_head number with zero | ⟨head, tail, written, nonzero⟩
  · rw [zero]
    rfl
  · have taken := takeWhile_digits number follows
    have notZero : ∀ tail, Text.digits number ++ rest = '0' :: tail → False := by
      intro tail' equal
      rw [written, List.cons_append, List.cons.injEq] at equal
      exact nonzero equal.1
    rw [readInteger]
    · rw [taken.1, taken.2, if_neg (Text.digits_ne_nil number)]
    · exact notZero

private theorem readNumber_digits (number : Nat) {rest : Text} (follows : Follows rest) :
    readNumber (Text.digits number ++ rest) = some (.int number, rest) := by
  have unsigned : ¬(Text.digits number ++ rest).head? = some '-' := by
    intro minus
    have member : '-' ∈ Text.digits number := by
      cases written : Text.digits number with
      | nil => exact absurd written (Text.digits_ne_nil number)
      | cons head tail =>
          rw [written, List.cons_append, List.head?_cons, Option.some.injEq] at minus
          rw [minus]
          exact List.mem_cons_self
    have digit := Text.isDigit_of_mem_digits member
    revert digit
    decide
  have noFraction : readFraction rest = ([], rest) := by
    rcases follows with rfl | ⟨head, tail, rfl, rfl | rfl | rfl⟩ <;> rfl
  have noExponent : readExponent rest = ([], rest) := by
    rcases follows with rfl | ⟨head, tail, rfl, rfl | rfl | rfl⟩ <;> simp [readExponent]
  have value : Nat.ofDigitChars 10 (Text.digits number) 0 = number := by simp [Text.digits]
  unfold readNumber
  simp only [if_neg unsigned, readInteger_digits number follows, Option.bind_eq_bind,
    Option.bind_some, noFraction, noExponent, true_and, if_true, value]

/-! ## Values -/

private theorem asciiText_cons {character : Char} (plain : character.toNat < 127) (text : Text) :
    asciiText (character :: text) = character :: asciiText text := by
  rw [asciiText, List.flatMap_cons, asciiChar_plain plain]
  rfl

private theorem asciiText_append (first second : Text) :
    asciiText (first ++ second) = asciiText first ++ asciiText second := List.flatMap_append

private theorem asciiText_quote (text : Text) :
    asciiText (Json.quote text) = '"' :: (asciiText (escape text) ++ ['"']) := by
  unfold Json.quote
  rw [asciiText_cons (by decide), asciiText_append]
  rfl

private theorem asciiText_digits (number : Nat) :
    asciiText (Text.digits number) = Text.digits number := by
  apply asciiText_plain
  intro character member
  have digit := Text.isDigit_of_mem_digits member
  have upper : character.toNat ≤ 57 := (Char.isDigit_iff_toNat.mp digit).2
  omega

/-- A text that begins with a value: no space, and no closing bracket. -/
private def Begins (text : Text) : Prop :=
  ∃ head tail, text = head :: tail ∧ isSpace head = false ∧ head ≠ ']' ∧ head ≠ '}'

private theorem Begins.skipSpace {text : Text} (begins : Begins text) :
    skipSpace text = text := by
  rcases begins with ⟨head, tail, rfl, plain, _⟩
  unfold JsonReader.skipSpace
  rw [List.dropWhile_cons_of_neg]
  rw [plain]
  decide

private theorem Begins.append {text : Text} (begins : Begins text) (rest : Text) :
    Begins (text ++ rest) := by
  rcases begins with ⟨head, tail, rfl, plain⟩
  exact ⟨head, tail ++ rest, rfl, plain⟩

private theorem begins_digits (number : Nat) : Begins (Text.digits number) := by
  cases written : Text.digits number with
  | nil => exact absurd written (Text.digits_ne_nil number)
  | cons head tail =>
      have digit : head.isDigit = true :=
        Text.isDigit_of_mem_digits (by rw [written]; exact List.mem_cons_self)
      refine ⟨head, tail, rfl, ?_, ?_, ?_⟩
      · unfold isSpace
        by_contra space
        simp only [Bool.not_eq_false, Bool.or_eq_true, decide_eq_true_eq] at space
        rcases space with ((rfl | rfl) | rfl) | rfl <;> revert digit <;> decide
      · rintro rfl
        revert digit
        decide
      · rintro rfl
        revert digit
        decide

private theorem begins_render (value : Json) : Begins (asciiText value.render) := by
  cases value with
  | null => exact ⟨_, _, rfl, by decide, by decide, by decide⟩
  | bool value => cases value <;> exact ⟨_, _, rfl, by decide, by decide, by decide⟩
  | nat number =>
      rw [Json.render, asciiText_digits]
      exact begins_digits number
  | str text =>
      rw [Json.render, asciiText_quote]
      exact ⟨_, _, rfl, by decide, by decide, by decide⟩
  | arr items => cases items <;> exact ⟨'[', _, by rw [Json.render]; rfl, by decide, by decide, by decide⟩
  | obj fields =>
      rcases fields with _ | ⟨⟨key, value⟩, fields⟩ <;>
        exact ⟨'{', _, by rw [Json.render]; rfl, by decide, by decide, by decide⟩

private theorem readWord_digits (number : Nat) (rest : Text) :
    readWord (Text.digits number ++ rest) = none := by
  cases written : Text.digits number with
  | nil => exact absurd written (Text.digits_ne_nil number)
  | cons head tail =>
      have digit : head.isDigit = true :=
        Text.isDigit_of_mem_digits (by rw [written]; exact List.mem_cons_self)
      have letters : 'n' ≠ head ∧ 't' ≠ head ∧ 'f' ≠ head ∧ 'N' ≠ head ∧ 'I' ≠ head ∧
          '-' ≠ head := by
        refine ⟨?_, ?_, ?_, ?_, ?_, ?_⟩ <;>
          · rintro rfl
            cases digit
      simp [readWord, words, letters]

private theorem readValue_digits (number fuel : Nat) {rest : Text} (follows : Follows rest) :
    readValue (fuel + 1) (Text.digits number ++ rest) = some (.int number, rest) := by
  have scalar : readValue (fuel + 1) (Text.digits number ++ rest) =
      (readWord (Text.digits number ++ rest)).or (readNumber (Text.digits number ++ rest)) := by
    cases written : Text.digits number with
    | nil => exact absurd written (Text.digits_ne_nil number)
    | cons head tail =>
        have digit : head.isDigit = true :=
          Text.isDigit_of_mem_digits (by rw [written]; exact List.mem_cons_self)
        rw [List.cons_append, readValue] <;>
          · intro other equal
            cases equal
            cases digit
  rw [scalar, readWord_digits, readNumber_digits number follows]
  rfl

private theorem readValue_str {text rest tail : Text} {fuel : Nat}
    (read : readString fuel rest = some (text.map Char.toNat, tail)) :
    readValue (fuel + 1) ('"' :: rest) = some (.str text, tail) := by
  rw [readValue]
  simp only [read, Option.bind_eq_bind, Option.bind_some, stringOf_toNat, stringValue]

private theorem readValue_arr {text : Text} (begins : Begins text) (fuel : Nat) :
    readValue (fuel + 1) ('[' :: text) = (do
      let (item, rest) ← readValue fuel text
      let (items, rest) ← readItems fuel rest
      some (.arr (item :: items), rest)) := by
  rcases begins with ⟨head, tail, rfl, plain, notBracket, notBrace⟩
  have begins : Begins (head :: tail) := ⟨head, tail, rfl, plain, notBracket, notBrace⟩
  rw [readValue]
  simp only [begins.skipSpace]
  split
  · next equal => exact absurd (List.cons.inj equal).1 notBracket
  · rfl

private theorem readValue_obj {text : Text} (begins : Begins text) (fuel : Nat) :
    readValue (fuel + 1) ('{' :: text) = (do
      let (field, rest) ← readField fuel text
      let (fields, rest) ← readFields fuel rest
      some (.obj (field :: fields), rest)) := by
  rcases begins with ⟨head, tail, rfl, plain, notBracket, notBrace⟩
  have begins : Begins (head :: tail) := ⟨head, tail, rfl, plain, notBracket, notBrace⟩
  rw [readValue]
  simp only [begins.skipSpace]
  split
  · next equal => exact absurd (List.cons.inj equal).1 notBrace
  · rfl

private theorem readItems_comma {text : Text} (begins : Begins text) (fuel : Nat) :
    readItems (fuel + 1) (',' :: text) = (do
      let (item, rest) ← readValue fuel text
      let (items, rest) ← readItems fuel rest
      some (item :: items, rest)) := by
  have comma : skipSpace (',' :: text) = ',' :: text := rfl
  rw [readItems]
  simp only [comma, begins.skipSpace]

private theorem readFields_comma {text : Text} (begins : Begins text) (fuel : Nat) :
    readFields (fuel + 1) (',' :: text) = (do
      let (field, rest) ← readField fuel text
      let (fields, rest) ← readFields fuel rest
      some (field :: fields, rest)) := by
  have comma : skipSpace (',' :: text) = ',' :: text := rfl
  rw [readFields]
  simp only [comma, begins.skipSpace]

private theorem readField_written (key : Text) {text rest : Text} {value : JsonValue} {fuel : Nat}
    (enough : (asciiText (escape key)).length < fuel) (begins : Begins text)
    (read : readValue fuel text = some (value, rest)) :
    readField (fuel + 1) (asciiText (Json.quote key) ++ ':' :: text) =
      some ((.text key, value), rest) := by
  have colon : skipSpace (':' :: text) = ':' :: text := rfl
  rw [asciiText_quote, List.cons_append, List.append_assoc, List.singleton_append, readField]
  simp only [readString_written key (':' :: text) enough, Option.bind_eq_bind, Option.bind_some,
    colon, begins.skipSpace, read, stringOf_toNat]

private theorem follows_items (items : List Json) (rest : Text) :
    Follows (asciiText (Json.renderItems items) ++ rest) := by
  cases items with
  | nil => exact Or.inr ⟨']', _, rfl, Or.inr (Or.inl rfl)⟩
  | cons item items => exact Or.inr ⟨',', _, rfl, Or.inl rfl⟩

private theorem follows_fields (fields : List (Text × Json)) (rest : Text) :
    Follows (asciiText (Json.renderFields fields) ++ rest) := by
  rcases fields with _ | ⟨⟨key, value⟩, fields⟩
  · exact Or.inr ⟨'}', _, rfl, Or.inr (Or.inr rfl)⟩
  · exact Or.inr ⟨',', _, rfl, Or.inl rfl⟩

private theorem begins_quote (key text : Text) : Begins (asciiText (Json.quote key) ++ text) := by
  rw [asciiText_quote]
  exact ⟨_, _, rfl, by decide, by decide, by decide⟩

private theorem asciiText_field (key : Text) (value : Json) (fields : List (Text × Json)) :
    asciiText (Json.quote key ++ ':' :: (value.render ++ Json.renderFields fields)) =
      asciiText (Json.quote key) ++ ':' :: (asciiText value.render ++
        asciiText (Json.renderFields fields)) := by
  rw [asciiText_append, asciiText_cons (by decide), asciiText_append]

/-! A rendered value has at least one character, so that there is fuel for it. -/

private theorem length_pos {text : Text} (begins : Begins text) : 0 < text.length := by
  rcases begins with ⟨head, tail, rfl, _⟩
  exact Nat.succ_pos _

mutual

private theorem readValue_written : ∀ (value : Json) (fuel : Nat) (rest : Text), Follows rest →
    (asciiText value.render).length ≤ fuel →
    readValue fuel (asciiText value.render ++ rest) = some (JsonValue.ofJson value, rest)
  | value, 0, _, _, enough => by
      have positive := length_pos (begins_render value)
      omega
  | .null, _ + 1, _, _, _ => rfl
  | .bool true, _ + 1, _, _, _ => rfl
  | .bool false, _ + 1, _, _, _ => rfl
  | .nat number, fuel + 1, rest, follows, _ => by
      rw [Json.render, asciiText_digits, JsonValue.ofJson]
      exact readValue_digits number fuel follows
  | .str text, fuel + 1, rest, _, enough => by
      rw [Json.render, asciiText_quote] at enough ⊢
      rw [JsonValue.ofJson, List.cons_append, List.append_assoc]
      simp only [List.length_cons, List.length_append] at enough
      exact readValue_str (readString_written text rest (by omega))
  | .arr [], _ + 1, _, _, _ => by rw [Json.render]; rfl
  | .arr (item :: items), fuel + 1, rest, _, enough => by
      rw [Json.render, asciiText_cons (by decide), asciiText_append] at enough ⊢
      rw [List.length_cons, List.length_append] at enough
      have first := readValue_written item fuel _ (follows_items items rest) (by omega)
      have others := readItems_written items fuel rest (by omega)
      rw [JsonValue.ofJson, JsonValue.ofItems, List.cons_append, List.append_assoc,
        readValue_arr ((begins_render item).append _), first]
      simp only [Option.bind_eq_bind, Option.bind_some, others]
  | .obj [], _ + 1, _, _, _ => by rw [Json.render]; rfl
  | .obj ((key, value) :: fields), fuel + 1, rest, _, enough => by
      rw [Json.render, asciiText_cons (by decide), asciiText_field] at enough ⊢
      simp only [List.length_cons, List.length_append, asciiText_quote] at enough
      cases fuel with
      | zero => omega
      | succ fuel =>
          have first := readValue_written value fuel _ (follows_fields fields rest) (by omega)
          have field := readField_written key (by omega) ((begins_render value).append _) first
          have others := readFields_written fields (fuel + 1) rest (by omega)
          rw [JsonValue.ofJson, JsonValue.ofFields, List.cons_append, List.append_assoc,
            readValue_obj (begins_quote key _), List.cons_append, List.append_assoc, field]
          simp only [Option.bind_eq_bind, Option.bind_some, others]

private theorem readItems_written : ∀ (items : List Json) (fuel : Nat) (rest : Text),
    (asciiText (Json.renderItems items)).length ≤ fuel →
    readItems fuel (asciiText (Json.renderItems items) ++ rest) =
      some (JsonValue.ofItems items, rest)
  | [], 0, _, enough => by cases enough
  | [], _ + 1, _, _ => rfl
  | _ :: _, 0, _, enough => by cases enough
  | item :: items, fuel + 1, rest, enough => by
      rw [Json.renderItems, asciiText_cons (by decide), asciiText_append] at enough ⊢
      rw [List.length_cons, List.length_append] at enough
      have first := readValue_written item fuel _ (follows_items items rest) (by omega)
      have others := readItems_written items fuel rest (by omega)
      rw [JsonValue.ofItems, List.cons_append, List.append_assoc,
        readItems_comma ((begins_render item).append _), first]
      simp only [Option.bind_eq_bind, Option.bind_some, others]

private theorem readFields_written : ∀ (fields : List (Text × Json)) (fuel : Nat) (rest : Text),
    (asciiText (Json.renderFields fields)).length ≤ fuel →
    readFields fuel (asciiText (Json.renderFields fields) ++ rest) =
      some (JsonValue.ofFields fields, rest)
  | [], 0, _, enough => by cases enough
  | [], _ + 1, _, _ => rfl
  | (_, _) :: _, 0, _, enough => by cases enough
  | (key, value) :: fields, fuel + 1, rest, enough => by
      rw [Json.renderFields, asciiText_cons (by decide), asciiText_field] at enough ⊢
      simp only [List.length_cons, List.length_append, asciiText_quote] at enough
      cases fuel with
      | zero => omega
      | succ fuel =>
          have first := readValue_written value fuel _ (follows_fields fields rest) (by omega)
          have field := readField_written key (by omega) ((begins_render value).append _) first
          have others := readFields_written fields (fuel + 1) rest (by omega)
          rw [JsonValue.ofFields, List.cons_append, List.append_assoc,
            readFields_comma (begins_quote key _), List.cons_append, List.append_assoc, field]
          simp only [Option.bind_eq_bind, Option.bind_some, others]

end

private theorem unicodeEscape_ascii {unit : Nat} (small : unit < 0x10000) :
    ∀ character ∈ unicodeEscape unit, character.toNat < 127 := by
  have hexDigits : ∀ value < 16, (hexDigit value).toNat < 127 := by decide
  intro character member
  simp only [unicodeEscape, List.mem_cons, List.not_mem_nil, or_false] at member
  rcases member with rfl | rfl | rfl | rfl | rfl | rfl
  · decide
  · decide
  · exact hexDigits _ (by omega)
  · exact hexDigits _ (by omega)
  · exact hexDigits _ (by omega)
  · exact hexDigits _ (by omega)

/-- There are ASCII characters only. -/
theorem asciiText_ascii (text : Text) : ∀ character ∈ asciiText text, character.toNat < 127 := by
  intro character member
  rcases List.mem_flatMap.mp member with ⟨source, _, written⟩
  have valid := toNat_valid source
  unfold asciiChar at written
  split at written
  · next plain =>
    rw [List.mem_singleton.mp written]
    exact plain
  · split at written
    · next single => exact unicodeEscape_ascii single character written
    · rcases List.mem_append.mp written with high | low
      · exact unicodeEscape_ascii (by omega) character high
      · exact unicodeEscape_ascii (by omega) character low

/-- Reading a written document gives the value it stands for. -/
theorem read_dumpsAscii (value : Json) :
    JsonReader.read (Json.dumpsAscii value) = some (JsonValue.ofJson value.sortKeys) := by
  have begins := begins_render value.sortKeys
  have read := readValue_written value.sortKeys
    ((asciiText value.sortKeys.render).length + 1) [] (Or.inl rfl) (Nat.le_succ _)
  rw [List.append_nil] at read
  have unmarked : ¬(asciiText value.sortKeys.render).head? = some (Char.ofNat 0xFEFF) := by
    intro mark
    have ascii := asciiText_ascii _ _ (List.mem_of_mem_head? mark)
    revert ascii
    decide
  unfold JsonReader.read Json.dumpsAscii Json.dumps
  rw [if_neg unmarked, begins.skipSpace]
  simp only [read, Option.bind_eq_bind, Option.bind_some]
  rfl

end JsonReader

/-! ## Fields of an object that was read -/

namespace JsonValue

theorem ofItems_eq_map (items : List Json) : ofItems items = items.map ofJson := by
  induction items with
  | nil => rfl
  | cons item items induction => rw [ofItems, induction, List.map_cons]

theorem ofFields_eq_map (fields : List (Text × Json)) :
    ofFields fields = fields.map fun field => (.text field.1, ofJson field.2) := by
  induction fields with
  | nil => rfl
  | cons field fields induction =>
      rcases field with ⟨key, value⟩
      rw [ofFields, induction, List.map_cons]

theorem ofJson_sortKeys_obj (fields : List (Text × Json)) :
    ofJson (Json.obj fields).sortKeys =
      .obj (ofFields (sortedOn Prod.fst (Json.sortFields fields))) := by
  rw [Json.sortKeys, ofJson]

/-- A field that was written under a key of its own is found again. -/
theorem get_of_mem {fields : List (Text × Json)} (nodup : (fields.map Prod.fst).Nodup)
    {key : Text} {value : Json} (member : (key, value) ∈ fields) :
    get (ofFields (sortedOn Prod.fst (Json.sortFields fields))) key =
      some (ofJson value.sortKeys) := by
  rw [ofFields_eq_map, Json.sortFields_eq_map]
  have permuted := perm_sortedOn Prod.fst
    (fields.map fun field => (field.1, field.2.sortKeys))
  generalize sortedOn Prod.fst (fields.map fun field => (field.1, field.2.sortKeys)) = sorted
    at permuted
  have inside : (JsonString.text key, ofJson value.sortKeys) ∈
      (sorted.map fun field => (JsonString.text field.1, ofJson field.2)).reverse := by
    rw [List.mem_reverse, List.mem_map]
    exact ⟨(key, value.sortKeys), permuted.symm.subset (List.mem_map_of_mem member), rfl⟩
  have keys : ((sorted.map fun field =>
      (JsonString.text field.1, ofJson field.2)).reverse.map Prod.fst).Nodup := by
    rw [List.map_reverse, List.nodup_reverse, List.map_map]
    have sameKeys := permuted.map Prod.fst
    rw [List.map_map] at sameKeys
    have distinct := (sameKeys.nodup_iff.mpr nodup).map
      (f := JsonString.text) fun _ _ same => JsonString.text.inj same
    rwa [List.map_map] at distinct
  unfold get
  cases found : List.find? (fun field : JsonString × JsonValue => field.1 = .text key)
      (sorted.map fun field => (JsonString.text field.1, ofJson field.2)).reverse with
  | none =>
      have absent := List.find?_eq_none.mp found _ inside
      simp at absent
  | some field =>
      have here : field.1 = .text key := by simpa using List.find?_some found
      have same := List.inj_on_of_nodup_map keys (List.mem_of_find?_eq_some found) inside here
      rw [same, Option.map_some]

end JsonValue

end RollingBudget
