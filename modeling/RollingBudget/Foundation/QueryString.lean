import RollingBudget.Foundation.Url

namespace RollingBudget

/-! The queries that addresses and forms carry. `parse_qsl` of `urllib.parse` reads them, and
reads back what `urlencode` writes. -/

namespace Bytes

/-! ## UTF-8 with replacement -/

/-- The ranges of the bytes that go on with a character after its first byte. -/
def continuations (first : UInt8) : List (UInt8 × UInt8) :=
  let whole := (0x80, 0xBF)
  if 0xC2 ≤ first ∧ first ≤ 0xDF then [whole]
  else if first = 0xE0 then [(0xA0, 0xBF), whole]
  else if first = 0xED then [(0x80, 0x9F), whole]
  else if 0xE1 ≤ first ∧ first ≤ 0xEF then [whole, whole]
  else if first = 0xF0 then [(0x90, 0xBF), whole, whole]
  else if 0xF1 ≤ first ∧ first ≤ 0xF3 then [whole, whole, whole]
  else if first = 0xF4 then [(0x80, 0x8F), whole, whole]
  else []

/-- How many bytes go on with a character. -/
def continued : List (UInt8 × UInt8) → Bytes → Nat
  | (low, high) :: ranges, byte :: rest =>
      if low ≤ byte ∧ byte ≤ high then continued ranges rest + 1 else 0
  | _, _ => 0

/-- `bytes.decode("utf-8", "replace")`. A character that breaks off becomes one replacement
character. `skip` counts the bytes of a character that has been read already. -/
def decodeReplacing (skip : Nat) : Bytes → Text
  | [] => []
  | first :: rest =>
      match skip with
      | skip + 1 => decodeReplacing skip rest
      | 0 =>
          match (ByteArray.mk (first :: rest).toArray).utf8DecodeChar? 0 with
          | some character => character :: decodeReplacing (character.utf8Size - 1) rest
          | none =>
              Char.ofNat 0xFFFD :: decodeReplacing (continued (continuations first) rest) rest

theorem decodeReplacing_append (skipped rest : Bytes) :
    decodeReplacing skipped.length (skipped ++ rest) = decodeReplacing 0 rest := by
  induction skipped with
  | nil => rfl
  | cons byte skipped induction =>
      rw [List.length_cons, List.cons_append, decodeReplacing]
      exact induction

theorem encode_cons (character : Char) (text : Text) :
    Text.encode (character :: text) = String.utf8EncodeChar character ++ text.encode := by
  unfold Text.encode
  rw [String.toByteArray_ofList, String.toByteArray_ofList, List.utf8Encode_cons,
    ByteArray.data_append, Array.toList_append]
  simp [List.utf8Encode]

theorem decodeReplacing_encode (text : Text) : decodeReplacing 0 text.encode = text := by
  induction text with
  | nil => rfl
  | cons character text induction =>
      have bytes := encode_cons character text
      have size := String.length_utf8EncodeChar character
      have decoded : (ByteArray.mk (Text.encode (character :: text)).toArray).utf8DecodeChar? 0 =
          some character := by
        unfold Text.encode
        rw [Array.toArray_toList, String.toByteArray_ofList]
        exact List.utf8DecodeChar?_utf8Encode_cons
      cases encoded : String.utf8EncodeChar character with
      | nil =>
          rw [encoded] at size
          exact absurd size.symm (Nat.ne_of_gt character.utf8Size_pos)
      | cons first others =>
          rw [encoded, List.length_cons] at size
          rw [encoded, List.cons_append] at bytes
          rw [bytes] at decoded ⊢
          rw [decodeReplacing, decoded]
          dsimp only
          rw [← size, Nat.add_sub_cancel, decodeReplacing_append, induction]

end Bytes

namespace Url

/-! ## `unquote` -/

def hexValue (character : Char) : Option Nat :=
  if character.isDigit then some (character.toNat - 48)
  else if 'A' ≤ character ∧ character ≤ 'F' then some (character.toNat - 55)
  else if 'a' ≤ character ∧ character ≤ 'f' then some (character.toNat - 87)
  else none

/-- `unquote_to_bytes`. A percent sign that two hexadecimal digits do not follow stands for
itself. -/
def unquoteToBytes : Text → Bytes
  | [] => []
  | [first] => [UInt8.ofNat first.toNat]
  | [first, second] => [UInt8.ofNat first.toNat, UInt8.ofNat second.toNat]
  | first :: second :: third :: rest =>
      match first, hexValue second, hexValue third with
      | '%', some high, some low => UInt8.ofNat (high * 16 + low) :: unquoteToBytes rest
      | _, _, _ => UInt8.ofNat first.toNat :: unquoteToBytes (second :: third :: rest)

def isAscii (character : Char) : Bool := character.toNat < 128

/-- `unquote`, which decodes the stretches of ASCII characters only. -/
def unquote (text : Text) : Text :=
  (text.splitBy fun first second => isAscii first == isAscii second).flatMap fun stretch =>
    if stretch.all isAscii then Bytes.decodeReplacing 0 (unquoteToBytes stretch) else stretch

def plusToSpace (character : Char) : Char := if character = '+' then ' ' else character

def unquotePlus (text : Text) : Text := unquote (text.map plusToSpace)

/-! ## `parse_qsl` -/

/-- `parse_qsl` with `keep_blank_values`. -/
def parseQsl (query : Text) : List (Text × Text) :=
  ((query.splitOn '&').filter (· ≠ [])).map fun field =>
    let (name, value) := splitOnce '=' field
    (unquotePlus name, unquotePlus value)

/-! ## Round trip -/

/-- Whether a text is the byte itself or its two hexadecimal digits. -/
private def isQuoted (byte : UInt8) : Text → Bool
  | [character] => decide (character ≠ '%' ∧ isAscii character = true ∧
      UInt8.ofNat character.toNat = byte)
  | [percent, second, third] => decide (percent = '%' ∧ isAscii second = true ∧
      isAscii third = true ∧ ((hexValue second).bind fun high => (hexValue third).map fun low =>
        UInt8.ofNat (high * 16 + low)) = some byte)
  | _ => false

/-- A byte is written as itself, or with two hexadecimal digits. -/
private theorem quoteByte_cases (byte : UInt8) :
    (∃ character, (quoteByte byte).map plusToSpace = [character] ∧ character ≠ '%' ∧
      isAscii character = true ∧ UInt8.ofNat character.toNat = byte) ∨
    ∃ second third high low, (quoteByte byte).map plusToSpace = ['%', second, third] ∧
      isAscii second = true ∧ isAscii third = true ∧ hexValue second = some high ∧
      hexValue third = some low ∧ UInt8.ofNat (high * 16 + low) = byte := by
  have table : ∀ value < 256,
      isQuoted (UInt8.ofNat value) ((quoteByte (UInt8.ofNat value)).map plusToSpace) = true := by
    decide +kernel
  have entry := table byte.toNat byte.toNat_lt
  rw [UInt8.ofNat_toNat] at entry
  unfold isQuoted at entry
  split at entry
  · next character written => exact Or.inl ⟨character, written, of_decide_eq_true entry⟩
  · next percent second third written =>
    rcases of_decide_eq_true entry with ⟨rfl, secondAscii, thirdAscii, read⟩
    rcases Option.bind_eq_some_iff.mp read with ⟨high, isHigh, read⟩
    rcases Option.map_eq_some_iff.mp read with ⟨low, isLow, read⟩
    exact Or.inr ⟨second, third, high, low, written, secondAscii, thirdAscii, isHigh, isLow, read⟩
  · cases entry

theorem unquoteToBytes_cons {first : Char} (plain : first ≠ '%') (rest : Text) :
    unquoteToBytes (first :: rest) = UInt8.ofNat first.toNat :: unquoteToBytes rest := by
  rcases rest with _ | ⟨second, _ | ⟨third, rest⟩⟩
  · rfl
  · rfl
  · rw [unquoteToBytes]
    intro _ _ percent
    exact absurd percent plain

private theorem unquoteToBytes_quoteByte (byte : UInt8) (rest : Text) :
    unquoteToBytes ((quoteByte byte).map plusToSpace ++ rest) = byte :: unquoteToBytes rest := by
  rcases quoteByte_cases byte with ⟨character, written, plain, _, read⟩ |
    ⟨second, third, high, low, written, _, _, isHigh, isLow, read⟩
  · rw [written, List.singleton_append, unquoteToBytes_cons plain, read]
  · rw [written, List.cons_append, List.cons_append, List.cons_append, List.nil_append,
      unquoteToBytes, read]
    · exact isHigh
    · exact isLow

private theorem unquoteToBytes_quoteBytes (bytes : Bytes) :
    unquoteToBytes ((bytes.flatMap quoteByte).map plusToSpace) = bytes := by
  induction bytes with
  | nil => rfl
  | cons byte bytes induction =>
      rw [List.flatMap_cons, List.map_append, unquoteToBytes_quoteByte, induction]

private theorem isAscii_quoteBytes (bytes : Bytes) :
    ∀ character ∈ (bytes.flatMap quoteByte).map plusToSpace, isAscii character = true := by
  intro character member
  rw [List.map_flatMap] at member
  rcases List.mem_flatMap.mp member with ⟨byte, _, written⟩
  rcases quoteByte_cases byte with ⟨only, shape, _, ascii, _⟩ |
    ⟨second, third, _, _, shape, secondAscii, thirdAscii, _, _, _⟩
  · rw [shape] at written
    rw [List.mem_singleton.mp written]
    exact ascii
  · rw [shape] at written
    simp only [List.mem_cons, List.not_mem_nil, or_false] at written
    rcases written with rfl | rfl | rfl
    · rfl
    · exact secondAscii
    · exact thirdAscii

/-- A text of ASCII characters is decoded in one stretch. -/
theorem unquote_ascii {text : Text} (ascii : ∀ character ∈ text, isAscii character = true) :
    unquote text = Bytes.decodeReplacing 0 (unquoteToBytes text) := by
  by_cases empty : text = []
  · rw [empty]
    rfl
  · have alike : text.IsChain fun first second => (isAscii first == isAscii second) = true := by
      apply List.Pairwise.isChain
      rw [List.pairwise_iff_forall_sublist]
      intro first second among
      rw [ascii first (among.subset (by simp)), ascii second (among.subset (by simp))]
      rfl
    unfold unquote
    rw [List.splitBy_of_isChain empty alike, List.flatMap_singleton,
      if_pos (List.all_eq_true.mpr ascii)]

theorem unquotePlus_quotePlus (text : Text) : unquotePlus (quotePlus text) = text := by
  unfold unquotePlus quotePlus
  rw [unquote_ascii (isAscii_quoteBytes _), unquoteToBytes_quoteBytes,
    Bytes.decodeReplacing_encode]

/-- Every list of fields reads back. -/
theorem parseQsl_urlencode (fields : List (Text × Text)) : parseQsl (urlencode fields) = fields := by
  have plain : ∀ written ∈ (fields.map quoteField), '&' ∉ written := by
    intro written among member
    rcases List.mem_map.mp among with ⟨field, _, rfl⟩
    rcases List.mem_append.mp member with name | value
    · exact not_mem_quotePlus (by decide) (by decide) (by decide) _ name
    · rcases List.mem_cons.mp value with equal | value
      · exact absurd equal (by decide)
      · exact not_mem_quotePlus (by decide) (by decide) (by decide) _ value
  have nonempty : ∀ written ∈ (fields.map quoteField), decide (written ≠ []) = true := by
    intro written among
    rcases List.mem_map.mp among with ⟨field, _, rfl⟩
    simp [quoteField]
  by_cases none : fields = []
  · rw [none]
    rfl
  · unfold parseQsl urlencode
    rw [List.splitOn_intercalate '&' plain (by simpa using none),
      List.filter_eq_self.mpr nonempty, List.map_map, List.map_congr_left, List.map_id]
    intro field _
    have name : '=' ∉ quotePlus field.1 :=
      not_mem_quotePlus (by decide) (by decide) (by decide) _
    simp only [Function.comp_apply, quoteField, splitOnce_append name, unquotePlus_quotePlus]
    rfl

end Url

end RollingBudget
