import RollingBudget.Foundation.Text

namespace RollingBudget

/-! Byte strings: UTF-8, the URL-safe base64 of `base64.urlsafe_b64encode`, and the
decoder behind `base64.urlsafe_b64decode`. That decoder skips characters outside the
alphabet, takes both alphabets, and stops at the first complete padding. -/

abbrev Bytes := List UInt8

/-! ## UTF-8 -/

/-- `text.encode("utf-8")` -/
def Text.encode (text : Text) : Bytes := (String.ofList text).toByteArray.data.toList

/-- `bytes.decode("utf-8")`, which raises for malformed bytes. -/
def Bytes.decode (bytes : Bytes) : Option Text :=
  (ByteArray.mk bytes.toArray).utf8Decode?.map Array.toList

theorem Bytes.decode_encode (text : Text) : Bytes.decode text.encode = some text := by
  unfold Bytes.decode Text.encode
  rw [Array.toArray_toList, String.toByteArray_ofList, List.utf8Decode?_utf8Encode]
  simp

theorem Text.encode_injective : Function.Injective Text.encode := by
  intro left right equal
  have decoded := congrArg Bytes.decode equal
  rw [Bytes.decode_encode, Bytes.decode_encode] at decoded
  exact Option.some.inj decoded

namespace Base64

/-! ## The alphabet -/

def alphabet : Text := "ABCDEFGHIJKLMNOPQRSTUVWXYZabcdefghijklmnopqrstuvwxyz0123456789-_".toList

/-- The character of a six-bit group. -/
def digit (value : Nat) : Char := alphabet.getD value 'A'

/-- The six-bit group of a character. The decoder translates `-_` to `+/` first, so
that either spelling is accepted. -/
def sextet (character : Char) : Option Nat :=
  if character.isUpper then some (character.toNat - 65)
  else if character.isLower then some (character.toNat - 71)
  else if character.isDigit then some (character.toNat + 4)
  else if character = '-' ∨ character = '+' then some 62
  else if character = '_' ∨ character = '/' then some 63
  else none

theorem sextet_digit {value : Nat} (small : value < 64) : sextet (digit value) = some value := by
  revert value
  decide +kernel

theorem digit_mem (value : Nat) : digit value ∈ alphabet := by
  unfold digit
  rw [List.getD_eq_getElem?_getD]
  cases found : alphabet[value]? with
  | none => decide
  | some character => exact List.mem_of_getElem? found

theorem digit_ne {character : Char} (outside : character ∉ alphabet) (value : Nat) :
    digit value ≠ character := by
  intro equal
  apply outside
  rw [← equal]
  exact digit_mem value

/-! ## Encoding -/

/-- The groups of up to three bytes, without padding. -/
def encodeGroups : Bytes → Text
  | [] => []
  | [first] => [digit (first.toNat / 4), digit (first.toNat % 4 * 16)]
  | [first, second] =>
      [digit (first.toNat / 4), digit (first.toNat % 4 * 16 + second.toNat / 16),
        digit (second.toNat % 16 * 4)]
  | first :: second :: third :: rest =>
      digit (first.toNat / 4) :: digit (first.toNat % 4 * 16 + second.toNat / 16) ::
        digit (second.toNat % 16 * 4 + third.toNat / 64) :: digit (third.toNat % 64) ::
          encodeGroups rest

/-- The padding that completes a text to a multiple of four characters:
`"=" * (-len(value) % 4)`. -/
def padding (text : Text) : Text := List.replicate ((4 - text.length % 4) % 4) '='

/-- `base64.urlsafe_b64encode` -/
def urlsafeEncode (bytes : Bytes) : Text := encodeGroups bytes ++ padding (encodeGroups bytes)

/-! ## Decoding -/

/-- The loop of `binascii.a2b_base64`. `place` counts the characters of the group that
have been read, `left` holds their bits that no byte has taken yet, and `pads` the
padding seen since the last of them. -/
def scan (place left pads : Nat) : Text → Option Bytes
  | [] => if place = 0 then some [] else none
  | character :: rest =>
      if character = '=' then
        if 2 ≤ place ∧ 4 ≤ place + (pads + 1) then some []
        else scan place left (if 2 ≤ place then pads + 1 else pads) rest
      else
        match sextet character with
        | none => scan place left pads rest
        | some value =>
            match place with
            | 0 => scan 1 value 0 rest
            | 1 => (scan 2 (value % 16) 0 rest).map (UInt8.ofNat (left * 4 + value / 16) :: ·)
            | 2 => (scan 3 (value % 4) 0 rest).map (UInt8.ofNat (left * 16 + value / 4) :: ·)
            | _ => (scan 0 0 0 rest).map (UInt8.ofNat (left * 64 + value) :: ·)

/-- `base64.urlsafe_b64decode` of a text. A text with other than ASCII characters is
refused. -/
def urlsafeDecode (text : Text) : Option Bytes :=
  if text.all fun character => character.toNat < 128 then scan 0 0 0 text else none

/-! ## Round trip -/

private theorem not_pad (value : Nat) : digit value ≠ '=' := digit_ne (by decide) value

private theorem scan_first {value pads : Nat} (small : value < 64) (rest : Text) :
    scan 0 0 pads (digit value :: rest) = scan 1 value 0 rest := by
  rw [scan, if_neg (not_pad value), sextet_digit small]
  rfl

private theorem scan_second {left value pads : Nat} (small : value < 64) (rest : Text) :
    scan 1 left pads (digit value :: rest) =
      (scan 2 (value % 16) 0 rest).map (UInt8.ofNat (left * 4 + value / 16) :: ·) := by
  rw [scan, if_neg (not_pad value), sextet_digit small]
  rfl

private theorem scan_third {left value pads : Nat} (small : value < 64) (rest : Text) :
    scan 2 left pads (digit value :: rest) =
      (scan 3 (value % 4) 0 rest).map (UInt8.ofNat (left * 16 + value / 4) :: ·) := by
  rw [scan, if_neg (not_pad value), sextet_digit small]
  rfl

private theorem scan_fourth {left value pads : Nat} (small : value < 64) (rest : Text) :
    scan 3 left pads (digit value :: rest) =
      (scan 0 0 0 rest).map (UInt8.ofNat (left * 64 + value) :: ·) := by
  rw [scan, if_neg (not_pad value), sextet_digit small]
  rfl

private theorem byte_eq {byte : UInt8} {number : Nat} (equal : number = byte.toNat) :
    UInt8.ofNat number = byte := by
  rw [equal, UInt8.ofNat_toNat]

/-- Decoding a padded text brings back every byte. -/
theorem scan_encodeGroups (bytes : Bytes) (pads : Nat) :
    scan 0 0 pads (encodeGroups bytes ++ padding (encodeGroups bytes)) = some bytes := by
  induction bytes using encodeGroups.induct generalizing pads with
  | case1 => rfl
  | case2 first =>
      have bound := first.toNat_lt
      simp only [encodeGroups, padding, List.cons_append, List.nil_append]
      rw [scan_first (by omega), scan_second (by omega)]
      have byte : first.toNat / 4 * 4 + first.toNat % 4 * 16 / 16 = first.toNat := by omega
      rw [byte_eq byte]
      rfl
  | case3 first second =>
      have bound := first.toNat_lt
      have secondBound := second.toNat_lt
      simp only [encodeGroups, padding, List.cons_append, List.nil_append]
      rw [scan_first (by omega), scan_second (by omega), scan_third (by omega)]
      have byte : first.toNat / 4 * 4 + (first.toNat % 4 * 16 + second.toNat / 16) / 16 =
          first.toNat := by omega
      have secondByte : (first.toNat % 4 * 16 + second.toNat / 16) % 16 * 16 +
          second.toNat % 16 * 4 / 4 = second.toNat := by omega
      rw [byte_eq byte, byte_eq secondByte]
      rfl
  | case4 first second third rest induction =>
      have bound := first.toNat_lt
      have secondBound := second.toNat_lt
      have thirdBound := third.toNat_lt
      have samePadding : padding (encodeGroups (first :: second :: third :: rest)) =
          padding (encodeGroups rest) := by
        unfold padding
        simp only [encodeGroups, List.length_cons]
        congr 1
        omega
      rw [samePadding]
      simp only [encodeGroups, List.cons_append]
      rw [scan_first (by omega), scan_second (by omega), scan_third (by omega),
        scan_fourth (by omega), induction]
      have byte : first.toNat / 4 * 4 + (first.toNat % 4 * 16 + second.toNat / 16) / 16 =
          first.toNat := by omega
      have secondByte : (first.toNat % 4 * 16 + second.toNat / 16) % 16 * 16 +
          (second.toNat % 16 * 4 + third.toNat / 64) / 4 = second.toNat := by omega
      have thirdByte : (second.toNat % 16 * 4 + third.toNat / 64) % 4 * 64 + third.toNat % 64 =
          third.toNat := by omega
      rw [byte_eq byte, byte_eq secondByte, byte_eq thirdByte]
      rfl

theorem mem_alphabet_of_mem_encodeGroups {bytes : Bytes} {character : Char}
    (member : character ∈ encodeGroups bytes) : character ∈ alphabet := by
  induction bytes using encodeGroups.induct with
  | case1 => cases member
  | case2 first =>
      simp only [encodeGroups, List.mem_cons, List.not_mem_nil, or_false] at member
      rcases member with rfl | rfl <;> exact digit_mem _
  | case3 first second =>
      simp only [encodeGroups, List.mem_cons, List.not_mem_nil, or_false] at member
      rcases member with rfl | rfl | rfl <;> exact digit_mem _
  | case4 first second third rest induction =>
      simp only [encodeGroups, List.mem_cons] at member
      rcases member with rfl | rfl | rfl | rfl | later
      · exact digit_mem _
      · exact digit_mem _
      · exact digit_mem _
      · exact digit_mem _
      · exact induction later

end Base64

end RollingBudget
