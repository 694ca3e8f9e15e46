import RollingBudget.Foundation.Bytes

namespace RollingBudget

/-! The part of `urllib.parse` that rebuilds an address with a new query: `urlsplit`,
`urlunsplit` and `urlencode`. -/

namespace Url

/-! ## `urlencode` -/

/-- The characters that are never quoted. -/
def isUnreserved (character : Char) : Bool :=
  character.isAlphanum || character == '_' || character == '.' || character == '-' ||
    character == '~'

/-- One uppercase hexadecimal digit. -/
def hexDigit (value : Nat) : Char :=
  if value < 10 then Char.ofNat (48 + value) else Char.ofNat (55 + value)

def quoteByte (byte : UInt8) : Text :=
  let character := Char.ofNat byte.toNat
  if isUnreserved character then [character]
  else if character = ' ' then ['+']
  else ['%', hexDigit (byte.toNat / 16), hexDigit (byte.toNat % 16)]

/-- `quote_plus` -/
def quotePlus (text : Text) : Text := text.encode.flatMap quoteByte

def quoteField (field : Text × Text) : Text := quotePlus field.1 ++ '=' :: quotePlus field.2

/-- `urlencode` -/
def urlencode (fields : List (Text × Text)) : Text := ['&'].intercalate (fields.map quoteField)

/-! ## `urlsplit` -/

structure SplitResult where
  scheme : Text
  netloc : Text
  path : Text
  query : Text
  fragment : Text
deriving DecidableEq

/-- `text.split(separator, 1)`, with nothing after a separator that is missing. -/
def splitOnce (separator : Char) (text : Text) : Text × Text :=
  (text.takeWhile (· ≠ separator), (text.dropWhile (· ≠ separator)).drop 1)

def isSchemeChar (character : Char) : Bool :=
  character.isAlphanum || character == '+' || character == '-' || character == '.'

def splitScheme (url : Text) : Text × Text :=
  let scheme := url.takeWhile (· ≠ ':')
  match url.dropWhile (· ≠ ':') with
  | [] => ([], url)
  | _ :: rest =>
      if (scheme.head?.any Char.isAlpha) ∧ scheme.all isSchemeChar then
        (scheme.map Char.toLower, rest)
      else ([], url)

/-- `_splitnetloc`, for an address that goes on with two slashes. -/
def splitNetloc : Text → Text × Text
  | '/' :: '/' :: rest =>
      let inNetloc := fun character : Char =>
        decide (character ≠ '/' ∧ character ≠ '?' ∧ character ≠ '#')
      (rest.takeWhile inNetloc, rest.dropWhile inNetloc)
  | url => ([], url)

/-- A netloc with brackets or with other than ASCII characters undergoes checks of its own,
which no netloc here passes. -/
def isPlainNetloc (netloc : Text) : Bool :=
  netloc.all fun character => character.toNat < 128 && character != '[' && character != ']'

def urlsplit (url : Text) : Option SplitResult :=
  let url := url.dropWhile fun character => character.toNat ≤ 0x20
  let url := url.filter fun character =>
    character ≠ '\t' ∧ character ≠ '\r' ∧ character ≠ '\n'
  let (scheme, url) := splitScheme url
  let (netloc, url) := splitNetloc url
  if isPlainNetloc netloc then
    let (url, fragment) := splitOnce '#' url
    let (path, query) := splitOnce '?' url
    some ⟨scheme, netloc, path, query, fragment⟩
  else none

/-! ## `urlunsplit` -/

def usesNetloc : List Text :=
  ["".toList, "ftp".toList, "http".toList, "gopher".toList, "nntp".toList, "telnet".toList,
    "imap".toList, "wais".toList, "file".toList, "mms".toList, "https".toList, "shttp".toList,
    "snews".toList, "prospero".toList, "rtsp".toList, "rtsps".toList, "rtspu".toList,
    "rsync".toList, "svn".toList, "svn+ssh".toList, "sftp".toList, "nfs".toList, "git".toList,
    "git+ssh".toList, "ws".toList, "wss".toList, "itms-services".toList]

def urlunsplit (parts : SplitResult) : Text :=
  let url :=
    if parts.netloc ≠ [] ∨ (parts.scheme ≠ [] ∧ parts.scheme ∈ usesNetloc ∧
        parts.path.take 2 ≠ "//".toList) then
      let path :=
        if parts.path ≠ [] ∧ parts.path.head? ≠ some '/' then '/' :: parts.path else parts.path
      "//".toList ++ parts.netloc ++ path
    else parts.path
  let url := if parts.scheme ≠ [] then parts.scheme ++ ':' :: url else url
  let url := if parts.query ≠ [] then url ++ '?' :: parts.query else url
  if parts.fragment ≠ [] then url ++ '#' :: parts.fragment else url

/-! ## Splitting what was joined -/

theorem splitOnce_append {separator : Char} {before : Text} (plain : separator ∉ before)
    (after : Text) : splitOnce separator (before ++ separator :: after) = (before, after) := by
  have others : ∀ character ∈ before, decide (character ≠ separator) = true := by
    intro character member
    apply decide_eq_true
    rintro rfl
    exact plain member
  unfold splitOnce
  rw [List.takeWhile_append_of_pos others, List.dropWhile_append_of_pos others]
  simp

theorem splitOnce_of_not_mem {separator : Char} {text : Text} (plain : separator ∉ text) :
    splitOnce separator text = (text, []) := by
  have others : ∀ character ∈ text, decide (character ≠ separator) = true := by
    intro character member
    apply decide_eq_true
    rintro rfl
    exact plain member
  unfold splitOnce
  rw [List.takeWhile_eq_self_iff.mpr others, List.dropWhile_eq_nil_iff.mpr others]
  rfl

/-- A character of a netloc. -/
def isNetlocChar (character : Char) : Bool :=
  character.isAlphanum || character == '.' || character == '-'

/-- A character of a path. -/
def isPathChar (character : Char) : Bool := isUnreserved character || character == '/'

/-- The characters of an encoded query. -/
def isQueryChar (character : Char) : Bool :=
  isUnreserved character || character == '+' || character == '%' || character == '&' ||
    character == '='

/-- The parts of an address that quotes what it has to, without a fragment. -/
structure Plain (parts : SplitResult) : Prop where
  schemeBegins : parts.scheme.head?.any Char.isAlpha = true
  scheme : ∀ character ∈ parts.scheme, isSchemeChar character = true
  lower : parts.scheme.map Char.toLower = parts.scheme
  netlocNonempty : parts.netloc ≠ []
  netloc : ∀ character ∈ parts.netloc, isNetlocChar character = true
  pathBegins : parts.path ≠ [] → parts.path.head? = some '/'
  path : ∀ character ∈ parts.path, isPathChar character = true
  query : ∀ character ∈ parts.query, isQueryChar character = true
  fragment : parts.fragment = []

/-- The characters that need no attention anywhere in an address. -/
def isVisible (character : Char) : Bool := 0x20 < character.toNat && character.toNat < 128

theorem isVisible_of_isAlphanum {character : Char} (alphanumeric : character.isAlphanum = true) :
    isVisible character = true := by
  unfold isVisible
  simp only [Char.isAlphanum, Char.isAlpha, Char.isUpper, Char.isLower, Char.isDigit,
    Bool.or_eq_true, Bool.and_eq_true, decide_eq_true_eq, UInt32.le_iff_toNat_le]
    at alphanumeric ⊢
  simp at alphanumeric ⊢
  omega

theorem isVisible_of_isSchemeChar {character : Char} (member : isSchemeChar character = true) :
    isVisible character = true := by
  simp only [isSchemeChar, Bool.or_eq_true, beq_iff_eq] at member
  rcases member with ((alphanumeric | rfl) | rfl) | rfl
  · exact isVisible_of_isAlphanum alphanumeric
  all_goals decide

theorem isVisible_of_isQueryChar {character : Char} (member : isQueryChar character = true) :
    isVisible character = true := by
  simp only [isQueryChar, isUnreserved, Bool.or_eq_true, beq_iff_eq] at member
  rcases member with (((((((alphanumeric | rfl) | rfl) | rfl) | rfl) | rfl) | rfl) | rfl) | rfl
  · exact isVisible_of_isAlphanum alphanumeric
  all_goals decide

theorem isVisible_of_isPathChar {character : Char} (member : isPathChar character = true) :
    isVisible character = true := by
  rw [isPathChar, Bool.or_eq_true, beq_iff_eq] at member
  rcases member with unreserved | rfl
  · apply isVisible_of_isQueryChar
    simp [isQueryChar, unreserved]
  · decide

theorem isVisible_of_isNetlocChar {character : Char} (member : isNetlocChar character = true) :
    isVisible character = true := by
  apply isVisible_of_isPathChar
  simp only [isNetlocChar, Bool.or_eq_true] at member
  rcases member with (alphanumeric | dot) | dash
  · simp [isPathChar, isUnreserved, alphanumeric]
  · simp [isPathChar, isUnreserved, dot]
  · simp [isPathChar, isUnreserved, dash]

namespace Plain

variable {parts : SplitResult}

/-- The query as it stands in the address. -/
def querySuffix (query : Text) : Text := if query ≠ [] then '?' :: query else []

theorem urlunsplit_eq (plain : Plain parts) :
    urlunsplit parts = parts.scheme ++ ':' :: '/' :: '/' :: (parts.netloc ++
      (parts.path ++ querySuffix parts.query)) := by
  have schemeNonempty : parts.scheme ≠ [] := by
    intro empty
    have begins := plain.schemeBegins
    rw [empty] at begins
    cases begins
  have noSlash : ¬(parts.path ≠ [] ∧ parts.path.head? ≠ some '/') := fun missing =>
    missing.2 (plain.pathBegins missing.1)
  unfold urlunsplit querySuffix
  rw [if_pos (Or.inl plain.netlocNonempty), if_neg noSlash]
  simp only [schemeNonempty, plain.fragment, ne_eq, not_false_eq_true, if_true, not_true_eq_false,
    if_false]
  split <;> simp

/-- Nothing is stripped from the address. -/
theorem visible (plain : Plain parts) :
    ∀ character ∈ urlunsplit parts, isVisible character = true := by
  intro character member
  have slash : isVisible '/' = true := by decide
  rw [plain.urlunsplit_eq] at member
  rcases List.mem_append.mp member with inScheme | member
  · exact isVisible_of_isSchemeChar (plain.scheme character inScheme)
  rcases List.mem_cons.mp member with rfl | member
  · decide
  rcases List.mem_cons.mp member with rfl | member
  · exact slash
  rcases List.mem_cons.mp member with rfl | member
  · exact slash
  rcases List.mem_append.mp member with inNetloc | member
  · exact isVisible_of_isNetlocChar (plain.netloc character inNetloc)
  rcases List.mem_append.mp member with inPath | member
  · exact isVisible_of_isPathChar (plain.path character inPath)
  unfold querySuffix at member
  split at member
  · rcases List.mem_cons.mp member with rfl | inQuery
    · decide
    · exact isVisible_of_isQueryChar (plain.query character inQuery)
  · cases member

theorem splitScheme_eq (plain : Plain parts) (rest : Text) :
    splitScheme (parts.scheme ++ ':' :: rest) = (parts.scheme, rest) := by
  have others : ∀ character ∈ parts.scheme, decide (character ≠ ':') = true := by
    intro character member
    apply decide_eq_true
    rintro rfl
    exact absurd (plain.scheme _ member) (by decide)
  unfold splitScheme
  dsimp only
  rw [List.takeWhile_append_of_pos others, List.dropWhile_append_of_pos others]
  simp only [ne_eq, not_true_eq_false, decide_false, Bool.false_eq_true, not_false_eq_true,
    List.takeWhile_cons_of_neg, List.dropWhile_cons_of_neg, List.append_nil]
  rw [if_pos ⟨plain.schemeBegins, List.all_eq_true.mpr plain.scheme⟩, plain.lower]

theorem splitNetloc_eq (plain : Plain parts) :
    splitNetloc ('/' :: '/' :: (parts.netloc ++ (parts.path ++ querySuffix parts.query))) =
      (parts.netloc, parts.path ++ querySuffix parts.query) := by
  have inside : ∀ character ∈ parts.netloc,
      decide (character ≠ '/' ∧ character ≠ '?' ∧ character ≠ '#') = true := by
    intro character member
    have within := plain.netloc character member
    apply decide_eq_true
    refine ⟨?_, ?_, ?_⟩ <;>
      · rintro rfl
        exact absurd within (by decide)
  have stops : ∀ character rest, parts.path ++ querySuffix parts.query = character :: rest →
      decide (character ≠ '/' ∧ character ≠ '?' ∧ character ≠ '#') = false := by
    intro character rest equal
    cases path : parts.path with
    | nil =>
        rw [path, List.nil_append, querySuffix] at equal
        split at equal
        · cases equal
          decide
        · cases equal
    | cons head tail =>
        have begins := plain.pathBegins (by simp [path])
        rw [path, List.head?_cons, Option.some.injEq] at begins
        rw [path, begins, List.cons_append, List.cons.injEq] at equal
        rw [← equal.1]
        decide
  rw [splitNetloc]
  rw [List.takeWhile_append_of_pos inside, List.dropWhile_append_of_pos inside]
  cases rest : parts.path ++ querySuffix parts.query with
  | nil => simp
  | cons head tail =>
      rw [List.takeWhile_cons, List.dropWhile_cons, stops head tail rest]
      simp

/-- Splitting undoes joining. -/
theorem urlsplit_urlunsplit (plain : Plain parts) : urlsplit (urlunsplit parts) = some parts := by
  have kept : (urlunsplit parts).dropWhile (fun character => character.toNat ≤ 0x20) =
      urlunsplit parts := by
    rw [List.dropWhile_eq_self_iff]
    intro nonempty
    have visible := plain.visible _ (List.getElem_mem nonempty)
    rw [isVisible, Bool.and_eq_true, decide_eq_true_eq] at visible
    simpa using visible.1
  have unfiltered : ((urlunsplit parts).filter fun character =>
      character ≠ '\t' ∧ character ≠ '\r' ∧ character ≠ '\n') = urlunsplit parts := by
    rw [List.filter_eq_self]
    intro character member
    have visible := plain.visible character member
    apply decide_eq_true
    refine ⟨?_, ?_, ?_⟩ <;>
      · rintro rfl
        exact absurd visible (by decide)
  have plainNetloc : isPlainNetloc parts.netloc = true := by
    rw [isPlainNetloc, List.all_eq_true]
    intro character member
    have within := plain.netloc character member
    have visible := isVisible_of_isNetlocChar within
    rw [isVisible, Bool.and_eq_true] at visible
    have noBracket : ∀ bracket, isNetlocChar bracket = false → (character != bracket) = true := by
      intro bracket outside
      rw [bne_iff_ne]
      rintro rfl
      rw [within] at outside
      cases outside
    rw [visible.2, noBracket '[' (by decide), noBracket ']' (by decide)]
    rfl
  have noFragment : '#' ∉ parts.path ++ querySuffix parts.query := by
    intro member
    rcases List.mem_append.mp member with inPath | member
    · exact absurd (plain.path _ inPath) (by decide)
    · unfold querySuffix at member
      split at member
      · rcases List.mem_cons.mp member with equal | inQuery
        · exact absurd equal (by decide)
        · exact absurd (plain.query _ inQuery) (by decide)
      · cases member
  have noQuery : '?' ∉ parts.path := fun member => absurd (plain.path _ member) (by decide)
  unfold urlsplit
  dsimp only
  rw [kept, unfiltered, plain.urlunsplit_eq, plain.splitScheme_eq]
  dsimp only
  rw [plain.splitNetloc_eq]
  dsimp only
  rw [if_pos plainNetloc, splitOnce_of_not_mem noFragment]
  have query : splitOnce '?' (parts.path ++ querySuffix parts.query) = (parts.path, parts.query) := by
    unfold querySuffix
    split
    · exact splitOnce_append noQuery _
    · next empty =>
      rw [List.append_nil, splitOnce_of_not_mem noQuery, not_not.mp empty]
  dsimp only
  rw [query, ← plain.fragment]

end Plain

/-! ## Quoted text -/

theorem mem_quotePlus {text : Text} {character : Char} (member : character ∈ quotePlus text) :
    isUnreserved character = true ∨ character = '+' ∨ character = '%' := by
  have hexDigits : ∀ value < 16, isUnreserved (hexDigit value) = true := by decide
  rcases List.mem_flatMap.mp member with ⟨byte, _, quoted⟩
  have bound := byte.toNat_lt
  unfold quoteByte at quoted
  dsimp only at quoted
  split at quoted
  · next unreserved =>
    rw [List.mem_singleton.mp quoted]
    exact Or.inl unreserved
  · split at quoted
    · exact Or.inr (Or.inl (List.mem_singleton.mp quoted))
    · simp only [List.mem_cons, List.not_mem_nil, or_false] at quoted
      rcases quoted with rfl | rfl | rfl
      · exact Or.inr (Or.inr rfl)
      · exact Or.inl (hexDigits _ (by omega))
      · exact Or.inl (hexDigits _ (by omega))

theorem not_mem_quotePlus {character : Char} (reserved : isUnreserved character = false)
    (notPlus : character ≠ '+') (notPercent : character ≠ '%') (text : Text) :
    character ∉ quotePlus text := by
  intro member
  rcases mem_quotePlus member with unreserved | plus | percent
  · rw [reserved] at unreserved
    cases unreserved
  · exact notPlus plus
  · exact notPercent percent

private theorem isQueryChar_of_mem_quotePlus {text : Text} {character : Char}
    (member : character ∈ quotePlus text) : isQueryChar character = true := by
  rcases mem_quotePlus member with unreserved | rfl | rfl
  · simp [isQueryChar, unreserved]
  · decide
  · decide

theorem isQueryChar_of_mem_urlencode {fields : List (Text × Text)} {character : Char}
    (member : character ∈ urlencode fields) : isQueryChar character = true := by
  unfold urlencode at member
  induction fields with
  | nil => cases member
  | cons field fields induction =>
      have ofField : character ∈ quoteField field → isQueryChar character = true := by
        intro written
        rcases List.mem_append.mp written with name | written
        · exact isQueryChar_of_mem_quotePlus name
        · rcases List.mem_cons.mp written with rfl | value
          · decide
          · exact isQueryChar_of_mem_quotePlus value
      cases fields with
      | nil =>
          rw [List.map_cons, List.map_nil, List.intercalate_singleton] at member
          exact ofField member
      | cons next fields =>
          rw [List.map_cons, List.intercalate_cons_of_ne_nil (by simp)] at member
          rcases List.mem_append.mp member with member | later
          · rcases List.mem_append.mp member with first | separator
            · exact ofField first
            · rw [List.mem_singleton.mp separator]
              decide
          · exact induction later

end Url

end RollingBudget
