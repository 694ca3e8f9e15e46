import RollingBudget.Foundation.Text
import RollingBudget.Foundation.Sorting

namespace RollingBudget

open Sorting

/-! Canonical JSON: `json.dumps` with sorted keys, compact separators and
`ensure_ascii=False`, over the values that Pydantic's JSON mode produces.
Decimals, dates and timestamps reach the serializer as strings, and every
number it sees is a nonnegative integer. -/

inductive Json where
  | null
  | bool (value : Bool)
  | nat (value : Nat)
  | str (value : Text)
  | arr (items : List Json)
  | obj (fields : List (Text × Json))

namespace Json

/-! ## String escapes -/

/-- One lowercase hexadecimal digit. -/
def hexDigit (value : Nat) : Char :=
  if value < 10 then Char.ofNat (48 + value) else Char.ofNat (87 + value)

/-- The escapes `json.dumps` writes when `ensure_ascii` is off. -/
def escapeChar (character : Char) : Text :=
  if character = '"' then ['\\', '"']
  else if character = '\\' then ['\\', '\\']
  else if character = '\n' then ['\\', 'n']
  else if character = '\r' then ['\\', 'r']
  else if character = '\t' then ['\\', 't']
  else if character = Char.ofNat 8 then ['\\', 'b']
  else if character = Char.ofNat 12 then ['\\', 'f']
  else if character.toNat < 32 then
    ['\\', 'u', '0', '0', hexDigit (character.toNat / 16), hexDigit (character.toNat % 16)]
  else [character]

def escape (text : Text) : Text := text.flatMap escapeChar

def quote (text : Text) : Text := '"' :: (escape text ++ ['"'])

def hexValue (digit : Char) : Nat :=
  if digit.toNat < 58 then digit.toNat - 48 else digit.toNat - 87

/-- Read one character of a string body back. -/
def readChar : Text → Option (Char × Text)
  | '\\' :: 'u' :: _ :: _ :: high :: low :: rest =>
      some (Char.ofNat (16 * hexValue high + hexValue low), rest)
  | '\\' :: 'n' :: rest => some ('\n', rest)
  | '\\' :: 'r' :: rest => some ('\r', rest)
  | '\\' :: 't' :: rest => some ('\t', rest)
  | '\\' :: 'b' :: rest => some (Char.ofNat 8, rest)
  | '\\' :: 'f' :: rest => some (Char.ofNat 12, rest)
  | '\\' :: character :: rest => some (character, rest)
  | '"' :: _ => none
  | character :: rest => some (character, rest)
  | [] => none

private theorem hexValue_pair (value : Nat) (small : value < 32) :
    16 * hexValue (hexDigit (value / 16)) + hexValue (hexDigit (value % 16)) = value := by
  revert value
  decide

theorem readChar_escapeChar (character : Char) (rest : Text) :
    readChar (escapeChar character ++ rest) = some (character, rest) := by
  unfold escapeChar
  split
  · next equal => subst equal; rfl
  · next notQuote =>
    split
    · next equal => subst equal; rfl
    · next notBackslash =>
      split
      · next equal => subst equal; rfl
      · split
        · next equal => subst equal; rfl
        · split
          · next equal => subst equal; rfl
          · split
            · next equal => subst equal; rfl
            · split
              · next equal => subst equal; rfl
              · split
                · next control =>
                  simp only [List.cons_append, List.nil_append, readChar]
                  rw [hexValue_pair _ control, Char.ofNat_toNat]
                · simp only [List.cons_append, List.nil_append]
                  unfold readChar
                  split <;> simp_all

theorem escape_append_injective {left right leftRest rightRest : Text}
    (equal : escape left ++ '"' :: leftRest = escape right ++ '"' :: rightRest) :
    left = right ∧ leftRest = rightRest := by
  induction left generalizing right with
  | nil =>
      cases right with
      | nil => simpa [escape] using equal
      | cons head tail =>
          have read := congrArg readChar equal
          rw [escape, escape, List.flatMap_cons, List.append_assoc,
            readChar_escapeChar] at read
          cases read
  | cons head tail induction =>
      cases right with
      | nil =>
          have read := congrArg readChar equal
          rw [escape, escape, List.flatMap_cons, List.append_assoc,
            readChar_escapeChar] at read
          cases read
      | cons other rest =>
          have read := congrArg readChar equal
          rw [escape, escape, List.flatMap_cons, List.flatMap_cons, List.append_assoc,
            List.append_assoc, readChar_escapeChar, readChar_escapeChar] at read
          simp only [Option.some.injEq, Prod.mk.injEq] at read
          rcases induction read.2 with ⟨tails, rests⟩
          exact ⟨by rw [read.1, tails], rests⟩

theorem quote_append_injective {left right leftRest rightRest : Text}
    (equal : quote left ++ leftRest = quote right ++ rightRest) :
    left = right ∧ leftRest = rightRest := by
  simp only [quote, List.cons_append, List.append_assoc, List.nil_append,
    List.cons.injEq, true_and] at equal
  exact escape_append_injective equal

/-! ## The serializer -/

mutual

/-- The text of a value whose objects already list their keys in order. -/
def render : Json → Text
  | .null => "null".toList
  | .bool true => "true".toList
  | .bool false => "false".toList
  | .nat value => Text.digits value
  | .str value => quote value
  | .arr [] => "[]".toList
  | .arr (item :: rest) => '[' :: (render item ++ renderItems rest)
  | .obj [] => "{}".toList
  | .obj ((key, value) :: rest) => '{' :: (quote key ++ ':' :: (render value ++ renderFields rest))

/-- The items after the first one and the closing bracket. -/
def renderItems : List Json → Text
  | [] => [']']
  | item :: rest => ',' :: (render item ++ renderItems rest)

/-- The fields after the first one and the closing brace. -/
def renderFields : List (Text × Json) → Text
  | [] => ['}']
  | (key, value) :: rest => ',' :: (quote key ++ ':' :: (render value ++ renderFields rest))

end

mutual

/-- `sort_keys=True`, at every depth. -/
def sortKeys : Json → Json
  | .arr items => .arr (sortItems items)
  | .obj fields => .obj (sortedOn Prod.fst (sortFields fields))
  | .null => .null
  | .bool value => .bool value
  | .nat value => .nat value
  | .str value => .str value

def sortItems : List Json → List Json
  | [] => []
  | item :: rest => sortKeys item :: sortItems rest

def sortFields : List (Text × Json) → List (Text × Json)
  | [] => []
  | (key, value) :: rest => (key, sortKeys value) :: sortFields rest

end

/-- `json.dumps(value, ensure_ascii=False, separators=(",", ":"), sort_keys=True)`. -/
def dumps (value : Json) : Text := render (sortKeys value)

example : dumps (.obj [("b".toList, .arr [.nat 12, .null]), ("a".toList, .str "x\"".toList)]) =
    "\x7b\"a\":\"x\\\"\",\"b\":[12,null]\x7d".toList := by decide

/-! ## The serializer is injective -/

/-- What the first character of a rendered value says about its shape. -/
private def shapeOf (character : Char) : Nat :=
  if character.isDigit then 2
  else if character = 'n' then 0 else if character = 't' then 1 else if character = 'f' then 1
  else if character = '"' then 3 else if character = '[' then 4 else if character = '{' then 5
  else 6

private def shape : Json → Nat
  | .null => 0
  | .bool _ => 1
  | .nat _ => 2
  | .str _ => 3
  | .arr _ => 4
  | .obj _ => 5

private theorem render_head (value : Json) :
    ∃ character rest, render value = character :: rest ∧ shapeOf character = shape value := by
  cases value with
  | null => exact ⟨'n', "ull".toList, rfl, rfl⟩
  | bool value => cases value <;> exact ⟨_, _, rfl, rfl⟩
  | nat value =>
      cases written : Text.digits value with
      | nil => exact absurd written (Text.digits_ne_nil value)
      | cons character rest =>
          have digit : character.isDigit = true :=
            Text.isDigit_of_mem_digits (by rw [written]; simp)
          exact ⟨character, rest, by simp [render, written], by simp [shapeOf, digit, shape]⟩
  | str value => exact ⟨'"', _, rfl, rfl⟩
  | arr items => cases items <;> exact ⟨'[', _, by simp only [render]; rfl, rfl⟩
  | obj fields =>
      rcases fields with _ | ⟨⟨key, value⟩, rest⟩
      · exact ⟨'{', _, by simp only [render]; rfl, rfl⟩
      · exact ⟨'{', _, by simp only [render]; rfl, rfl⟩

private theorem shape_eq_of_render_append_eq {left right : Json} {leftRest rightRest : Text}
    (equal : render left ++ leftRest = render right ++ rightRest) : shape left = shape right := by
  rcases render_head left with ⟨leftHead, leftTail, leftText, leftShape⟩
  rcases render_head right with ⟨rightHead, rightTail, rightText, rightShape⟩
  rw [leftText, rightText] at equal
  simp only [List.cons_append, List.cons.injEq] at equal
  rw [← leftShape, ← rightShape, equal.1]

private abbrev Ends (rest : Text) : Prop := Text.StopsAt Char.isDigit rest

private theorem ends_renderItems (items : List Json) (rest : Text) :
    Ends (renderItems items ++ rest) := by
  cases items with
  | nil => exact Text.stopsAt_cons rest rfl
  | cons item items => exact Text.stopsAt_cons _ rfl

private theorem ends_renderFields (fields : List (Text × Json)) (rest : Text) :
    Ends (renderFields fields ++ rest) := by
  rcases fields with _ | ⟨⟨key, value⟩, fields⟩
  · exact Text.stopsAt_cons rest rfl
  · exact Text.stopsAt_cons _ rfl

mutual

/-- Rendered values are uniquely decodable: a value and the text after it are
determined by their concatenation, as long as that text cannot continue a number. -/
theorem render_append_injective : ∀ (left right : Json) (leftRest rightRest : Text),
    Ends leftRest → Ends rightRest →
    render left ++ leftRest = render right ++ rightRest →
    left = right ∧ leftRest = rightRest
  | .null, right, leftRest, rightRest, _, _, equal => by
      have same := shape_eq_of_render_append_eq equal
      cases right <;> simp [shape] at same
      simpa [render] using equal
  | .bool value, right, leftRest, rightRest, _, _, equal => by
      have same := shape_eq_of_render_append_eq equal
      cases right <;> simp [shape] at same
      rename_i other
      cases value with
      | false => cases other <;> simp [render] at equal; simp [equal]
      | true => cases other <;> simp [render] at equal; simp [equal]
  | .nat value, right, leftRest, rightRest, leftEnds, rightEnds, equal => by
      have same := shape_eq_of_render_append_eq equal
      cases right <;> simp [shape] at same
      rename_i other
      simp only [render] at equal
      rcases Text.append_eq_append_of_stopsAt
        (fun _ member => Text.isDigit_of_mem_digits member)
        (fun _ member => Text.isDigit_of_mem_digits member)
        leftEnds rightEnds equal with ⟨digits, rests⟩
      exact ⟨by rw [Text.digits_injective digits], rests⟩
  | .str value, right, leftRest, rightRest, _, _, equal => by
      have same := shape_eq_of_render_append_eq equal
      cases right <;> simp [shape] at same
      rename_i other
      simp only [render] at equal
      rcases quote_append_injective equal with ⟨values, rests⟩
      exact ⟨by rw [values], rests⟩
  | .arr [], right, leftRest, rightRest, _, _, equal => by
      have same := shape_eq_of_render_append_eq equal
      cases right <;> simp [shape] at same
      rename_i items
      cases items with
      | nil => simpa [render] using equal
      | cons item rest =>
          rcases render_head item with ⟨character, text, written, itemShape⟩
          simp only [render, written] at equal
          simp at equal
          rw [← equal.1] at itemShape
          cases item <;> simp [shape, shapeOf] at itemShape
  | .arr (item :: items), right, leftRest, rightRest, _, _, equal => by
      have same := shape_eq_of_render_append_eq equal
      cases right <;> simp [shape] at same
      rename_i others
      cases others with
      | nil =>
          rcases render_head item with ⟨character, text, written, itemShape⟩
          simp only [render, written] at equal
          simp at equal
          rw [equal.1] at itemShape
          cases item <;> simp [shape, shapeOf] at itemShape
      | cons other others =>
          simp only [render, List.cons_append, List.append_assoc, List.cons.injEq,
            true_and] at equal
          rcases render_append_injective item other _ _
            (ends_renderItems items leftRest) (ends_renderItems others rightRest)
            equal with ⟨heads, tails⟩
          rcases renderItems_append_injective items others leftRest rightRest tails with
            ⟨rest, rests⟩
          exact ⟨by rw [heads, rest], rests⟩
  | .obj [], right, leftRest, rightRest, _, _, equal => by
      have same := shape_eq_of_render_append_eq equal
      cases right <;> simp [shape] at same
      rename_i fields
      rcases fields with _ | ⟨⟨key, value⟩, rest⟩
      · simpa [render] using equal
      · simp [render, quote] at equal
  | .obj ((key, value) :: fields), right, leftRest, rightRest, _, _, equal => by
      have same := shape_eq_of_render_append_eq equal
      cases right <;> simp [shape] at same
      rename_i others
      rcases others with _ | ⟨⟨otherKey, other⟩, others⟩
      · simp [render, quote] at equal
      · simp only [render, List.cons_append, List.append_assoc, List.cons.injEq,
          true_and] at equal
        rcases quote_append_injective equal with ⟨keys, afterKeys⟩
        simp only [List.cons.injEq, true_and] at afterKeys
        rcases render_append_injective value other _ _
          (ends_renderFields fields leftRest) (ends_renderFields others rightRest)
          afterKeys with ⟨values, tails⟩
        rcases renderFields_append_injective fields others leftRest rightRest tails with
          ⟨rest, rests⟩
        exact ⟨by rw [keys, values, rest], rests⟩

theorem renderItems_append_injective : ∀ (left right : List Json) (leftRest rightRest : Text),
    renderItems left ++ leftRest = renderItems right ++ rightRest →
    left = right ∧ leftRest = rightRest
  | [], [], leftRest, rightRest, equal => by simpa [renderItems] using equal
  | [], _ :: _, _, _, equal => by simp [renderItems] at equal
  | _ :: _, [], _, _, equal => by simp [renderItems] at equal
  | item :: items, other :: others, leftRest, rightRest, equal => by
      simp only [renderItems, List.cons_append, List.append_assoc, List.cons.injEq,
        true_and] at equal
      rcases render_append_injective item other _ _
        (ends_renderItems items leftRest) (ends_renderItems others rightRest)
        equal with ⟨heads, tails⟩
      rcases renderItems_append_injective items others leftRest rightRest tails with
        ⟨rest, rests⟩
      exact ⟨by rw [heads, rest], rests⟩

theorem renderFields_append_injective :
    ∀ (left right : List (Text × Json)) (leftRest rightRest : Text),
    renderFields left ++ leftRest = renderFields right ++ rightRest →
    left = right ∧ leftRest = rightRest
  | [], [], leftRest, rightRest, equal => by simpa [renderFields] using equal
  | [], (_, _) :: _, _, _, equal => by simp [renderFields] at equal
  | (_, _) :: _, [], _, _, equal => by simp [renderFields] at equal
  | (key, value) :: fields, (otherKey, other) :: others, leftRest, rightRest, equal => by
      simp only [renderFields, List.cons_append, List.append_assoc, List.cons.injEq,
        true_and] at equal
      rcases quote_append_injective equal with ⟨keys, afterKeys⟩
      simp only [List.cons.injEq, true_and] at afterKeys
      rcases render_append_injective value other _ _
        (ends_renderFields fields leftRest) (ends_renderFields others rightRest)
        afterKeys with ⟨values, tails⟩
      rcases renderFields_append_injective fields others leftRest rightRest tails with
        ⟨rest, rests⟩
      exact ⟨by rw [keys, values, rest], rests⟩

end

theorem render_injective : Function.Injective render := by
  intro left right equal
  have appended : render left ++ [] = render right ++ [] := by rw [equal]
  exact (render_append_injective left right [] []
    (Text.stopsAt_nil _) (Text.stopsAt_nil _) appended).1

/-- Equal canonical texts come from values that agree up to the order of keys. -/
theorem sortKeys_eq_of_dumps_eq {left right : Json} (equal : dumps left = dumps right) :
    sortKeys left = sortKeys right :=
  render_injective equal

/-! ## Payloads with fixed keys -/

@[simp] theorem sortItems_eq_map (items : List Json) : sortItems items = items.map sortKeys := by
  induction items with
  | nil => rfl
  | cons item rest induction => simp [sortItems, induction]

@[simp] theorem sortFields_eq_map (fields : List (Text × Json)) :
    sortFields fields = fields.map fun field => (field.1, sortKeys field.2) := by
  induction fields with
  | nil => rfl
  | cons field rest induction =>
      rcases field with ⟨key, value⟩
      simp [sortFields, induction]

/-- Two objects written with the same distinct keys agree field by field as soon
as their sorted forms agree. -/
theorem forall₂_of_sortKeys_obj_eq {left right : List (Text × Json)}
    (equal : sortKeys (.obj left) = sortKeys (.obj right)) (keys : List Text)
    (nodup : keys.Nodup) (leftKeys : left.map Prod.fst = keys)
    (rightKeys : right.map Prod.fst = keys) :
    List.Forall₂ (fun first second => sortKeys first.2 = sortKeys second.2) left right := by
  have sorted : (left.map fun field => (field.1, sortKeys field.2)).Perm
      (right.map fun field => (field.1, sortKeys field.2)) := by
    simp only [sortKeys, sortFields_eq_map, Json.obj.injEq] at equal
    exact perm_of_sortedOn_eq equal
  have sameKeys : left.map Prod.fst = right.map Prod.fst := leftKeys.trans rightKeys.symm
  have sameLength : left.length = right.length := by
    simpa using congrArg List.length sameKeys
  rw [List.forall₂_iff_get]
  refine ⟨sameLength, fun index leftBound rightBound => ?_⟩
  have sameKey : (left.get ⟨index, leftBound⟩).1 = (right.get ⟨index, rightBound⟩).1 := by
    have atIndex := congrArg (fun list => list[index]?) sameKeys
    simpa [leftBound, rightBound] using atIndex
  have member : ((left.get ⟨index, leftBound⟩).1, sortKeys (left.get ⟨index, leftBound⟩).2) ∈
      right.map fun field => (field.1, sortKeys field.2) :=
    sorted.mem_iff.mp (List.mem_map_of_mem (List.get_mem left ⟨index, leftBound⟩))
  rcases List.mem_map.mp member with ⟨found, foundMem, foundEqual⟩
  simp only [Prod.mk.injEq] at foundEqual
  have position : found = right.get ⟨index, rightBound⟩ :=
    List.inj_on_of_nodup_map (rightKeys ▸ nodup) foundMem (List.get_mem right _)
      (foundEqual.1.trans sameKey)
  rw [← foundEqual.2, position]

end Json

end RollingBudget
