import RollingBudget.Guards.FlushResults
import RollingBudget.Guards.Statements

namespace RollingBudget

open SingleUser Flushes

/-! Several writes to one table in a row: the updates of a flush, the insertion of some rows, and
the deletion of some. The state of the database is given as a function of the rows of the
table. -/

/-! ## Updating rows in place -/

theorem replace_middle {α κ : Type} [DecidableEq κ] {key : α → κ} {front back : List α}
    {old new : α} (nodup : ((front ++ old :: back).map key).Nodup) (same : key old = key new) :
    replace key new (front ++ old :: back) = front ++ new :: back := by
  rw [List.map_append, List.map_cons, List.nodup_append, List.nodup_cons] at nodup
  rcases nodup with ⟨_, ⟨fresh, _⟩, apart⟩
  have frontKept : replace key new front = front := by
    apply Table.modify_of_forall_ne
    intro row member equal
    exact apart _ (List.mem_map_of_mem member) _ List.mem_cons_self (equal.trans same.symm)
  have backKept : replace key new back = back := by
    apply Table.modify_of_forall_ne
    intro row member equal
    exact fresh (same ▸ equal ▸ List.mem_map_of_mem member)
  have split : replace key new (front ++ old :: back) =
      replace key new front ++ (if key old = key new then new else old) ::
        replace key new back := by
    unfold replace Table.modify
    rw [List.map_append, List.map_cons]
  rw [split, frontKept, backKept, if_pos same]

/-- A change of the row with a key is an update of that row. -/
theorem modify_eq_replace {α κ : Type} [DecidableEq κ] {key : α → κ} {rows : List α} {row : α}
    (change : α → α) (nodup : (rows.map key).Nodup) (member : row ∈ rows)
    (same : key (change row) = key row) :
    Table.modify key (key row) change rows = replace key (change row) rows := by
  unfold replace Table.modify
  apply List.map_congr_left
  intro other otherMember
  rw [same]
  by_cases here : key other = key row
  · rw [if_pos here, if_pos here, List.inj_on_of_nodup_map nodup otherMember member here]
  · rw [if_neg here, if_neg here]

/-- The updates of one flush of a table. A state is given by the rows of the table in it. -/
theorem admits_changed {α κ : Type} [DecidableEq α] [DecidableEq κ] {row : α → Row} (key : α → κ)
    (state : List α → Database) {change : α → α → Prop}
    (updates : ∀ rows new, (state rows).write (.update (row new)) = state (replace key new rows))
    (unique : ∀ rows, (state rows).Constraints → (rows.map key).Nodup)
    (sameKey : ∀ old new, change old new → key old = key new)
    (guards : ∀ front old back new, (state (front ++ old :: back)).Constraints → change old new →
      (state (front ++ old :: back)).Guarded (.update (row new)))
    {before after : List α}
    (changes : List.Forall₂ (fun old new => old = new ∨ change old new) before after)
    (start : (state before).Constraints) :
    guardedDatabase.Admits (state before) (changed row before after) ∧
      guardedDatabase.after (state before) (changed row before after) = state after := by
  have general : ∀ front, (state (front ++ before)).Constraints →
      guardedDatabase.Admits (state (front ++ before)) (changed row before after) ∧
        guardedDatabase.after (state (front ++ before)) (changed row before after) =
          state (front ++ after) := by
    clear start
    induction changes with
    | nil =>
        intro front _
        exact ⟨trivial, rfl⟩
    | @cons old new before after first _ induction =>
        intro front here
        have unfolded : changed row (old :: before) (new :: after) =
            (if old = new then [] else [.update (row new)]) ++ changed row before after := rfl
        rw [unfolded]
        by_cases same : old = new
        · rw [if_pos same, List.nil_append, ← same]
          have later := induction (front ++ [old]) (by simpa using here)
          simpa using later
        · have changes := first.resolve_left same
          have guarded := guards front old before new here changes
          have stepped : (state (front ++ old :: before)).write (.update (row new)) =
              state (front ++ new :: before) := by
            rw [updates, replace_middle (unique _ here) (sameKey old new changes)]
          have kept := guarded.constraints
          rw [stepped] at kept
          have later := induction (front ++ [new]) (by simpa using kept)
          rw [List.append_assoc, List.singleton_append, List.append_assoc,
            List.singleton_append, ← stepped] at later
          rw [if_neg same, List.singleton_append]
          exact ⟨⟨guarded, later.1⟩, later.2⟩
  exact general [] start

theorem changed_self {α : Type} [DecidableEq α] (row : α → Row) (rows : List α) :
    changed row rows rows = [] := by
  induction rows with
  | nil => rfl
  | cons first rest induction =>
      have unfolded : changed row (first :: rest) (first :: rest) =
          (if first = first then [] else [.update (row first)]) ++ changed row rest rest := rfl
      rw [unfolded, if_pos rfl, List.nil_append, induction]

/-- A change of one row is one update. -/
theorem changed_modify {α κ : Type} [DecidableEq α] [DecidableEq κ] (row : α → Row) {key : α → κ}
    {rows : List α} {old : α} (change : α → α) (nodup : (rows.map key).Nodup)
    (member : old ∈ rows) (differs : old ≠ change old) (same : key (change old) = key old) :
    changed row rows (Table.modify key (key old) change rows) = [.update (row (change old))] := by
  rw [modify_eq_replace change nodup member same]
  rcases List.append_of_mem member with ⟨front, back, whole⟩
  rw [whole] at nodup
  rw [whole, replace_middle nodup same.symm]
  have split : changed row (front ++ old :: back) (front ++ change old :: back) =
      changed row front front ++
        ((if old = change old then [] else [.update (row (change old))]) ++
          changed row back back) := by
    unfold changed
    rw [List.zip_append rfl, List.flatMap_append, List.zip_cons_cons, List.flatMap_cons]
  rw [split, changed_self, changed_self, if_neg differs]
  rfl

/-- A list beside its image, row by row. -/
theorem forall₂_map {α : Type} {related : α → α → Prop} {change : α → α} {rows : List α}
    (each : ∀ row ∈ rows, related row (change row)) :
    List.Forall₂ related rows (rows.map change) := by
  rw [List.forall₂_map_right_iff, List.forall₂_same]
  exact each

/-! ## Inserting rows -/

/-- Some rows have been inserted, and some are still to come. -/
private structure Inserting {α : Type} (state : List α → Database) (before added : List α)
    (done rest : List α) (reached : Database) : Prop where
  whole : done ++ rest = added
  here : reached = state (before ++ done)
  constraints : reached.Constraints

/-- The rows go in one by one. What is known of all of them goes into the guards. -/
theorem admits_inserts {α : Type} (row : α → Row) (state : List α → Database)
    (before added : List α)
    (inserts : ∀ rows new, (state rows).write (.insert (row new)) = state (rows ++ [new]))
    (guards : ∀ done item rest, done ++ item :: rest = added →
      (state (before ++ done)).Constraints →
      (state (before ++ done)).Guarded (.insert (row item)))
    (start : (state before).Constraints) :
    guardedDatabase.Admits (state before) (added.map fun item => .insert (row item)) ∧
      guardedDatabase.after (state before) (added.map fun item => .insert (row item)) =
        state (before ++ added) := by
  have round : ∀ done item rest reached,
      Inserting state before added done (item :: rest) reached →
      guardedDatabase.Guards reached (.insert (row item)) ∧
        Inserting state before added (done ++ [item]) rest
          (guardedDatabase.apply reached (.insert (row item))) := by
    rintro done item rest _ ⟨whole, rfl, here⟩
    have guarded := guards done item rest whole here
    have stepped : (state (before ++ done)).write (.insert (row item)) =
        state (before ++ (done ++ [item])) := by
      rw [inserts, List.append_assoc]
    exact ⟨guarded, by simpa using whole, stepped, guarded.constraints⟩
  have loop := GuardedStore.admits_map (Inserting state before added) round
    ⟨List.nil_append added, by rw [List.append_nil], start⟩
  exact ⟨loop.1, loop.2.here⟩

/-! ## Deleting rows -/

/-- Rows whose keys are not among those of the rows that go are the rows that stay. -/
theorem filter_key_notMem {α κ : Type} [DecidableEq κ] {key : α → κ} {rows : List α}
    (nodup : (rows.map key).Nodup) (gone : α → Bool) :
    rows.filter (fun row => key row ∉ (rows.filter gone).map key) =
      rows.filter fun row => !gone row := by
  apply List.filter_congr
  intro row member
  have same : key row ∈ (rows.filter gone).map key ↔ gone row = true := by
    constructor
    · intro found
      rcases List.mem_map.mp found with ⟨other, otherMember, here⟩
      rcases List.mem_filter.mp otherMember with ⟨inRows, goes⟩
      rw [← List.inj_on_of_nodup_map nodup inRows member here]
      exact goes
    · intro goes
      exact List.mem_map_of_mem (List.mem_filter.mpr ⟨member, goes⟩)
  simp only [same, decide_not, Bool.decide_eq_true]

private structure Deleting {α κ : Type} [DecidableEq κ] (key : α → κ)
    (state : List α → Database) (rows removed : List α) (done rest : List α)
    (reached : Database) : Prop where
  whole : done ++ rest = removed
  here : reached = state (rows.filter fun other => key other ∉ done.map key)
  constraints : reached.Constraints

/-- Each row that goes is there when its turn comes, since the rows are told apart by their
keys. -/
theorem admits_deletes {α κ : Type} [DecidableEq κ] (row : α → Row) (key : α → κ)
    (state : List α → Database) (rows : List α) (gone : α → Bool) (nodup : (rows.map key).Nodup)
    (deletes : ∀ rest, rest ⊆ rows → ∀ old ∈ rest, gone old →
      (state rest).write (.delete (row old)) =
        state (rest.filter fun other => key other ≠ key old))
    (guards : ∀ rest, rest ⊆ rows → ∀ old ∈ rest, gone old → (state rest).Constraints →
      (state rest).Guarded (.delete (row old)))
    (start : (state rows).Constraints) :
    guardedDatabase.Admits (state rows) ((rows.filter gone).map fun old => .delete (row old)) ∧
      guardedDatabase.after (state rows) ((rows.filter gone).map fun old => .delete (row old)) =
        state (rows.filter fun row => !gone row) := by
  have keys : ((rows.filter gone).map key).Nodup := nodup_filter nodup gone
  have round : ∀ done old rest reached,
      Deleting key state rows (rows.filter gone) done (old :: rest) reached →
      guardedDatabase.Guards reached (.delete (row old)) ∧
        Deleting key state rows (rows.filter gone) (done ++ [old]) rest
          (guardedDatabase.apply reached (.delete (row old))) := by
    rintro done old rest _ ⟨whole, rfl, here⟩
    have remaining : (rows.filter fun other => key other ∉ done.map key) ⊆ rows :=
      fun _ member => (List.mem_filter.mp member).1
    have member : old ∈ rows.filter gone :=
      whole ▸ List.mem_append_right _ List.mem_cons_self
    rcases List.mem_filter.mp member with ⟨inRows, goes⟩
    have waits : old ∈ rows.filter fun other => key other ∉ done.map key := by
      apply List.mem_filter.mpr
      refine ⟨inRows, decide_eq_true ?_⟩
      intro earlier
      rw [← whole, List.map_append, List.map_cons, List.nodup_append] at keys
      exact keys.2.2 _ earlier _ List.mem_cons_self rfl
    have guarded := guards _ remaining old waits goes here
    have stepped : (state (rows.filter fun other => key other ∉ done.map key)).write
        (.delete (row old)) =
          state (rows.filter fun other => key other ∉ (done ++ [old]).map key) := by
      rw [deletes _ remaining old waits goes, List.filter_filter]
      congr 1
      apply List.filter_congr
      intro other _
      rw [List.map_append, List.map_singleton, ← Bool.decide_and, decide_eq_decide,
        List.mem_append, List.mem_singleton, not_or]
      exact and_comm
    exact ⟨guarded, by simpa using whole, stepped, guarded.constraints⟩
  have loop := GuardedStore.admits_map (Deleting key state rows (rows.filter gone)) round
    ⟨List.nil_append _, by simp, start⟩
  rw [← filter_key_notMem nodup gone]
  exact ⟨loop.1, loop.2.here⟩

end RollingBudget
