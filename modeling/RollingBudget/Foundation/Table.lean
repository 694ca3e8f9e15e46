import Mathlib

namespace RollingBudget.Table

/-! Database tables as lists of rows. A primary or unique key is a projection
whose images are pairwise distinct; lookups by such a key behave as partial functions. -/

variable {α : Type*} {β : Type*} {κ : Type*} [DecidableEq κ]

/-- The row with the given key, as `session.get` returns it. -/
def get (key : α → κ) (rows : List α) (wanted : κ) : Option α :=
  rows.find? fun row => key row = wanted

/-- Assign attributes of the rows with the given key. -/
def modify (key : α → κ) (wanted : κ) (change : α → α) (rows : List α) : List α :=
  rows.map fun row => if key row = wanted then change row else row

/-! ## Lookups -/

section Get

variable {key : α → κ} {rows : List α} {row : α} {wanted : κ}

theorem mem_of_get (found : get key rows wanted = some row) : row ∈ rows :=
  List.mem_of_find?_eq_some found

theorem key_of_get (found : get key rows wanted = some row) : key row = wanted := by
  simpa using List.find?_some found

theorem get_eq_none_iff : get key rows wanted = none ↔ ∀ row ∈ rows, key row ≠ wanted := by
  simp [get]

theorem get_of_mem (nodup : (rows.map key).Nodup) (member : row ∈ rows) :
    get key rows (key row) = some row := by
  cases found : get key rows (key row) with
  | none => exact absurd rfl (get_eq_none_iff.mp found row member)
  | some other =>
      rw [List.inj_on_of_nodup_map nodup (mem_of_get found) member (key_of_get found)]

theorem get_eq_some_iff (nodup : (rows.map key).Nodup) :
    get key rows wanted = some row ↔ row ∈ rows ∧ key row = wanted := by
  constructor
  · intro found
    exact ⟨mem_of_get found, key_of_get found⟩
  · rintro ⟨member, rfl⟩
    exact get_of_mem nodup member

theorem get_append_of_some (more : List α) (found : get key rows wanted = some row) :
    get key (rows ++ more) wanted = some row := by
  unfold get at found ⊢
  rw [List.find?_append, found]
  rfl

theorem get_append_of_none (more : List α) (missing : get key rows wanted = none) :
    get key (rows ++ more) wanted = get key more wanted := by
  unfold get at missing ⊢
  rw [List.find?_append, missing]
  rfl

end Get

/-! ## Updates -/

section Modify

variable {key : α → κ} {rows : List α} {row : α} {wanted : κ} {change : α → α}

theorem mem_modify :
    row ∈ modify key wanted change rows ↔
      (row ∈ rows ∧ key row ≠ wanted) ∨
        ∃ old ∈ rows, key old = wanted ∧ row = change old := by
  simp only [modify, List.mem_map]
  constructor
  · rintro ⟨old, member, equal⟩
    split at equal
    · next here => exact Or.inr ⟨old, member, here, equal.symm⟩
    · next elsewhere =>
      subst equal
      exact Or.inl ⟨member, elsewhere⟩
  · rintro (⟨member, elsewhere⟩ | ⟨old, member, here, equal⟩)
    · exact ⟨row, member, by simp [elsewhere]⟩
    · exact ⟨old, member, by simp [here, equal]⟩

/-- Every row of the new table comes from a row that it is related to. -/
theorem exists_of_mem_modify {related : α → α → Prop} (refl : ∀ row, related row row)
    (changed : ∀ row, related row (change row)) (member : row ∈ modify key wanted change rows) :
    ∃ old ∈ rows, related old row := by
  rcases mem_modify.mp member with ⟨before, _⟩ | ⟨old, before, _, rfl⟩
  · exact ⟨row, before, refl row⟩
  · exact ⟨old, before, changed old⟩

/-- Every row of the old table becomes a row that it is related to. -/
theorem exists_mem_modify {related : α → α → Prop} (refl : ∀ row, related row row)
    (changed : ∀ row, related row (change row)) (member : row ∈ rows) :
    ∃ new ∈ modify key wanted change rows, related row new := by
  by_cases here : key row = wanted
  · exact ⟨change row, mem_modify.mpr (Or.inr ⟨row, member, here, rfl⟩), changed row⟩
  · exact ⟨row, mem_modify.mpr (Or.inl ⟨member, here⟩), refl row⟩

/-- A projection that the change keeps is kept in the whole table. -/
theorem map_modify (project : α → β) (keeps : ∀ row, project (change row) = project row) :
    (modify key wanted change rows).map project = rows.map project := by
  simp only [modify, List.map_map]
  apply List.map_congr_left
  intro row _
  simp only [Function.comp_apply]
  split
  · exact keeps row
  · rfl

theorem nodup_map_modify {project : α → β} (keeps : ∀ row, project (change row) = project row)
    (nodup : (rows.map project).Nodup) :
    ((modify key wanted change rows).map project).Nodup := by
  rw [map_modify project keeps]
  exact nodup

/-- Rows changed in place are found under the keys they had. -/
theorem get_map {transform : α → α} (keeps : ∀ row, key (transform row) = key row) (other : κ) :
    get key (rows.map transform) other = (get key rows other).map transform := by
  induction rows with
  | nil => rfl
  | cons head tail induction =>
      unfold get at induction ⊢
      simp only [List.map_cons, List.find?_cons]
      rw [keeps head]
      by_cases here : key head = other
      · simp only [here, decide_true, Option.map_some]
      · simp only [here, decide_false]
        exact induction

theorem modify_eq_map :
    modify key wanted change rows =
      rows.map fun row => if key row = wanted then change row else row := rfl

theorem key_ite (keeps : ∀ row, key (change row) = key row) (row : α) :
    key (if key row = wanted then change row else row) = key row := by
  split
  · exact keeps row
  · rfl

theorem get_modify (keeps : ∀ row, key (change row) = key row) (other : κ) :
    get key (modify key wanted change rows) other =
      (get key rows other).map fun row => if other = wanted then change row else row := by
  rw [modify_eq_map, get_map (key_ite keeps)]
  cases found : get key rows other with
  | none => rfl
  | some row =>
      have here := key_of_get found
      simp only [Option.map_some, here]

theorem get_modify_other (keeps : ∀ row, key (change row) = key row) {other : κ}
    (different : other ≠ wanted) :
    get key (modify key wanted change rows) other = get key rows other := by
  rw [get_modify keeps]
  simp [different]

theorem modify_of_forall_ne (absent : ∀ row ∈ rows, key row ≠ wanted) :
    modify key wanted change rows = rows := by
  unfold modify
  rw [List.map_congr_left (g := id)]
  · simp
  · intro row member
    simp [absent row member]

/-- A change to rows outside a condition that leaves them outside is not seen under it. -/
theorem filter_modify {keep : α → Bool}
    (before : ∀ row ∈ rows, key row = wanted → keep row = false)
    (after : ∀ row ∈ rows, key row = wanted → keep (change row) = false) :
    (modify key wanted change rows).filter keep = rows.filter keep := by
  induction rows with
  | nil => rfl
  | cons head tail induction =>
      have tailEq := induction (fun row member => before row (List.mem_cons_of_mem _ member))
        fun row member => after row (List.mem_cons_of_mem _ member)
      rw [modify_eq_map] at tailEq ⊢
      rw [List.map_cons, List.filter_cons, List.filter_cons, tailEq]
      by_cases here : key head = wanted
      · rw [if_pos here, after head List.mem_cons_self here, before head List.mem_cons_self here]
        rfl
      · rw [if_neg here]

/-- A row that starts to satisfy a condition joins the rows that do. -/
theorem perm_filter_modify {keep : α → Bool} (nodup : (rows.map key).Nodup) (member : row ∈ rows)
    (before : keep row = false) (after : keep (change row) = true) :
    ((modify key (key row) change rows).filter keep).Perm (change row :: rows.filter keep) := by
  induction rows with
  | nil => cases member
  | cons head tail induction =>
      rcases List.nodup_cons.mp nodup with ⟨distinct, tailNodup⟩
      have unfolded : modify key (key row) change (head :: tail) =
          (if key head = key row then change head else head) ::
            modify key (key row) change tail := rfl
      rw [unfolded]
      by_cases here : key head = key row
      · have same : head = row := List.inj_on_of_nodup_map nodup (by simp) member here
        subst same
        have rest : modify key (key head) change tail = tail := by
          refine modify_of_forall_ne fun other otherMember equal => distinct ?_
          rw [← equal]
          exact List.mem_map_of_mem otherMember
        rw [if_pos rfl, rest, List.filter_cons, if_pos after, List.filter_cons,
          if_neg (by simp [before])]
      · have inTail : row ∈ tail := by
          rcases List.mem_cons.mp member with same | later
          · exact absurd (congrArg key same.symm) here
          · exact later
        have tailPerm := induction tailNodup inTail
        rw [if_neg here, List.filter_cons, List.filter_cons]
        split
        · exact (tailPerm.cons head).trans (List.Perm.swap ..)
        · exact tailPerm

/-- Changes that are made one after the other, one for each row, change each row once. -/
theorem foldl_modify {target : β → κ} {assign : β → α → α} {written : α → β}
    (nodup : (rows.map key).Nodup) (targets : ∀ row ∈ rows, target (written row) = key row)
    (keeps : ∀ value row, key (assign value row) = key row) :
    (rows.map written).foldl (fun table value => modify key (target value) (assign value) table)
        rows = rows.map fun row => assign (written row) row := by
  -- The rows before the current one are written, and those after it are as they were.
  have general : ∀ rest done, done ++ rest = rows →
      (rest.map written).foldl (fun table value => modify key (target value) (assign value) table)
        (done.map (fun row => assign (written row) row) ++ rest) =
          rows.map fun row => assign (written row) row := by
    intro rest
    induction rest with
    | nil =>
        intro done whole
        rw [List.append_nil] at whole
        rw [List.map_nil, List.foldl_nil, List.append_nil, whole]
    | cons row rest induction =>
        intro done whole
        have target_eq : target (written row) = key row := targets row (by simp [← whole])
        rw [← whole, List.map_append, List.map_cons, List.nodup_append, List.nodup_cons] at nodup
        rcases nodup with ⟨_, ⟨fresh, _⟩, disjoint⟩
        have before : ∀ other ∈ done.map (fun row => assign (written row) row),
            key other ≠ key row := by
          intro other member
          rcases List.mem_map.mp member with ⟨old, oldMember, rfl⟩
          rw [keeps]
          exact disjoint _ (List.mem_map_of_mem oldMember) _ List.mem_cons_self
        have after : ∀ other ∈ rest, key other ≠ key row := by
          intro other member equal
          exact fresh (by rw [← equal]; exact List.mem_map_of_mem member)
        have stepped : modify key (key row) (assign (written row))
            (done.map (fun row => assign (written row) row) ++ row :: rest) =
              (done ++ [row]).map (fun row => assign (written row) row) ++ rest := by
          have split : ∀ left right : List α, modify key (key row) (assign (written row))
              (left ++ right) = modify key (key row) (assign (written row)) left ++
                modify key (key row) (assign (written row)) right := fun _ _ => List.map_append
          have single : modify key (key row) (assign (written row)) [row] =
              [assign (written row) row] := by
            simp [modify]
          rw [split, modify_of_forall_ne before, ← List.singleton_append, split, single,
            modify_of_forall_ne after, List.map_append]
          simp
        rw [List.map_cons, List.foldl_cons, target_eq, stepped]
        exact induction (done ++ [row]) (by simpa using whole)
  exact general rows [] rfl

end Modify

/-! ## Keys -/

omit [DecidableEq κ] in
/-- A key stays unique under another one that tells the rows apart as well. -/
theorem nodup_map_of_separates {key : α → κ} {other : α → β} {rows : List α}
    (nodup : (rows.map key).Nodup)
    (separates : ∀ left ∈ rows, ∀ right ∈ rows, other left = other right → key left = key right) :
    (rows.map other).Nodup := by
  apply List.Nodup.map_on _ (List.Nodup.of_map key nodup)
  intro left leftMember right rightMember equal
  exact List.inj_on_of_nodup_map nodup leftMember rightMember
    (separates left leftMember right rightMember equal)

/-! ## Inserting rows -/

omit [DecidableEq κ] in
theorem nodup_map_concat {key : α → κ} {rows : List α} {row : α}
    (nodup : (rows.map key).Nodup) (fresh : ∀ old ∈ rows, key old ≠ key row) :
    ((rows ++ [row]).map key).Nodup := by
  rw [List.map_append, List.nodup_append]
  refine ⟨nodup, by simp, ?_⟩
  intro first firstMem second secondMem equal
  rcases List.mem_map.mp firstMem with ⟨old, oldMem, rfl⟩
  simp only [List.map_cons, List.map_nil, List.mem_singleton] at secondMem
  exact fresh old oldMem (equal.trans secondMem)

/-- A number above every number in use. -/
def freshId (used : List Nat) : Nat := used.foldr max 0 + 1

theorem lt_freshId {used : List Nat} {number : Nat} (member : number ∈ used) :
    number < freshId used := by
  unfold freshId
  induction used with
  | nil => cases member
  | cons head tail induction =>
      simp only [List.foldr_cons]
      rcases List.mem_cons.mp member with rfl | later
      · omega
      · have := induction later
        omega

theorem lt_freshId_map {key : α → Nat} {rows : List α} {row : α} (member : row ∈ rows) :
    key row < freshId (rows.map key) :=
  lt_freshId (List.mem_map_of_mem member)

theorem ne_freshId_map {key : α → Nat} {rows : List α} {row : α} (member : row ∈ rows) :
    key row ≠ freshId (rows.map key) :=
  Nat.ne_of_lt (lt_freshId_map member)

theorem freshId_range' (count : Nat) : freshId (List.range' 1 count) = count + 1 := by
  have bound : ∀ start, (List.range' start count).foldr max 0 =
      if count = 0 then 0 else start + count - 1 := by
    induction count with
    | zero => simp
    | succ count induction =>
        intro start
        rw [List.range'_succ, List.foldr_cons, induction]
        by_cases none : count = 0
        · simp [none]
        · simp only [none, if_false, Nat.add_one_ne_zero]
          omega
  unfold freshId
  rw [bound]
  split <;> omega

end RollingBudget.Table
