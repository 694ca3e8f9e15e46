import RollingBudget.Migrations.SingleUserTables

namespace RollingBudget.SingleUser

/-! What inserting, replacing and deleting rows leaves of the checks, the keys and the foreign
keys of a table. -/

variable {α β κ : Type} {checks : α → Prop} {key : α → κ} {rows : List α} {row : α}

/-! ## Replacing a row -/

section Replace

variable [DecidableEq κ]

/-- An `UPDATE` of the row with the key of `row`. -/
abbrev replace (key : α → κ) (row : α) (rows : List α) : List α :=
  Table.modify key (key row) (fun _ => row) rows

/-- A column that the new row has in common with the old one stays as it is. -/
theorem map_replace {other : α → β}
    (same : ∀ old ∈ rows, key old = key row → other old = other row) :
    (replace key row rows).map other = rows.map other := by
  unfold replace Table.modify
  rw [List.map_map]
  apply List.map_congr_left
  intro old member
  show other (if key old = key row then row else old) = other old
  by_cases here : key old = key row
  · rw [if_pos here, same old member here]
  · rw [if_neg here]

theorem mem_replace {other : α} (member : other ∈ replace key row rows) :
    other = row ∨ other ∈ rows := by
  rcases List.mem_map.mp member with ⟨old, oldMember, rfl⟩
  by_cases here : key old = key row
  · left
    exact if_pos here
  · right
    rw [if_neg here]
    exact oldMember

theorem mem_replace_self {old : α} (member : old ∈ rows) (same : key old = key row) :
    row ∈ replace key row rows :=
  List.mem_map.mpr ⟨old, member, if_pos same⟩

/-- The second of two updates of a row wins. -/
theorem replace_replace {first : α} (same : key first = key row) :
    replace key row (replace key first rows) = replace key row rows := by
  unfold replace Table.modify
  rw [List.map_map]
  apply List.map_congr_left
  intro old _
  show (if key (if key old = key first then first else old) = key row then row else
    if key old = key first then first else old) = if key old = key row then row else old
  by_cases here : key old = key row
  · rw [if_pos (here.trans same.symm), if_pos same, if_pos here]
  · have other : key old ≠ key first := fun equal => here (equal.trans same)
    rw [if_neg other, if_neg here]

theorem map_subset_replace {other : α → β}
    (same : ∀ old ∈ rows, key old = key row → other old = other row) :
    rows.map other ⊆ (replace key row rows).map other := by
  rw [map_replace same]
  exact List.Subset.refl _

end Replace

/-! ## Checks and primary keys -/

namespace Admits

theorem concat (admits : Admits checks key rows) (checked : checks row)
    (fresh : ∀ old ∈ rows, key old ≠ key row) : Admits checks key (rows ++ [row]) := by
  constructor
  · intro other member
    rcases List.mem_append.mp member with earlier | last
    · exact admits.1 other earlier
    · rw [List.mem_singleton.mp last]
      exact checked
  · exact Table.nodup_map_concat admits.2 fresh

theorem replace [DecidableEq κ] (admits : Admits checks key rows) (checked : checks row) :
    Admits checks key (replace key row rows) := by
  constructor
  · intro other member
    rcases mem_replace member with same | earlier
    · rw [same]
      exact checked
    · exact admits.1 other earlier
  · rw [map_replace fun old _ here => here]
    exact admits.2

theorem filter (admits : Admits checks key rows) (keep : α → Bool) :
    Admits checks key (rows.filter keep) := by
  constructor
  · intro other member
    exact admits.1 other (List.mem_filter.mp member).1
  · exact admits.2.sublist (List.filter_sublist.map key)

end Admits

theorem nodup_filter {other : α → β} (nodup : (rows.map other).Nodup) (keep : α → Bool) :
    ((rows.filter keep).map other).Nodup :=
  nodup.sublist (List.filter_sublist.map other)

/-! ## Foreign keys -/

namespace Refers

variable {owners owners' : List β} {ownerKey : β → κ} {rows' : List α}

theorem concat (refers : Refers rows key owners ownerKey)
    (parent : key row ∈ owners.map ownerKey) :
    Refers (rows ++ [row]) key owners ownerKey := by
  intro other member
  rcases List.mem_append.mp member with earlier | last
  · exact refers other earlier
  · rw [List.mem_singleton.mp last]
    exact parent

/-- Fewer references, or more parents. -/
theorem mono (refers : Refers rows key owners ownerKey)
    (fewer : rows'.map key ⊆ rows.map key)
    (more : owners.map ownerKey ⊆ owners'.map ownerKey) :
    Refers rows' key owners' ownerKey := by
  intro row member
  rcases List.mem_map.mp (fewer (List.mem_map_of_mem member)) with ⟨old, oldMember, same⟩
  rw [← same]
  exact more (refers old oldMember)

theorem grow (refers : Refers rows key owners ownerKey)
    (more : owners.map ownerKey ⊆ owners'.map ownerKey) :
    Refers rows key owners' ownerKey :=
  refers.mono (List.Subset.refl _) more

theorem filter (refers : Refers rows key owners ownerKey) (keep : α → Bool) :
    Refers (rows.filter keep) key owners ownerKey := by
  intro row member
  exact refers row (List.mem_filter.mp member).1

end Refers

/-- New parents only add to what may be referred to. -/
theorem map_subset_concat (key : α → κ) (rows : List α) (row : α) :
    rows.map key ⊆ (rows ++ [row]).map key := by
  rw [List.map_append]
  exact List.subset_append_left _ _

end RollingBudget.SingleUser
