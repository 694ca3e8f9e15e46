import Mathlib

namespace RollingBudget.Sorting

/-! Python's `sorted` with a key. The sort is stable, and for rows with
distinct keys its result depends only on which rows there are. -/

variable {α : Type*} {β : Type*} {κ : Type*} [LinearOrder κ]

/-- `sorted(rows, key=key)`. -/
def sortedOn (key : α → κ) (rows : List α) : List α :=
  rows.insertionSort fun left right => key left ≤ key right

theorem perm_sortedOn (key : α → κ) (rows : List α) : (sortedOn key rows).Perm rows :=
  List.perm_insertionSort _ rows

@[simp] theorem mem_sortedOn {key : α → κ} {rows : List α} {row : α} :
    row ∈ sortedOn key rows ↔ row ∈ rows :=
  (perm_sortedOn key rows).mem_iff

@[simp] theorem length_sortedOn (key : α → κ) (rows : List α) :
    (sortedOn key rows).length = rows.length :=
  (perm_sortedOn key rows).length_eq

@[simp] theorem sortedOn_nil (key : α → κ) : sortedOn key [] = [] := rfl

theorem pairwise_sortedOn (key : α → κ) (rows : List α) :
    (sortedOn key rows).Pairwise fun left right => key left ≤ key right := by
  have total : Std.Total fun left right : α => key left ≤ key right :=
    ⟨fun left right => le_total (key left) (key right)⟩
  have transitive : IsTrans α fun left right => key left ≤ key right :=
    ⟨fun _ _ _ first second => le_trans first second⟩
  exact List.pairwise_insertionSort _ rows

/-- Sorting a sorted list changes nothing. -/
theorem sortedOn_sortedOn (key : α → κ) (rows : List α) :
    sortedOn key (sortedOn key rows) = sortedOn key rows :=
  (pairwise_sortedOn key rows).insertionSort_eq

/-- The order in which rows with distinct keys arrive does not matter. -/
theorem sortedOn_eq_of_perm (key : α → κ) {left right : List α}
    (perm : left.Perm right) (nodup : (left.map key).Nodup) :
    sortedOn key left = sortedOn key right := by
  have sortedPerm : (sortedOn key left).Perm (sortedOn key right) :=
    (perm_sortedOn key left).trans (perm.trans (perm_sortedOn key right).symm)
  apply List.Perm.eq_of_pairwise _ (pairwise_sortedOn key left)
    (pairwise_sortedOn key right) sortedPerm
  intro first second firstMem secondMem firstLe secondLe
  have inLeft : first ∈ left := mem_sortedOn.mp firstMem
  have alsoLeft : second ∈ left := perm.mem_iff.mpr (mem_sortedOn.mp secondMem)
  exact List.inj_on_of_nodup_map nodup inLeft alsoLeft (le_antisymm firstLe secondLe)

/-- Sorting commutes with a map that keeps the key. -/
theorem map_sortedOn (transform : α → β) (source : α → κ) (target : β → κ)
    (keeps : ∀ row, target (transform row) = source row) (rows : List α) :
    (sortedOn source rows).map transform = sortedOn target (rows.map transform) := by
  unfold sortedOn
  apply List.map_insertionSort
  intro first _ second _
  rw [keeps, keeps]

/-- Equal sorted lists hold the same rows. -/
theorem perm_of_sortedOn_eq {key : α → κ} {left right : List α}
    (equal : sortedOn key left = sortedOn key right) : left.Perm right := by
  have leftPerm := perm_sortedOn key left
  rw [equal] at leftPerm
  exact leftPerm.symm.trans (perm_sortedOn key right)

end RollingBudget.Sorting
