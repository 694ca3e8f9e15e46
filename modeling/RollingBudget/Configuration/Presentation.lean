import RollingBudget.Configuration.Selection

namespace RollingBudget

open Sorting ConfigService

/-! Publishing display and budget fields: one loop over the items of a snapshot, whose
effect on each category row depends on that row's key only. -/

variable {environment : Environment} {tables after : ConfigTables}

def presentAll (tables : ConfigTables) (items : List CategoryConfigInput) : ConfigTables :=
  items.foldl presentItem tables

/-- What the whole loop does to one row. -/
def presentedBy (items : List CategoryConfigInput) (category : Category) : Category :=
  match Table.get CategoryConfigInput.key items category.key with
  | some item => present item category
  | none => category

@[simp] theorem id_presentedBy (items : List CategoryConfigInput) (category : Category) :
    (presentedBy items category).id = category.id := by
  unfold presentedBy
  split <;> rfl

@[simp] theorem key_presentedBy (items : List CategoryConfigInput) (category : Category) :
    (presentedBy items category).key = category.key := by
  unfold presentedBy
  split <;> rfl

theorem presentedBy_of_mem {items : List CategoryConfigInput}
    (nodup : (items.map CategoryConfigInput.key).Nodup) {item : CategoryConfigInput}
    (member : item ∈ items) {category : Category} (key : category.key = item.key) :
    presentedBy items category = present item category := by
  unfold presentedBy
  rw [key, Table.get_of_mem nodup member]

theorem presentAll_eq {items : List CategoryConfigInput}
    (nodup : (items.map CategoryConfigInput.key).Nodup) (tables : ConfigTables) :
    presentAll tables items =
      { tables with categories := tables.categories.map (presentedBy items) } := by
  induction items generalizing tables with
  | nil =>
      have unchanged : presentedBy [] = id := rfl
      simp [presentAll, unchanged]
  | cons item items induction =>
      rcases List.nodup_cons.mp nodup with ⟨distinct, rest⟩
      have compose : presentedBy (item :: items) = presentedBy items ∘ fun category =>
          if category.key = item.key then present item category else category := by
        funext category
        by_cases here : category.key = item.key
        · have absent : Table.get CategoryConfigInput.key items category.key = none := by
            apply Table.get_eq_none_iff.mpr
            intro other member equal
            exact distinct (here ▸ equal ▸ List.mem_map_of_mem member)
          have kept : presentedBy items (present item category) = present item category := by
            unfold presentedBy
            rw [show (present item category).key = category.key from rfl, absent]
          rw [Function.comp_apply, if_pos here, kept]
          simp [presentedBy, Table.get, here]
        · have different : item.key ≠ category.key := fun equal => here equal.symm
          simp [presentedBy, Table.get, here, different]
      rw [presentAll, List.foldl_cons]
      change presentAll (presentItem tables item) items = _
      rw [induction rest, compose, ← List.map_map]
      rfl

/-- The loop of `publishEdits`. -/
theorem publishEdits_eq {now : Datetime} {active : ConfigVersion} {request : ConfigPutRequest}
    (completed : publishEdits now tables active request = .ok after) :
    after = presentAll (supersedePending now tables) request.categories :=
  Outcome.eq_foldl_of_guarded completed

theorem publishEdits_ok {now : Datetime} {active : ConfigVersion} {request : ConfigPutRequest}
    (keys : ∀ key ∈ request.keys,
      key ∈ (rulesForConfig tables active.id).map fun row => row.category.key) :
    publishEdits now tables active request =
      .ok (presentAll (supersedePending now tables) request.categories) := by
  refine Outcome.guarded_eq_ok (fun _ => True) trivial ?_
  intro state item member _
  refine ⟨?_, trivial⟩
  have present := keys item.key (List.mem_map_of_mem member)
  rcases List.mem_map.mp present with ⟨row, rowMember, rowKey⟩
  cases found : Table.get (fun row : LinkedRule => row.category.key)
      (rulesForConfig tables active.id) item.key with
  | none => exact absurd rowKey (Table.get_eq_none_iff.mp found row rowMember)
  | some row => exact ⟨row, rfl⟩

theorem applyConfigPresentation_eq {config : ConfigVersion}
    (completed : applyConfigPresentation tables config = .ok after) :
    ∃ snapshot, editableSnapshotForConfig tables config = .ok snapshot ∧
      after = presentAll tables snapshot.categories := by
  rcases Outcome.bind_eq_ok.mp completed with ⟨snapshot, read, loop⟩
  exact ⟨snapshot, read, Outcome.eq_foldl_of_guarded loop⟩

/-- `present` keeps rows published when the item is valid and has their key. -/
theorem Category.Published.presentedBy {items : List CategoryConfigInput}
    (valid : ∀ item ∈ items, item.Valid) {category : Category}
    (published : category.Published) : (presentedBy items category).Published := by
  unfold RollingBudget.presentedBy
  split
  · next item found =>
    exact ⟨item, valid item (Table.mem_of_get found), Table.key_of_get found, rfl⟩
  · exact published

/-! ## What later sessions read -/

/-- A category row as a later session reads it. -/
def reloaded (environment : Environment) (category : Category) : Category :=
  { category with budgetLimit := Money.reload environment.dialect category.budgetLimit }

theorem Category.Published.admitted {category : Category} (published : category.Published) :
    category.budgetLimit.Admitted := by
  rcases published with ⟨item, valid, _, equal⟩
  rw [← equal]
  exact valid.budgetLimit

theorem Category.Published.reloaded {category : Category} (published : category.Published) :
    (reloaded environment category).Published := by
  have admitted := Money.admitted_reload environment.dialect published.admitted
  rcases published with ⟨item, valid, key, equal⟩
  refine ⟨{ item with budgetLimit := Money.reload environment.dialect category.budgetLimit },
    { valid with stripped := ?_, budgetLimit := admitted }, key, ?_⟩
  · have stripped := valid.stripped
    simp only [CategoryConfigInput.normalize, CategoryConfigInput.mk.injEq] at stripped ⊢
    cases item
    simp_all
  · rw [← equal]
    rfl

/-- Reading a stored row again gives the same row. -/
theorem reloaded_reloaded {category : Category} (published : category.Published) :
    reloaded environment (reloaded environment category) = reloaded environment category := by
  have again := Money.reload_reload environment.dialect published.admitted
  simp only [reloaded, again]

end RollingBudget
