import RollingBudget.Configuration.Snapshots

namespace RollingBudget

open Sorting ConfigService

/-! Which versions are active and pending. Nothing but the interplay of the writes
keeps the pending version unique. -/

structure Shape (versions : List ConfigVersion) : Prop where
  oneActive : ∀ left ∈ versions, ∀ right ∈ versions,
    left.status = .active → right.status = .active → left = right
  onePending : ∀ left ∈ versions, ∀ right ∈ versions,
    left.status = .pending → right.status = .pending → left = right
  someActive : versions ≠ [] → ∃ config ∈ versions, config.status = .active
  pendingLater : ∀ active ∈ versions, ∀ pending ∈ versions,
    active.status = .active → pending.status = .pending →
      active.version < pending.version ∧ active.configHash ≠ pending.configHash

/-- A pending version is superseded. -/
def withdraw (now : Datetime) (config : ConfigVersion) : ConfigVersion :=
  if config.status = .pending then
    { config with status := .superseded, supersededAt := some now }
  else config

/-- The pending version becomes active and the active one superseded. -/
def promote (now : Datetime) (config : ConfigVersion) : ConfigVersion :=
  match config.status with
  | .pending => { config with status := .active, activatedAt := some now }
  | .active => { config with status := .superseded, supersededAt := some now }
  | .superseded => config

@[simp] theorem frozen_withdraw (now : Datetime) (config : ConfigVersion) :
    (withdraw now config).frozen = config.frozen := by
  unfold withdraw
  split <;> rfl

@[simp] theorem frozen_promote (now : Datetime) (config : ConfigVersion) :
    (promote now config).frozen = config.frozen := by
  unfold promote
  split <;> rfl

variable {tables : ConfigTables} {versions : List ConfigVersion} {now : Datetime}

theorem withdraw_of_ne {config : ConfigVersion} (other : config.status ≠ .pending) :
    withdraw now config = config :=
  if_neg other

theorem status_withdraw_ne (config : ConfigVersion) : (withdraw now config).status ≠ .pending := by
  unfold withdraw
  split
  · simp
  · next other => exact other

theorem withdraw_of_active {config : ConfigVersion}
    (active : (withdraw now config).status = .active) : withdraw now config = config := by
  unfold withdraw at active ⊢
  split
  · next pending =>
    rw [if_pos pending] at active
    cases active
  · rfl

theorem status_promote_ne (config : ConfigVersion) : (promote now config).status ≠ .pending := by
  unfold promote
  cases status : config.status <;> simp [status]

theorem pending_of_promote_active {config : ConfigVersion}
    (active : (promote now config).status = .active) : config.status = .pending := by
  unfold promote at active
  cases status : config.status with
  | pending => rfl
  | active => simp [status] at active
  | superseded => simp [status] at active

/-! ## Lookups -/

namespace Shape

theorem active_eq (shape : Shape tables.configVersions) {config : ConfigVersion}
    (member : config ∈ tables.configVersions) (active : config.status = .active) :
    tables.active = some config := by
  cases found : tables.active with
  | none =>
      have absent := List.find?_eq_none.mp found config member
      simp [active] at absent
  | some other =>
      rcases ConfigTables.active_mem found with ⟨otherMember, otherActive⟩
      rw [shape.oneActive other otherMember config member otherActive active]

theorem pending_eq (shape : Shape tables.configVersions) {config : ConfigVersion}
    (member : config ∈ tables.configVersions) (pending : config.status = .pending) :
    tables.pending = some config := by
  cases found : tables.pending with
  | none =>
      have empty := List.head?_eq_none_iff.mp found
      have inSorted : config ∈ sortedOn
          (fun config : ConfigVersion => OrderDual.toDual config.version)
          (tables.configVersions.filter fun config => config.status = .pending) :=
        mem_sortedOn.mpr (by simp [member, pending])
      rw [empty] at inSorted
      cases inSorted
  | some other =>
      rcases ConfigTables.pending_mem found with ⟨otherMember, otherPending⟩
      rw [shape.onePending other otherMember config member otherPending pending]

end Shape

theorem ConfigTables.pending_eq_none_iff :
    tables.pending = none ↔ ∀ config ∈ tables.configVersions, config.status ≠ .pending := by
  unfold ConfigTables.pending
  rw [List.head?_eq_none_iff, ← List.length_eq_zero_iff, length_sortedOn,
    List.length_eq_zero_iff, List.filter_eq_nil_iff]
  simp

theorem ConfigTables.active_eq_none_iff :
    tables.active = none ↔ ∀ config ∈ tables.configVersions, config.status ≠ .active := by
  unfold ConfigTables.active
  rw [List.find?_eq_none]
  simp

theorem Shape.eq_nil_of_active_eq_none (shape : Shape tables.configVersions)
    (missing : tables.active = none) : tables.configVersions = [] := by
  by_contra nonempty
  rcases shape.someActive nonempty with ⟨config, member, active⟩
  exact ConfigTables.active_eq_none_iff.mp missing config member active

/-! ## Transitions -/

namespace Shape

theorem nil : Shape [] := by
  constructor <;> simp

theorem first {config : ConfigVersion} (active : config.status = .active) : Shape [config] := by
  refine ⟨?_, ?_, ?_, ?_⟩
  · simp
  · simp
  · simp [active]
  · simp [active]

theorem withdraw (shape : Shape versions) (now : Datetime) :
    Shape (versions.map (withdraw now)) := by
  refine ⟨?_, ?_, ?_, ?_⟩
  · intro left leftMember right rightMember leftActive rightActive
    rcases List.mem_map.mp leftMember with ⟨first, firstMember, rfl⟩
    rcases List.mem_map.mp rightMember with ⟨second, secondMember, rfl⟩
    have leftSame := withdraw_of_active leftActive
    have rightSame := withdraw_of_active rightActive
    rw [leftSame] at leftActive ⊢
    rw [rightSame] at rightActive ⊢
    exact shape.oneActive first firstMember second secondMember leftActive rightActive
  · intro left leftMember right _ leftPending
    rcases List.mem_map.mp leftMember with ⟨first, _, rfl⟩
    exact absurd leftPending (status_withdraw_ne first)
  · intro nonempty
    rcases shape.someActive (by simpa using nonempty) with ⟨config, member, active⟩
    refine ⟨config, List.mem_map.mpr ⟨config, member, withdraw_of_ne ?_⟩, active⟩
    simp [active]
  · intro active _ pending pendingMember _ isPending
    rcases List.mem_map.mp pendingMember with ⟨row, _, rfl⟩
    exact absurd isPending (status_withdraw_ne row)

theorem promote (shape : Shape versions) (now : Datetime) {target : ConfigVersion}
    (member : target ∈ versions) (pending : target.status = .pending) :
    Shape (versions.map (promote now)) := by
  refine ⟨?_, ?_, ?_, ?_⟩
  · intro left leftMember right rightMember leftActive rightActive
    rcases List.mem_map.mp leftMember with ⟨first, firstMember, rfl⟩
    rcases List.mem_map.mp rightMember with ⟨second, secondMember, rfl⟩
    rw [shape.onePending first firstMember second secondMember
      (pending_of_promote_active leftActive) (pending_of_promote_active rightActive)]
  · intro left leftMember right _ leftPending
    rcases List.mem_map.mp leftMember with ⟨first, _, rfl⟩
    exact absurd leftPending (status_promote_ne first)
  · intro _
    refine ⟨RollingBudget.promote now target, List.mem_map_of_mem member, ?_⟩
    simp [RollingBudget.promote, pending]
  · intro active _ other otherMember _ isPending
    rcases List.mem_map.mp otherMember with ⟨row, _, rfl⟩
    exact absurd isPending (status_promote_ne row)

theorem concat (shape : Shape versions) (nonempty : versions ≠ [])
    (noPending : ∀ config ∈ versions, config.status ≠ .pending) {config : ConfigVersion}
    (pending : config.status = .pending)
    (later : ∀ active ∈ versions, active.status = .active →
      active.version < config.version ∧ active.configHash ≠ config.configHash) :
    Shape (versions ++ [config]) := by
  refine ⟨?_, ?_, ?_, ?_⟩
  · intro left leftMember right rightMember leftActive rightActive
    rcases List.mem_append.mp leftMember with leftOld | leftNew
    · rcases List.mem_append.mp rightMember with rightOld | rightNew
      · exact shape.oneActive left leftOld right rightOld leftActive rightActive
      · rw [List.mem_singleton.mp rightNew, pending] at rightActive
        cases rightActive
    · rw [List.mem_singleton.mp leftNew, pending] at leftActive
      cases leftActive
  · intro left leftMember right rightMember leftPending rightPending
    rcases List.mem_append.mp leftMember with leftOld | leftNew
    · exact absurd leftPending (noPending left leftOld)
    · rcases List.mem_append.mp rightMember with rightOld | rightNew
      · exact absurd rightPending (noPending right rightOld)
      · rw [List.mem_singleton.mp leftNew, List.mem_singleton.mp rightNew]
  · intro _
    rcases shape.someActive nonempty with ⟨active, member, isActive⟩
    exact ⟨active, List.mem_append_left _ member, isActive⟩
  · intro active activeMember other otherMember isActive isPending
    rcases List.mem_append.mp otherMember with old | new
    · exact absurd isPending (noPending other old)
    · rcases List.mem_append.mp activeMember with activeOld | activeNew
      · rw [List.mem_singleton.mp new]
        exact later active activeOld isActive
      · rw [List.mem_singleton.mp activeNew, pending] at isActive
        cases isActive

end Shape

/-! ## The source's updates in closed form -/

theorem modify_eq_map_of_unique {change : ConfigVersion → ConfigVersion} {target : ConfigVersion}
    (nodup : (versions.map ConfigVersion.id).Nodup) (member : target ∈ versions)
    {selected : ConfigVersion → Prop} [DecidablePred selected] (isSelected : selected target)
    (unique : ∀ config ∈ versions, selected config → config = target) :
    Table.modify ConfigVersion.id target.id change versions =
      versions.map fun config => if selected config then change config else config := by
  rw [Table.modify_eq_map]
  apply List.map_congr_left
  intro config configMember
  by_cases here : config.id = target.id
  · have same := List.inj_on_of_nodup_map nodup configMember member here
    rw [if_pos here, same, if_pos isSelected]
  · have notSelected : ¬selected config := fun chosen =>
      here (congrArg ConfigVersion.id (unique config configMember chosen))
    rw [if_neg here, if_neg notSelected]

theorem supersedePending_eq (shape : Shape tables.configVersions)
    (nodup : (tables.configVersions.map ConfigVersion.id).Nodup) :
    supersedePending now tables =
      { tables with configVersions := tables.configVersions.map (withdraw now) } := by
  unfold supersedePending
  split
  · next missing =>
    have unchanged : tables.configVersions.map (withdraw now) = tables.configVersions := by
      conv_rhs => rw [← List.map_id tables.configVersions]
      exact List.map_congr_left fun config member =>
        withdraw_of_ne (ConfigTables.pending_eq_none_iff.mp missing config member)
    rw [unchanged]
  · next pending found =>
    rcases ConfigTables.pending_mem found with ⟨member, isPending⟩
    rw [supersede, modify_eq_map_of_unique nodup member isPending fun config configMember chosen =>
      shape.onePending config configMember pending member chosen isPending]
    rfl

end RollingBudget
