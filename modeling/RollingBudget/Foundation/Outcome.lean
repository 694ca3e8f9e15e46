import Mathlib

namespace RollingBudget

/-! Computations that raise. What a successful computation went through is read
off with the equivalences below, one for each construct. -/

variable {ε : Type*} {α β : Type}

/-- Raise unless the condition holds. -/
def require (condition : Prop) [Decidable condition] (error : ε) : Except ε Unit :=
  if condition then .ok () else .error error

/-- Raise when there is no value. -/
def orRaise (error : ε) : Option α → Except ε α
  | some value => .ok value
  | none => .error error

namespace Outcome

theorem bind_eq_ok {first : Except ε α} {next : α → Except ε β} {result : β} :
    first >>= next = .ok result ↔ ∃ value, first = .ok value ∧ next value = .ok result := by
  cases first with
  | error error => simp [bind, Except.bind]
  | ok value => simp [bind, Except.bind]

theorem require_eq_ok {condition : Prop} [Decidable condition] {error : ε} {done : Unit} :
    require condition error = .ok done ↔ condition := by
  unfold require
  split <;> simp_all

theorem orRaise_eq_ok {error : ε} {found : Option α} {value : α} :
    orRaise error found = .ok value ↔ found = some value := by
  cases found <;> simp [orRaise]

theorem pure_eq_ok {value result : α} : (pure value : Except ε α) = .ok result ↔ value = result := by
  simp [pure, Except.pure]

theorem exists_of_isOk {outcome : Except ε α} (succeeds : outcome.isOk = true) :
    ∃ value, outcome = .ok value := by
  cases outcome with
  | error error => cases succeeds
  | ok value => exact ⟨value, rfl⟩

theorem mapError_eq_ok {ε' : Type*} {translate : ε → ε'} {first : Except ε α} {result : α} :
    first.mapError translate = .ok result ↔ first = .ok result := by
  cases first <;> simp [Except.mapError]

theorem bind_eq_error {first : Except ε α} {next : α → Except ε β} {error : ε} :
    first >>= next = .error error ↔
      first = .error error ∨ ∃ value, first = .ok value ∧ next value = .error error := by
  cases first with
  | error error => simp [bind, Except.bind]
  | ok value => simp [bind, Except.bind]

@[simp] theorem require_of {condition : Prop} [Decidable condition] {error : ε}
    (holds : condition) : require condition error = .ok () :=
  if_pos holds

@[simp] theorem orRaise_some (error : ε) (value : α) : orRaise error (some value) = .ok value := rfl

@[simp] theorem ok_bind (value : α) (next : α → Except ε β) :
    (Except.ok value : Except ε α) >>= next = next value := rfl

@[simp] theorem pure_bind_ok (value : α) (next : α → Except ε β) :
    (pure value : Except ε α) >>= next = next value := rfl

/-- Every item passes the check when the whole loop does. -/
theorem forM_eq_ok {check : α → Except ε Unit} {items : List α} {done : Unit} :
    forM items check = .ok done ↔ ∀ item ∈ items, check item = .ok () := by
  induction items with
  | nil => simp [pure, Except.pure]
  | cons item items induction =>
      rw [List.forM_cons, bind_eq_ok]
      constructor
      · rintro ⟨_, head, tail⟩
        exact List.forall_mem_cons.mpr ⟨head, induction.mp tail⟩
      · intro all
        rcases List.forall_mem_cons.mp all with ⟨head, tail⟩
        exact ⟨(), head, induction.mpr tail⟩

/-- What holds of the empty prefix and is kept by each step of a loop that
completes holds of all its items. -/
theorem foldlM_induction {step : β → α → Except ε β} {motive : List α → β → Prop}
    {items : List α} {start result : β} (completed : items.foldlM step start = .ok result)
    (base : motive [] start)
    (next : ∀ done item state state', done ++ [item] <+: items → motive done state →
      step state item = .ok state' → motive (done ++ [item]) state') :
    motive items result := by
  have general : ∀ done rest state, done ++ rest = items → motive done state →
      rest.foldlM step state = .ok result → motive (done ++ rest) result := by
    intro done rest
    induction rest generalizing done with
    | nil =>
        intro state _ holds finished
        rw [List.foldlM_nil, pure_eq_ok] at finished
        rw [List.append_nil, ← finished]
        exact holds
    | cons item rest induction =>
        intro state whole holds finished
        rw [List.foldlM_cons, bind_eq_ok] at finished
        rcases finished with ⟨middle, stepped, later⟩
        have split : (done ++ [item]) ++ rest = items := by simpa using whole
        have advanced := next done item state middle ⟨rest, split⟩ holds stepped
        have shifted := induction (done ++ [item]) middle split advanced later
        simpa using shifted
  exact general [] items start rfl base completed

/-- A loop that only checks and then updates computes the updates. -/
theorem eq_foldl_of_guarded {γ : Type} {check : β → α → Except ε γ} {update : β → α → β}
    {items : List α} {start result : β}
    (completed : items.foldlM
      (fun state item => check state item >>= fun _ => pure (update state item)) start =
        .ok result) :
    result = items.foldl update start := by
  induction items generalizing start with
  | nil =>
      rw [List.foldlM_nil, pure_eq_ok] at completed
      exact completed.symm
  | cons item items induction =>
      rw [List.foldlM_cons, bind_eq_ok] at completed
      rcases completed with ⟨middle, stepped, later⟩
      rcases bind_eq_ok.mp stepped with ⟨_, _, updated⟩
      rw [pure_eq_ok] at updated
      rw [List.foldl_cons, updated]
      exact induction later

/-- The loop completes when its checks pass in every state it can be in. -/
theorem guarded_eq_ok {γ : Type} {check : β → α → Except ε γ} {update : β → α → β}
    {items : List α} {start : β} (holds : β → Prop) (initially : holds start)
    (passes : ∀ state, ∀ item ∈ items, holds state →
      (∃ value, check state item = .ok value) ∧ holds (update state item)) :
    items.foldlM (fun state item => check state item >>= fun _ => pure (update state item)) start =
      .ok (items.foldl update start) := by
  induction items generalizing start with
  | nil => rfl
  | cons item items induction =>
      rcases passes start item (by simp) initially with ⟨⟨value, passed⟩, kept⟩
      rw [List.foldlM_cons, passed, ok_bind, pure_bind_ok, List.foldl_cons]
      exact induction kept fun state other member =>
        passes state other (List.mem_cons_of_mem _ member)

/-- Every item of a mapped list has a result when each item does. -/
theorem mapM_eq_ok_of {transform : α → Except ε β} {items : List α}
    (succeeds : ∀ item ∈ items, ∃ value, transform item = .ok value) :
    ∃ values, items.mapM transform = .ok values := by
  induction items with
  | nil => exact ⟨[], rfl⟩
  | cons item items induction =>
      rcases List.forall_mem_cons.mp succeeds with ⟨⟨value, head⟩, tail⟩
      rcases induction tail with ⟨values, rest⟩
      refine ⟨value :: values, ?_⟩
      rw [List.mapM_cons, head, ok_bind, rest, ok_bind]
      rfl

theorem forall₂_of_mapM_eq_ok {transform : α → Except ε β} {items : List α} {values : List β}
    (completed : items.mapM transform = .ok values) :
    List.Forall₂ (fun item value => transform item = .ok value) items values := by
  induction items generalizing values with
  | nil =>
      rw [List.mapM_nil, pure_eq_ok] at completed
      rw [← completed]
      exact List.Forall₂.nil
  | cons item items induction =>
      rw [List.mapM_cons, bind_eq_ok] at completed
      rcases completed with ⟨value, head, later⟩
      rcases bind_eq_ok.mp later with ⟨rest, tail, equal⟩
      rw [pure_eq_ok] at equal
      rw [← equal]
      exact List.Forall₂.cons head (induction tail)

/-- A mapped list has results exactly when each item satisfies the condition for one. -/
theorem mapM_eq_ok_iff {transform : α → Except ε β} {condition : α → Prop} {result : α → β}
    {items : List α} {values : List β}
    (each : ∀ item value, transform item = .ok value ↔ condition item ∧ value = result item) :
    items.mapM transform = .ok values ↔
      (∀ item ∈ items, condition item) ∧ values = items.map result := by
  induction items generalizing values with
  | nil => simp [pure, Except.pure, eq_comm]
  | cons item items induction =>
      rw [List.mapM_cons, bind_eq_ok]
      constructor
      · rintro ⟨value, head, later⟩
        rcases bind_eq_ok.mp later with ⟨rest, tail, same⟩
        rw [pure_eq_ok] at same
        rcases (each item value).mp head with ⟨holds, rfl⟩
        rcases induction.mp tail with ⟨others, rfl⟩
        exact ⟨List.forall_mem_cons.mpr ⟨holds, others⟩, same.symm⟩
      · rintro ⟨all, rfl⟩
        rcases List.forall_mem_cons.mp all with ⟨holds, others⟩
        refine ⟨result item, (each _ _).mpr ⟨holds, rfl⟩, ?_⟩
        rw [induction.mpr ⟨others, rfl⟩]
        rfl

/-! ## Two computations side by side -/

/-- Both computations raise errors of one kind, or both give results that are related. -/
inductive Agree {α' : Type} {ε' : Type*} (alike : ε → ε' → Prop) (related : α → α' → Prop) :
    Except ε α → Except ε' α' → Prop where
  | raises {error : ε} {error' : ε'} (kind : alike error error') :
      Agree alike related (.error error) (.error error')
  | gives {value : α} {value' : α'} (values : related value value') :
      Agree alike related (.ok value) (.ok value')

namespace Agree

variable {α' β' : Type} {alike : ε → ε → Prop} {related : α → α' → Prop}
  {related' : β → β' → Prop}

theorem bind {first : Except ε α} {first' : Except ε α'} {next : α → Except ε β}
    {next' : α' → Except ε β'} (head : Agree alike related first first')
    (tail : ∀ value value', related value value' →
      Agree alike related' (next value) (next' value')) :
    Agree alike related' (first >>= next) (first' >>= next') := by
  cases head with
  | raises kind => exact .raises kind
  | gives values => exact tail _ _ values

/-- The computations begin alike and go on alike. -/
theorem bind_same {first : Except ε α} {next : α → Except ε β} {next' : α → Except ε β'}
    (reflexive : ∀ error, alike error error)
    (tail : ∀ value, Agree alike related' (next value) (next' value)) :
    Agree alike related' (first >>= next) (first >>= next') := by
  cases first with
  | error error => exact .raises (reflexive error)
  | ok value => exact tail value

theorem require {condition condition' : Prop} [Decidable condition] [Decidable condition']
    {error error' : ε} (same : condition' ↔ condition) (kind : alike error error') :
    Agree alike Eq (require condition error) (require condition' error') := by
  by_cases holds : condition
  · rw [require_of holds, require_of (same.mpr holds)]
    exact .gives rfl
  · unfold RollingBudget.require
    rw [if_neg holds, if_neg fun other => holds (same.mp other)]
    exact .raises kind

end Agree

theorem relabel_bind {γ : Type} (relabel : β → γ) (first : Except ε α) (next : α → Except ε β) :
    (first >>= next).map relabel = first >>= fun value => (next value).map relabel := by
  cases first <;> rfl

theorem bind_relabel {γ : Type} (relabel : α → γ) (first : Except ε α) (next : γ → Except ε β) :
    first.map relabel >>= next = first >>= fun value => next (relabel value) := by
  cases first <;> rfl

/-- A loop whose rounds commute with a relabelling commutes with it. -/
theorem relabel_foldlM {relabel : β → β} {step step' : β → α → Except ε β}
    (each : ∀ state item, (step state item).map relabel = step' (relabel state) item)
    (items : List α) (state : β) :
    (items.foldlM step state).map relabel = items.foldlM step' (relabel state) := by
  induction items generalizing state with
  | nil => rfl
  | cons item items induction =>
      rw [List.foldlM_cons, List.foldlM_cons, relabel_bind, ← each, bind_relabel]
      exact congrArg (step state item >>= ·) (funext induction)

/-! ## Errors that cannot occur -/

/-- A computation raises none of the errors in question. -/
def Avoids (bad : ε → Prop) (outcome : Except ε α) : Prop :=
  ∀ error, outcome = .error error → ¬bad error

section Avoids

variable {bad : ε → Prop}

theorem avoids_ok (value : α) : Avoids bad (.ok value) := by
  intro error raised
  cases raised

theorem avoids_pure (value : α) : Avoids bad (pure value : Except ε α) := avoids_ok value

theorem avoids_throw {error : ε} (fine : ¬bad error) : Avoids bad (.error error : Except ε α) := by
  intro other raised
  cases raised
  exact fine

theorem avoids_require {condition : Prop} [Decidable condition] {error : ε} (fine : ¬bad error) :
    Avoids bad (require condition error) := by
  unfold require
  split
  · exact avoids_ok ()
  · exact avoids_throw fine

theorem avoids_orRaise {error : ε} (fine : ¬bad error) (found : Option α) :
    Avoids bad (orRaise error found) := by
  cases found with
  | none => exact avoids_throw fine
  | some value => exact avoids_ok value

theorem avoids_mapError {ε' : Type*} {translate : ε' → ε} (fine : ∀ error, ¬bad (translate error))
    (first : Except ε' α) : Avoids bad (first.mapError translate) := by
  cases first with
  | error error => exact avoids_throw (fine error)
  | ok value => exact avoids_ok value

theorem avoids_bind {first : Except ε α} {next : α → Except ε β} (head : Avoids bad first)
    (tail : ∀ value, first = .ok value → Avoids bad (next value)) : Avoids bad (first >>= next) := by
  cases found : first with
  | error error => exact avoids_throw (head error found)
  | ok value => exact tail value found

theorem avoids_foldlM_of_mem {step : β → α → Except ε β} {items : List α}
    (each : ∀ state, ∀ item ∈ items, Avoids bad (step state item)) (state : β) :
    Avoids bad (items.foldlM step state) := by
  induction items generalizing state with
  | nil => exact avoids_ok state
  | cons item items induction =>
      rw [List.foldlM_cons]
      apply avoids_bind (each state item List.mem_cons_self)
      intro value _
      exact induction (fun state other member => each state other (List.mem_cons_of_mem _ member))
        value

theorem avoids_foldlM {step : β → α → Except ε β} (each : ∀ state item, Avoids bad (step state item))
    (items : List α) (state : β) : Avoids bad (items.foldlM step state) :=
  avoids_foldlM_of_mem (fun state item _ => each state item) state

theorem avoids_mapM {transform : α → Except ε β} (each : ∀ item, Avoids bad (transform item))
    (items : List α) : Avoids bad (items.mapM transform) := by
  induction items with
  | nil => exact avoids_ok []
  | cons item items induction =>
      rw [List.mapM_cons]
      exact avoids_bind (each item) fun _ _ => avoids_bind induction fun _ _ => avoids_pure _

end Avoids

end Outcome

end RollingBudget
