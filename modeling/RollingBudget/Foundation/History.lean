import Mathlib

namespace RollingBudget

/-! Systems that take one atomic step for each event. A history is the list of
events so far, oldest first. -/

structure Machine (State : Type*) (Event : Type*) where
  initial : State
  step : State → Event → State

namespace Machine

variable {State Event Output : Type*} (machine : Machine State Event)

/-- The state after a history. -/
def run (history : List Event) : State := history.foldl machine.step machine.initial

@[simp] theorem run_nil : machine.run [] = machine.initial := rfl

@[simp] theorem run_concat (history : List Event) (event : Event) :
    machine.run (history ++ [event]) = machine.step (machine.run history) event := by
  simp [run]

/-- A property of the initial state that every step keeps holds after every history. -/
theorem run_invariant {holds : State → Prop} (initially : holds machine.initial)
    (kept : ∀ state event, holds state → holds (machine.step state event))
    (history : List Event) : holds (machine.run history) := by
  induction history using List.reverseRecOn with
  | nil => exact initially
  | append_singleton history event induction =>
      rw [run_concat]
      exact kept _ event induction

/-- What holds at one point of a run and is kept by every later event holds at its end. -/
theorem run_after (holds : State → Prop) {history continuation : List Event}
    (start : holds (machine.run history))
    (kept : ∀ middle event, middle ++ [event] <+: continuation →
      holds (machine.run (history ++ middle)) →
      holds (machine.step (machine.run (history ++ middle)) event)) :
    holds (machine.run (history ++ continuation)) := by
  induction continuation using List.reverseRecOn with
  | nil =>
      rw [List.append_nil]
      exact start
  | append_singleton continuation event induction =>
      rw [← List.append_assoc, run_concat]
      refine kept continuation event (List.prefix_refl _) (induction ?_)
      intro middle other isPrefix
      exact kept middle other (isPrefix.trans (List.prefix_append _ _))

/-- A reflexive and transitive relation that holds across every step of a run
holds between an earlier and a later state of it. -/
theorem run_relation {related : State → State → Prop}
    (refl : ∀ state, related state state)
    (trans : ∀ first second third, related first second → related second third →
      related first third)
    (steps : ∀ history event,
      related (machine.run history) (machine.step (machine.run history) event))
    (history continuation : List Event) :
    related (machine.run history) (machine.run (history ++ continuation)) := by
  induction continuation using List.reverseRecOn with
  | nil =>
      rw [List.append_nil]
      exact refl _
  | append_singleton continuation event induction =>
      rw [← List.append_assoc, run_concat]
      exact trans _ _ _ induction (steps _ event)

/-- What the steps of a history emit, in order. -/
def collect (emit : State → Event → List Output) (history : List Event) : List Output :=
  (history.foldl
    (fun progress event =>
      (machine.step progress.1 event, progress.2 ++ emit progress.1 event))
    (machine.initial, ([] : List Output))).2

private theorem collect_state (emit : State → Event → List Output) (history : List Event) :
    (history.foldl
      (fun progress event =>
        (machine.step progress.1 event, progress.2 ++ emit progress.1 event))
      (machine.initial, ([] : List Output))).1 = machine.run history := by
  induction history using List.reverseRecOn with
  | nil => rfl
  | append_singleton history event induction =>
      rw [List.foldl_concat, run_concat]
      exact congrArg (fun state => machine.step state event) induction

@[simp] theorem collect_nil (emit : State → Event → List Output) :
    machine.collect emit [] = [] := rfl

@[simp] theorem collect_concat (emit : State → Event → List Output) (history : List Event)
    (event : Event) :
    machine.collect emit (history ++ [event]) =
      machine.collect emit history ++ emit (machine.run history) event := by
  rw [collect, List.foldl_concat, ← collect_state machine emit history]
  rfl

/-- What has been emitted stays, and later steps add to it. -/
theorem prefix_of_collect (emit : State → Event → List Output) (history continuation : List Event) :
    machine.collect emit history <+: machine.collect emit (history ++ continuation) := by
  induction continuation using List.reverseRecOn with
  | nil => rw [List.append_nil]
  | append_singleton continuation event induction =>
      rw [← List.append_assoc, collect_concat]
      exact induction.trans (List.prefix_append _ _)

/-- What has been emitted was emitted by some step. -/
theorem mem_collect_iff {emit : State → Event → List Output} {history : List Event}
    {output : Output} :
    output ∈ machine.collect emit history ↔ ∃ before event after,
      history = before ++ event :: after ∧ output ∈ emit (machine.run before) event := by
  constructor
  · induction history using List.reverseRecOn with
    | nil => simp
    | append_singleton history event induction =>
        intro member
        rw [collect_concat] at member
        rcases List.mem_append.mp member with earlier | last
        · rcases induction earlier with ⟨before, event', after, rfl, emitted⟩
          exact ⟨before, event', after ++ [event], by simp, emitted⟩
        · exact ⟨history, event, [], rfl, last⟩
  · rintro ⟨before, event, after, rfl, emitted⟩
    have grows := machine.prefix_of_collect emit (before ++ [event]) after
    rw [List.append_assoc, List.singleton_append, collect_concat] at grows
    exact grows.subset (List.mem_append_right _ emitted)

/-- A machine shows the run of another one when each of its steps shows the steps of the
events that it emits. -/
theorem run_projects {Part : Type*} (part : Machine Part Output) (view : State → Part)
    {emit : State → Event → List Output} (initially : view machine.initial = part.initial)
    (steps : ∀ state event,
      view (machine.step state event) = (emit state event).foldl part.step (view state))
    (history : List Event) :
    view (machine.run history) = part.run (machine.collect emit history) := by
  induction history using List.reverseRecOn with
  | nil => exact initially
  | append_singleton history event induction =>
      rw [run_concat, steps, induction, collect_concat]
      exact List.foldl_append.symm

end Machine

end RollingBudget
