import RollingBudget.Guards.Histories

namespace RollingBudget

/-! The journal of the committed writes. Replayed from the empty database it passes every guard
and arrives at what the services have made, with the constraints kept between any two writes. -/

/-! ## Journals -/

namespace GuardedStore

variable {State Event Write : Type*} {store : GuardedStore State Write}
  {machine : Machine State Event} {writes : State → Event → List Write}

/-- When the writes of every step are admitted and leave what the step leaves, so do the writes
of a whole run. -/
theorem replays_collect
    (steps : ∀ history event,
      store.Admits (machine.run history) (writes (machine.run history) event) ∧
        store.after (machine.run history) (writes (machine.run history) event) =
          machine.step (machine.run history) event)
    (history : List Event) :
    store.Admits machine.initial (machine.collect writes history) ∧
      store.after machine.initial (machine.collect writes history) = machine.run history := by
  induction history using List.reverseRecOn with
  | nil => exact ⟨trivial, rfl⟩
  | append_singleton history event induction =>
      rcases induction with ⟨admitted, reached⟩
      rcases steps history event with ⟨admits, leaves⟩
      rw [Machine.collect_concat, Machine.run_concat, admits_append, after_append, reached]
      exact ⟨⟨admitted, admits⟩, leaves⟩

theorem Admits.upTo {state : State} {first whole : List Write}
    (admits : store.Admits state whole) (isPrefix : first <+: whole) :
    store.Admits state first := by
  rcases isPrefix with ⟨rest, rfl⟩
  exact (admits_append.mp admits).1

end GuardedStore

/-! ## The journal of the services -/

variable (environment : Environment)

/-- What a call commits, write by write. -/
def Event.committedWrites (database : Database) (event : Event) : List Write :=
  match event.outcome environment database with
  | .ok _ => (event.program environment database).writes
  | .error _ => []

/-- The committed writes of a history, in order. -/
def journal (history : List Event) : List Write :=
  (service environment).collect (Event.committedWrites environment) history

variable {environment}

theorem Event.committedWrites_next {database : Database} (digests : environment.HexDigests)
    (invariant : SystemInvariant environment database) (constraints : database.Constraints)
    (event : Event) :
    guardedDatabase.Admits database (event.committedWrites environment database) ∧
      guardedDatabase.after database (event.committedWrites environment database) =
        event.next environment database := by
  unfold Event.committedWrites
  cases completed : event.outcome environment database with
  | error error => exact ⟨trivial, (event.next_of_error completed).symm⟩
  | ok result =>
      constructor
      · exact (event.runs_program digests invariant constraints).admits
      · rw [event.next_of_ok completed]
        exact event.after_program digests invariant constraints completed

/-- The database of the services is the replay of their journal, and a reader who sees the
journal up to any write sees the constraints hold. -/
theorem journal_replays (environment : Environment) (digests : environment.HexDigests)
    (history : List Event) :
    guardedDatabase.Admits Database.empty (journal environment history) ∧
      guardedDatabase.after Database.empty (journal environment history) =
        (service environment).run history ∧
      ∀ flushed, flushed <+: journal environment history →
        (guardedDatabase.after Database.empty flushed).Constraints := by
  have replays := GuardedStore.replays_collect (fun done event =>
    event.committedWrites_next digests (invariant_run environment done)
      (constraints_run digests done)) history
  refine ⟨replays.1, replays.2, ?_⟩
  intro flushed isPrefix
  exact Database.constraints_after (replays.1.upTo isPrefix) Database.constraints_empty

/-- The journal of a configuration, a run with one batch and its commit. -/
theorem journal_replays_synced :
    (journal .hexadecimal Sample.synced).length = 15 ∧
      guardedDatabase.after Database.empty (journal .hexadecimal Sample.synced) =
        (service .hexadecimal).run Sample.synced := by
  constructor
  · decide +kernel
  · exact (journal_replays .hexadecimal Environment.hexadecimal_digests Sample.synced).2.1

end RollingBudget
