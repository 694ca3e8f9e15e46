import RollingBudget.Guards.Commits
import RollingBudget.Guards.Uploads

namespace RollingBudget

open SingleUser Flushes

/-! Whole histories on the guarded database. The constraints that the guards need hold in every
state that the services reach, since the services write nothing that breaks them. -/

variable {environment : Environment} {database : Database}

/-! ## One call -/

theorem Event.runs_program (digests : environment.HexDigests)
    (invariant : SystemInvariant environment database) (constraints : database.Constraints)
    (event : Event) :
    guardedDatabase.Runs database (event.program environment database)
      fun value state => state = value.1 := by
  unfold Event.program
  cases event.call with
  | putConfig raw ifMatch =>
      apply GuardedStore.Runs.liftThen
      intro request validated
      have valid := ConfigPutRequest.valid_of_validate (Outcome.orRaise_eq_ok.mp validated)
      apply GuardedStore.Runs.bind _ (runs_putConfigLocked digests invariant.config valid
        constraints ifMatch false none)
      rintro written _ rfl
      exact GuardedStore.Runs.pure rfl
  | putConfigChecked raw expectedConfigHash =>
      apply GuardedStore.Runs.liftThen
      intro request validated
      have valid := ConfigPutRequest.valid_of_validate (Outcome.orRaise_eq_ok.mp validated)
      apply GuardedStore.Runs.bind _ (runs_putConfigLocked digests invariant.config valid
        constraints none true expectedConfigHash)
      rintro written _ rfl
      exact GuardedStore.Runs.pure rfl
  | beginRefresh raw idempotencyKey maxBatchItems maxRequestBytes =>
      apply GuardedStore.Runs.liftThen
      intro request validated
      have valid := RefreshBeginRequest.valid_of_validate (Outcome.orRaise_eq_ok.mp validated)
      apply GuardedStore.Runs.bind _ (runs_beginRefresh digests valid constraints maxBatchItems
        maxRequestBytes)
      rintro begun _ rfl
      exact GuardedStore.Runs.pure rfl
  | uploadBatch runId batchIndex raw maxBatchItems maxRequestBytes =>
      apply GuardedStore.Runs.liftThen
      intro request validated
      have valid := RefreshBatchRequest.valid_of_validate (Outcome.orRaise_eq_ok.mp validated)
      apply GuardedStore.Runs.bind _ (runs_uploadBatch digests valid constraints runId batchIndex
        maxBatchItems maxRequestBytes)
      rintro uploaded _ rfl
      exact GuardedStore.Runs.pure rfl
  | commitRefresh runId raw =>
      apply GuardedStore.Runs.liftThen
      intro request _
      apply GuardedStore.Runs.bind _ (runs_commitRefresh event.clock digests invariant.config
        constraints runId request)
      rintro committed _ rfl
      exact GuardedStore.Runs.pure rfl

/-- A call that returns leaves the database as its writes do. -/
theorem Event.after_program (digests : environment.HexDigests)
    (invariant : SystemInvariant environment database) (constraints : database.Constraints)
    (event : Event) {committed : Database} {response : Response}
    (completed : event.outcome environment database = .ok (committed, response)) :
    guardedDatabase.after database (event.program environment database).writes = committed := by
  rw [← Event.program_result] at completed
  exact (event.runs_program digests invariant constraints).returns _ completed

theorem Event.constraints_next (digests : environment.HexDigests)
    (invariant : SystemInvariant environment database) (constraints : database.Constraints)
    (event : Event) : (event.next environment database).Constraints := by
  unfold Event.next
  cases completed : event.outcome environment database with
  | error error => exact constraints
  | ok result =>
      have admits := (event.runs_program digests invariant constraints).admits
      show result.1.Constraints
      rw [← event.after_program digests invariant constraints completed]
      exact Database.constraints_after admits constraints

/-! ## Every history -/

theorem constraints_run (digests : environment.HexDigests) (history : List Event) :
    ((service environment).run history).Constraints := by
  induction history using List.reverseRecOn with
  | nil => exact Database.constraints_empty
  | append_singleton history event induction =>
      rw [Machine.run_concat]
      exact event.constraints_next digests (invariant_run environment history) induction

/-- Whatever happened before, every write of a call passes every guard in the state in which the
statement is executed; a call that raises does so for a reason of its own. -/
theorem services_refine_guards (environment : Environment) (digests : environment.HexDigests)
    (history : List Event) (event : Event) :
    guardedDatabase.Admits ((service environment).run history)
        (event.program environment ((service environment).run history)).writes ∧
      (event.program environment ((service environment).run history)).result =
        event.outcome environment ((service environment).run history) ∧
      ∀ committed response,
        event.outcome environment ((service environment).run history) =
          .ok (committed, response) →
        guardedDatabase.after ((service environment).run history)
          (event.program environment ((service environment).run history)).writes = committed :=
  ⟨(event.runs_program digests (invariant_run environment history)
      (constraints_run digests history)).admits,
    event.program_result environment _,
    fun _ _ completed => event.after_program digests (invariant_run environment history)
      (constraints_run digests history) completed⟩

/-! ## Digests to evaluate with -/

/-- The number that a text spells. -/
def Text.spelled (text : Text) : Nat :=
  text.foldl (fun number char => number * 16777259 + char.toNat) 0

/-- An environment to evaluate the guards in: its digests are hexadecimal digits. -/
def Environment.hexadecimal : Environment :=
  { Environment.transparent with
    sha256 := fun text => List.ofFn fun position : Fin 64 =>
      Nat.digitChar (text.spelled / 16 ^ position.val % 16) }

theorem Environment.hexadecimal_digests : Environment.hexadecimal.HexDigests :=
  fun _ => List.length_ofFn

/-- The commit of a run with one purchase issues six writes. -/
theorem services_refine_guards_synced :
    (Event.program .hexadecimal ((service .hexadecimal).run (Sample.synced.take 3))
        ⟨.commitRefresh 1 ⟨1, ["checking".toList]⟩, Sample.clock⟩).writes.length = 6 ∧
      guardedDatabase.Admits ((service .hexadecimal).run (Sample.synced.take 3))
        (Event.program .hexadecimal ((service .hexadecimal).run (Sample.synced.take 3))
          ⟨.commitRefresh 1 ⟨1, ["checking".toList]⟩, Sample.clock⟩).writes := by
  constructor
  · decide +kernel
  · exact (services_refine_guards .hexadecimal Environment.hexadecimal_digests _ _).1

end RollingBudget
