import RollingBudget.Configuration.Invariant
import RollingBudget.Refresh.Steps
import RollingBudget.Services.Calls

namespace RollingBudget

open ServiceError

/-! What a successful call went through. Every proof about the whole service splits a
step here and nowhere else. -/

inductive Succeeds (environment : Environment) (database : Database) :
    Event → Database → Response → Prop where
  | putConfig {clock : Clock} {raw request : ConfigPutRequest} {ifMatch : Option Text}
      {committed : Database} {view : ConfigView} {session : ConfigTables}
      (validated : raw.validate = some request)
      (result : PutResult environment clock database request ifMatch false none committed view
        session) :
      Succeeds environment database ⟨.putConfig raw ifMatch, clock⟩ committed (.config view)
  | putConfigChecked {clock : Clock} {raw request : ConfigPutRequest}
      {expectedConfigHash : Option Text} {committed : Database} {view : ConfigView}
      {session : ConfigTables} (validated : raw.validate = some request)
      (result : PutResult environment clock database request none true expectedConfigHash committed
        view session) :
      Succeeds environment database ⟨.putConfigChecked raw expectedConfigHash, clock⟩ committed
        (.config view)
  | beginRefresh {clock : Clock} {raw request : RefreshBeginRequest} {idempotencyKey : Text}
      {maxBatchItems maxRequestBytes : Nat} {committed : Database}
      {response : RefreshBeginResponse} (validated : raw.validate = some request)
      (result : BeginCase environment clock database request idempotencyKey maxBatchItems
        maxRequestBytes committed response) :
      Succeeds environment database
        ⟨.beginRefresh raw idempotencyKey maxBatchItems maxRequestBytes, clock⟩ committed
        (.begun response)
  | uploadBatch {clock : Clock} {raw request : RefreshBatchRequest} {runId : Nat}
      {batchIndex : Int} {maxBatchItems maxRequestBytes : Nat} {committed : Database}
      {response : RefreshBatchResponse} (validated : raw.validate = some request)
      (limits : WithinLimits request batchIndex maxBatchItems maxRequestBytes)
      (result : UploadCase environment clock database runId batchIndex.toNat request committed
        response) :
      Succeeds environment database
        ⟨.uploadBatch runId batchIndex raw maxBatchItems maxRequestBytes, clock⟩ committed
        (.batch response)
  | commitRefresh {clock : Clock} {raw request : RefreshCommitRequest} {runId : Nat}
      {committed : Database} {view : RefreshRunView} (validated : raw.validate = some request)
      (result : CommitCase environment clock database runId request committed view) :
      Succeeds environment database ⟨.commitRefresh runId raw, clock⟩ committed (.run view)

variable {environment : Environment} {database committed : Database} {event : Event}
  {response : Response}

theorem Event.succeeds (invariant : ConfigInvariant environment database.config)
    (completed : event.outcome environment database = .ok (committed, response)) :
    Succeeds environment database event committed response := by
  rcases event with ⟨call, clock⟩
  cases call with
  | putConfig raw ifMatch =>
      rcases Outcome.bind_eq_ok.mp completed with ⟨request, validated, completed⟩
      rcases Outcome.bind_eq_ok.mp completed with ⟨⟨after, view⟩, written, finished⟩
      rw [Outcome.orRaise_eq_ok] at validated
      cases finished
      rcases putConfigLocked_result invariant (ConfigPutRequest.valid_of_validate validated)
        written with ⟨session, result⟩
      exact Succeeds.putConfig validated result
  | putConfigChecked raw expectedConfigHash =>
      rcases Outcome.bind_eq_ok.mp completed with ⟨request, validated, completed⟩
      rcases Outcome.bind_eq_ok.mp completed with ⟨⟨after, view⟩, written, finished⟩
      rw [Outcome.orRaise_eq_ok] at validated
      cases finished
      rcases putConfigLocked_result invariant (ConfigPutRequest.valid_of_validate validated)
        written with ⟨session, result⟩
      exact Succeeds.putConfigChecked validated result
  | beginRefresh raw idempotencyKey maxBatchItems maxRequestBytes =>
      rcases Outcome.bind_eq_ok.mp completed with ⟨request, validated, completed⟩
      rcases Outcome.bind_eq_ok.mp completed with ⟨⟨after, answer⟩, begun, finished⟩
      rw [Outcome.orRaise_eq_ok] at validated
      cases finished
      exact Succeeds.beginRefresh validated (beginRefresh_cases begun)
  | uploadBatch runId batchIndex raw maxBatchItems maxRequestBytes =>
      rcases Outcome.bind_eq_ok.mp completed with ⟨request, validated, completed⟩
      rcases Outcome.bind_eq_ok.mp completed with ⟨⟨after, answer⟩, uploaded, finished⟩
      rw [Outcome.orRaise_eq_ok] at validated
      cases finished
      rcases uploadBatch_cases uploaded with ⟨limits, result⟩
      exact Succeeds.uploadBatch validated limits result
  | commitRefresh runId raw =>
      rcases Outcome.bind_eq_ok.mp completed with ⟨request, validated, completed⟩
      rcases Outcome.bind_eq_ok.mp completed with ⟨⟨after, view⟩, published, finished⟩
      rw [Outcome.orRaise_eq_ok] at validated
      cases finished
      exact Succeeds.commitRefresh validated (commitRefresh_cases published)

/-- Both interfaces write in one way. -/
theorem Event.put_result {clock : Clock} {raw request : ConfigPutRequest} {token : Option Text}
    {call : Call} (invariant : ConfigInvariant environment database.config)
    (isWrite : call = .putConfig raw token ∨ call = .putConfigChecked raw token)
    (validated : raw.validate = some request)
    (completed : Event.outcome environment database ⟨call, clock⟩ = .ok (committed, response)) :
    ∃ ifMatch checkExpected expectedBaseHash view session, response = .config view ∧
      PutResult environment clock database request ifMatch checkExpected expectedBaseHash committed
        view session := by
  rcases isWrite with rfl | rfl
  · cases Event.succeeds invariant completed with
    | putConfig validated' result =>
      rw [validated, Option.some.injEq] at validated'
      exact ⟨_, _, _, _, _, rfl, validated' ▸ result⟩
  · cases Event.succeeds invariant completed with
    | putConfigChecked validated' result =>
      rw [validated, Option.some.injEq] at validated'
      exact ⟨_, _, _, _, _, rfl, validated' ▸ result⟩

namespace Event

theorem next_of_ok (completed : event.outcome environment database = .ok (committed, response)) :
    event.next environment database = committed := by
  rw [next, completed]

theorem next_of_error {error : ServiceError}
    (raised : event.outcome environment database = .error error) :
    event.next environment database = database := by
  rw [next, raised]

/-- A step is a successful call or changes nothing. -/
theorem next_cases (invariant : ConfigInvariant environment database.config) (event : Event) :
    event.next environment database = database ∨ ∃ response,
      Succeeds environment database event (event.next environment database) response := by
  cases found : event.outcome environment database with
  | error error => exact Or.inl (next_of_error found)
  | ok result =>
      rcases result with ⟨after, response⟩
      refine Or.inr ⟨response, ?_⟩
      rw [next_of_ok found]
      exact event.succeeds invariant found

end Event

end RollingBudget
