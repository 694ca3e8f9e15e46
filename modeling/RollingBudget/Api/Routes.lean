import RollingBudget.Core.Auth
import RollingBudget.Services.Operations

namespace RollingBudget.Api

/-! The REST interface: every route needs an API key of some level, does one operation and
answers with what it returns. -/

inductive Route where
  | readConfig
  | replaceConfig (request : ConfigPutRequest) (ifMatch : Option Text)
  | createRefreshRun (request : RefreshBeginRequest) (idempotencyKey : Text)
  | putRefreshBatch (request : RefreshBatchRequest) (runId : Nat) (batchIndex : Int)
  | finalizeRefreshRun (request : RefreshCommitRequest) (runId : Nat)
  | readRefreshRun (runId : Nat)
  | readBudgetDashboard (asOf : Option Date)
deriving DecidableEq

namespace Route

/-- The level that the dependencies of a route require. -/
def minimum : Route → AccessLevel
  | .readConfig => .read
  | .replaceConfig _ _ => .admin
  | .createRefreshRun _ _ => .write
  | .putRefreshBatch _ _ _ => .write
  | .finalizeRefreshRun _ _ => .write
  | .readRefreshRun _ => .write
  | .readBudgetDashboard _ => .read

/-- The bounds on headers and paths. -/
def Admitted : Route → Prop
  | .createRefreshRun _ idempotencyKey => idempotencyKey.Fits 8 128
  | .putRefreshBatch _ _ batchIndex => 0 ≤ batchIndex
  | _ => True

instance (route : Route) : Decidable route.Admitted := by
  cases route <;> unfold Admitted <;> infer_instance

def operation (limits : Limits) : Route → Operation
  | .readConfig => .getConfig
  | .replaceConfig request ifMatch => .write (.putConfig request ifMatch)
  | .createRefreshRun request idempotencyKey =>
      .write (.beginRefresh request idempotencyKey limits.maxBatchItems limits.maxRequestBytes)
  | .putRefreshBatch request runId batchIndex =>
      .write (.uploadBatch runId batchIndex request limits.maxBatchItems limits.maxRequestBytes)
  | .finalizeRefreshRun request runId => .write (.commitRefresh runId request)
  | .readRefreshRun runId => .getRefreshRun runId
  | .readBudgetDashboard asOf => .getDashboard asOf limits.staleAfterHours

def statusCode : Route → Nat
  | .createRefreshRun _ _ => 201
  | _ => 200

end Route

/-! ## Answers -/

inductive ApiAnswer where
  | httpException (statusCode : Nat) (detail : Text)
  | requestInvalid
  | domainError (error : DomainError)
  | completed (statusCode : Nat) (etag : Option Text) (result : Result)
  | serverError
deriving DecidableEq

/-- The configuration in the response to a write. -/
def writtenView : Response → Option ConfigView
  | .config view => some view
  | .begun _ => none
  | .batch _ => none
  | .run _ => none

/-- The configuration in what an operation returns. -/
def resultView : Result → Option ConfigView
  | .written response => writtenView response
  | .config view => some view
  | .run _ => none
  | .dashboard _ => none

/-- The `ETag` header: the hash of the version that a client edits. -/
def etag (result : Result) : Option Text :=
  ((resultView result).bind ConfigView.base).map fun base => '"' :: (base.configHash ++ ['"'])

/-- A body that its schema refuses is answered like any other invalid parameter. -/
def answer (route : Route) : Except ServiceError Result → ApiAnswer
  | .ok result => .completed route.statusCode (etag result) result
  | .error (.domain error) => .domainError error
  | .error .validationError => .requestInvalid
  | .error _ => .serverError

/-- The operation that a request gets to. -/
def admittedOperation (settings : Settings) (limits : Limits)
    (credentials : Option HTTPAuthorizationCredentials) (route : Route) : Option Operation :=
  match requireAccess route.minimum credentials settings with
  | .granted _ => if route.Admitted then some (route.operation limits) else none
  | _ => none

def handle (environment : Environment) (settings : Settings) (limits : Limits) (clock : Clock)
    (database : Database) (credentials : Option HTTPAuthorizationCredentials) (route : Route) :
    ApiAnswer :=
  match requireAccess route.minimum credentials settings with
  | .httpException statusCode detail => .httpException statusCode detail
  | .typeError => .serverError
  | .granted _ =>
      if route.Admitted then
        answer route ((route.operation limits).result environment clock database)
      else .requestInvalid

/-- Access is granted for a configured key that comes as a bearer credential, with a level that
reaches the minimum. -/
theorem sufficient_of_granted {minimum level : AccessLevel} {settings : Settings}
    {credentials : Option HTTPAuthorizationCredentials}
    (access : requireAccess minimum credentials settings = .granted level) :
    ∃ given, credentials = some given ∧ given.scheme.map Char.toLower = "bearer".toList ∧
      (some given.credentials, level) ∈ settings.candidates ∧ minimum.value ≤ level.value := by
  unfold requireAccess at access
  cases bearer : bearerCredentials credentials with
  | none =>
      rw [bearer] at access
      cases access
  | some given =>
      rw [bearer] at access
      dsimp only at access
      have isBearer := Option.filter_eq_some_iff.mp bearer
      refine ⟨given, isBearer.1, of_decide_eq_true isBearer.2, ?_⟩
      cases provided : providedLevel given.credentials settings.candidates with
      | none =>
          rw [provided] at access
          cases access
      | some found =>
          rw [provided] at access
          cases found with
          | none => cases access
          | some own =>
              dsimp only at access
              split at access
              · cases access
              · next enough =>
                cases access
                exact ⟨mem_of_providedLevel provided, Nat.le_of_not_lt enough⟩

/-- Only a request whose bearer credentials are those of a key of sufficient level gets to an
operation. -/
theorem granted_of_admitted {settings : Settings} {limits : Limits}
    {credentials : Option HTTPAuthorizationCredentials} {route : Route} {operation : Operation}
    (admitted : admittedOperation settings limits credentials route = some operation) :
    operation = route.operation limits ∧ ∃ given level, credentials = some given ∧
      given.scheme.map Char.toLower = "bearer".toList ∧
      (some given.credentials, level) ∈ settings.candidates ∧
      route.minimum.value ≤ level.value := by
  unfold admittedOperation at admitted
  cases access : requireAccess route.minimum credentials settings with
  | httpException statusCode detail =>
      rw [access] at admitted
      cases admitted
  | typeError =>
      rw [access] at admitted
      cases admitted
  | granted level =>
      rw [access] at admitted
      dsimp only at admitted
      split at admitted
      · constructor
        · exact (Option.some.inj admitted).symm
        · rcases sufficient_of_granted access with ⟨given, isGiven, sufficient⟩
          exact ⟨given, level, isGiven, sufficient⟩
      · cases admitted

/-- A request that gets to no operation is answered without the database. -/
theorem handle_congr {environment : Environment} {settings : Settings} {limits : Limits}
    {clock : Clock} {credentials : Option HTTPAuthorizationCredentials} {route : Route}
    (idle : admittedOperation settings limits credentials route = none)
    (left right : Database) :
    handle environment settings limits clock left credentials route =
      handle environment settings limits clock right credentials route := by
  unfold admittedOperation at idle
  unfold handle
  cases access : requireAccess route.minimum credentials settings with
  | httpException statusCode detail => rfl
  | typeError => rfl
  | granted level =>
      rw [access] at idle
      dsimp only at idle ⊢
      split at idle
      · cases idle
      · next refused => rw [if_neg refused, if_neg refused]

end RollingBudget.Api
