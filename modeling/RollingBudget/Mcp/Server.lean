import RollingBudget.OAuth.TokenEndpoint
import RollingBudget.Services.Operations

namespace RollingBudget.Mcp

open OAuth ConfigService RefreshService

/-! The remote MCP server. Discovery is public; a call of a tool needs an access token with the
scope of that tool. -/

/-! ## Access tokens -/

/-- The SDK's `AccessToken`, as the verifier fills it in. -/
structure AccessToken where
  token : Text
  clientId : Text
  scopes : List Text
  expiresAt : Nat
  resource : Text
  subject : Text
  issuer : Text
deriving DecidableEq

/-- `DatabaseTokenVerifier.verify_token` -/
def verifyToken (service : OAuthService) (store : OAuthStore) (now : Instant) (token : Text) :
    Option AccessToken :=
  (service.verifyAccessToken store now token).map fun verified => {
    token := token
    clientId := verified.clientId
    scopes := verified.scopes
    expiresAt := verified.expiresAt
    resource := verified.resource
    subject := verified.subject
    issuer := service.config.publicBaseUrl }

/-- The bearer backend of the SDK, for a verifier and an `Authorization` header. What it lets
through is what the verifier made of some token. -/
structure BearerAuthBackend where
  authenticate : (Text → Option AccessToken) → Option Text → Option AccessToken
  verified : ∀ verify authorization token, authenticate verify authorization = some token →
    ∃ text, verify text = some token

/-! ## Tools -/

def budgetReadScope : Text := "budget:read".toList

def budgetRefreshScope : Text := "budget:refresh".toList

def budgetConfigScope : Text := "budget:config".toList

/-- A call of a tool with its arguments. -/
inductive ToolCall where
  | getConfig
  | updateConfig (configuration : ConfigPutRequest) (expectedConfigHash : Option Text)
  | beginRefresh (request : RefreshBeginRequest) (idempotencyKey : Text)
  | uploadBatch (runId : Nat) (batchIndex : Int) (request : RefreshBatchRequest)
  | commitRefresh (runId : Nat) (request : RefreshCommitRequest)
  | getRefreshStatus (runId : Nat)
  | getDashboardBudgets (asOf : Option Date)
  | unknown (name : Text)
deriving DecidableEq

namespace ToolCall

/-- `_TOOL_SCOPES`, which has no entry for a tool that the server does not have. -/
def scope : ToolCall → Option Text
  | .getConfig => some budgetReadScope
  | .updateConfig _ _ => some budgetConfigScope
  | .beginRefresh _ _ => some budgetRefreshScope
  | .uploadBatch _ _ _ => some budgetRefreshScope
  | .commitRefresh _ _ => some budgetRefreshScope
  | .getRefreshStatus _ => some budgetRefreshScope
  | .getDashboardBudgets _ => some budgetReadScope
  | .unknown _ => none

/-- The bounds on arguments that the schemas of the requests do not repeat. -/
def Admitted : ToolCall → Prop
  | .beginRefresh _ idempotencyKey => idempotencyKey.Fits 8 255
  | .uploadBatch _ batchIndex _ => 0 ≤ batchIndex
  | _ => True

instance (tool : ToolCall) : Decidable tool.Admitted := by
  cases tool <;> unfold Admitted <;> infer_instance

end ToolCall

/-- What a tool does. -/
def ToolCall.operation (limits : Limits) : ToolCall → Option Operation
  | .getConfig => some .getConfig
  | .updateConfig configuration expectedConfigHash =>
      some (.write (.putConfigChecked configuration expectedConfigHash))
  | .beginRefresh request idempotencyKey =>
      some (.write (.beginRefresh request idempotencyKey limits.maxBatchItems
        limits.maxRequestBytes))
  | .uploadBatch runId batchIndex request =>
      some (.write (.uploadBatch runId batchIndex request limits.maxBatchItems
        limits.maxRequestBytes))
  | .commitRefresh runId request => some (.write (.commitRefresh runId request))
  | .getRefreshStatus runId => some (.getRefreshRun runId)
  | .getDashboardBudgets asOf => some (.getDashboard asOf limits.staleAfterHours)
  | .unknown _ => none

/-! ## Calling a tool -/

/-- What an error result of the gate says; the challenge carries the same texts. -/
structure AuthError where
  error : Text
  description : Text
  requiredScope : Text
deriving DecidableEq

/-- `_auth_error` -/
def AuthError.challenge (metadataUrl : Text) (authError : AuthError) : Text :=
  "Bearer resource_metadata=\"".toList ++ metadataUrl ++ "\", error=\"".toList ++
    authError.error ++ "\", error_description=\"".toList ++ authError.description ++
    "\", scope=\"".toList ++ authError.requiredScope ++ "\"".toList

inductive ToolAnswer where
  | authError (challenge : Text)
  | invalidArguments
  | unknownTool
  | completed (result : Except ServiceError Result)
deriving DecidableEq

/-- The check of `call_tool`. A tool that the server does not have needs no scope. -/
def gate (token : Option AccessToken) (tool : ToolCall) : Option AuthError :=
  match tool.scope with
  | none => none
  | some requiredScope =>
      match token with
      | none => some ⟨"invalid_token".toList, "a valid OAuth access token is required".toList,
          requiredScope⟩
      | some token =>
          if requiredScope ∈ token.scopes then none
          else some ⟨"insufficient_scope".toList,
            "the ".toList ++ requiredScope ++ " scope is required".toList, requiredScope⟩

/-- The operation that `call_tool` gets to. -/
def admittedOperation (limits : Limits) (token : Option AccessToken) (tool : ToolCall) :
    Option Operation :=
  if gate token tool = none ∧ tool.Admitted then tool.operation limits else none

/-- `call_tool` -/
def callTool (environment : Environment) (limits : Limits) (metadataUrl : Text) (clock : Clock)
    (database : Database) (token : Option AccessToken) (tool : ToolCall) : ToolAnswer :=
  match gate token tool with
  | some authError => .authError (authError.challenge metadataUrl)
  | none =>
      match tool.operation limits with
      | none => .unknownTool
      | some operation =>
          if tool.Admitted then .completed (operation.result environment clock database)
          else .invalidArguments

/-! ## What the gate lets through -/

theorem gate_eq_none_iff {token : Option AccessToken} {tool : ToolCall} :
    gate token tool = none ↔
      ∀ scope, tool.scope = some scope → ∃ given, token = some given ∧ scope ∈ given.scopes := by
  unfold gate
  cases tool.scope with
  | none => exact iff_of_true rfl nofun
  | some requiredScope =>
      cases token with
      | none =>
          apply iff_of_false nofun
          intro allowed
          rcases allowed requiredScope rfl with ⟨given, isGiven, _⟩
          cases isGiven
      | some token =>
          dsimp only
          constructor
          · intro passed scope same
            cases same
            by_contra missing
            rw [if_neg fun member => missing ⟨token, rfl, member⟩] at passed
            cases passed
          · intro allowed
            rcases allowed requiredScope rfl with ⟨given, isGiven, member⟩
            cases isGiven
            exact if_pos member

theorem gate_of_admitted {limits : Limits} {token : Option AccessToken} {tool : ToolCall}
    {operation : Operation} (admitted : admittedOperation limits token tool = some operation) :
    gate token tool = none ∧ tool.operation limits = some operation := by
  unfold admittedOperation at admitted
  split at admitted
  · next passed => exact ⟨passed.1, admitted⟩
  · cases admitted

/-- A call that gets to no operation is answered without the database. -/
theorem callTool_congr {environment : Environment} {limits : Limits} {metadataUrl : Text}
    {clock : Clock} {token : Option AccessToken} {tool : ToolCall}
    (idle : admittedOperation limits token tool = none) (left right : Database) :
    callTool environment limits metadataUrl clock left token tool =
      callTool environment limits metadataUrl clock right token tool := by
  unfold admittedOperation at idle
  unfold callTool
  cases passed : gate token tool with
  | some authError => rfl
  | none =>
      dsimp only
      cases does : tool.operation limits with
      | none => rfl
      | some operation =>
          dsimp only
          by_cases admitted : tool.Admitted
          · rw [if_pos ⟨passed, admitted⟩, does] at idle
            cases idle
          · rw [if_neg admitted, if_neg admitted]

end RollingBudget.Mcp
