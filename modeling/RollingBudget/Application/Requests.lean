import RollingBudget.Api.Routes
import RollingBudget.Mcp.Server

namespace RollingBudget

open OAuth Outcome

/-! The application that `create_app` puts together: the REST interface, the authorization server
and the MCP server, over one database. -/

/-- The application with remote access configured. -/
structure Application where
  settings : Settings
  limits : Limits
  router : Router
  backend : Mcp.BearerAuthBackend
  metadataUrl : Text
  environment : Environment

/-- The tables of the authorization server and those of the budget. -/
structure ApplicationState where
  store : OAuthStore
  database : Database

inductive Request where
  | api (credentials : Option HTTPAuthorizationCredentials) (route : Api.Route)
  | tool (authorization : Option Text) (tool : Mcp.ToolCall)
  | authorize (queryString : Bytes)
  | authorizeConsent (contentType : Option Text) (body : Bytes)
  | token (contentType : Option Text) (body : Bytes)
  | revoke (contentType : Option Text) (body : Bytes)

/-- A request with its `Content-Length` header, and what it meets. -/
structure Arrival where
  request : Request
  contentLength : Option Text
  occasion : Occasion
  clock : Clock

inductive Answer where
  | refused (statusCode : Nat) (detail : Text)
  | api (answer : Api.ApiAnswer)
  | tool (answer : Mcp.ToolAnswer)
  | authorization (response : HttpResponse)
  | token (answer : TokenAnswer)

namespace Application

variable (application : Application)

/-! ## `request_safety` -/

def requestLimit (request : Request) : Nat :=
  match request with
  | .tool _ _ => application.limits.mcpMaxRequestBytes
  | _ => application.limits.maxRequestBytes

/-- `request_safety`, when it answers itself. -/
def requestSafety (arrival : Arrival) : Option (Nat × Text) :=
  match nonempty arrival.contentLength with
  | none => none
  | some contentLength =>
      match application.router.builtins.intOfText contentLength with
      | none => some (400, "Invalid Content-Length".toList)
      | some length =>
          if application.requestLimit arrival.request < length then
            some (413, "Request body too large".toList)
          else none

/-! ## Handling a request -/

/-- The access token in the context of an MCP request. -/
def accessToken (state : ApplicationState) (occasion : Occasion) (authorization : Option Text) :
    Option Mcp.AccessToken :=
  application.backend.authenticate
    (Mcp.verifyToken application.router.toOAuthService state.store occasion.now) authorization

/-- The operation on the budget that a route or a tool does. -/
def routed (state : ApplicationState) (arrival : Arrival) : Option Operation :=
  match arrival.request with
  | .api credentials route =>
      Api.admittedOperation application.settings application.limits credentials route
  | .tool authorization tool =>
      Mcp.admittedOperation application.limits
        (application.accessToken state arrival.occasion authorization) tool
  | _ => none

/-- The tables of the authorization server after a request, and what it is answered. -/
def respond (state : ApplicationState) (arrival : Arrival) : OAuthStore × Answer :=
  match arrival.request with
  | .api credentials route =>
      (state.store, .api (Api.handle application.environment application.settings
        application.limits arrival.clock state.database credentials route))
  | .tool authorization tool =>
      (state.store, .tool (Mcp.callTool application.environment application.limits
        application.metadataUrl arrival.clock state.database
        (application.accessToken state arrival.occasion authorization) tool))
  | .authorize queryString =>
      (state.store, .authorization (application.router.authorize arrival.occasion queryString))
  | .authorizeConsent contentType body =>
      let answered :=
        application.router.authorizeConsent state.store arrival.occasion contentType body
      (answered.1, .authorization answered.2)
  | .token contentType body =>
      let answered := application.router.token state.store arrival.occasion contentType body
      (answered.1, .token answered.2)
  | .revoke contentType body =>
      let answered := application.router.revokeToken state.store arrival.occasion contentType body
      (answered.1, .token answered.2)

def handle (state : ApplicationState) (arrival : Arrival) : ApplicationState × Answer :=
  match application.requestSafety arrival with
  | some refusal => (state, .refused refusal.1 refusal.2)
  | none =>
      let answered := application.respond state arrival
      let database := match application.routed state arrival with
        | some operation =>
            operation.committed application.environment arrival.clock state.database
        | none => state.database
      (⟨answered.1, database⟩, answered.2)

/-- The application from the empty database on. -/
def machine : Machine ApplicationState Arrival where
  initial := ⟨OAuthStore.empty, Database.empty⟩
  step := fun state arrival => (application.handle state arrival).1

/-! ## What a request does to each part -/

/-- The operation on the budget that a request gets to. -/
def operation (state : ApplicationState) (arrival : Arrival) : Option Operation :=
  match application.requestSafety arrival with
  | some _ => none
  | none => application.routed state arrival

def serviceEvents (state : ApplicationState) (arrival : Arrival) : List Event :=
  ((application.operation state arrival).bind Operation.call).toList.map fun call =>
    ⟨call, arrival.clock⟩

def oauthEvents (_ : ApplicationState) (arrival : Arrival) : List OAuth.Event :=
  match application.requestSafety arrival with
  | some _ => []
  | none =>
      match arrival.request with
      | .authorizeConsent contentType body =>
          application.router.consentEvents arrival.occasion contentType body
      | .token contentType body =>
          Router.callEvents arrival.occasion (tokenCall contentType body)
      | .revoke contentType body =>
          Router.callEvents arrival.occasion
            (revokeCall application.router.config contentType body)
      | _ => []

/-- The writes of a history that got to the services, in order. -/
def serviceHistory (history : List Arrival) : List Event :=
  application.machine.collect application.serviceEvents history

/-- The calls of the authorization server in a history, in order. -/
def oauthHistory (history : List Arrival) : List OAuth.Event :=
  application.machine.collect application.oauthEvents history

variable {application}

theorem handle_database (state : ApplicationState) (arrival : Arrival) :
    (application.handle state arrival).1.database =
      (application.serviceEvents state arrival).foldl
        (service application.environment).step state.database := by
  unfold serviceEvents operation handle
  cases application.requestSafety arrival with
  | some refusal => rfl
  | none =>
      dsimp only
      cases application.routed state arrival with
      | none => rfl
      | some operation => cases operation <;> rfl

theorem handle_store (state : ApplicationState) (arrival : Arrival) :
    (application.handle state arrival).1.store =
      (application.oauthEvents state arrival).foldl application.router.machine.step
        state.store := by
  unfold oauthEvents handle
  cases application.requestSafety arrival with
  | some refusal => rfl
  | none =>
      dsimp only
      unfold respond
      cases arrival.request with
      | api credentials route => rfl
      | tool authorization tool => rfl
      | authorize queryString => rfl
      | authorizeConsent contentType body =>
          exact Router.authorizeConsent_store state.store arrival.occasion contentType body
      | token contentType body => exact Router.handle_store state.store arrival.occasion _
      | revoke contentType body => exact Router.handle_store state.store arrival.occasion _

/-- The budget is what the services make of the writes that got to them. -/
theorem run_database (history : List Arrival) :
    (application.machine.run history).database =
      (service application.environment).run (application.serviceHistory history) :=
  application.machine.run_projects (service application.environment) ApplicationState.database rfl
    handle_database history

theorem run_store (history : List Arrival) :
    (application.machine.run history).store =
      application.router.machine.run (application.oauthHistory history) :=
  application.machine.run_projects application.router.machine ApplicationState.store rfl
    handle_store history

/-- A request that gets to no operation is answered without the budget. -/
theorem answer_congr {state : ApplicationState} {arrival : Arrival} (database : Database)
    (idle : application.operation state arrival = none) :
    (application.handle ⟨state.store, database⟩ arrival).2 =
      (application.handle state arrival).2 := by
  unfold operation at idle
  unfold handle
  cases safe : application.requestSafety arrival with
  | some refusal => rfl
  | none =>
      rw [safe] at idle
      dsimp only
      unfold routed at idle
      unfold respond
      cases sent : arrival.request with
      | api credentials route =>
          rw [sent] at idle
          exact congrArg Answer.api (Api.handle_congr idle _ _)
      | tool authorization tool =>
          rw [sent] at idle
          exact congrArg Answer.tool (Mcp.callTool_congr idle _ _)
      | authorize queryString => rfl
      | authorizeConsent contentType body => rfl
      | token contentType body => rfl
      | revoke contentType body => rfl

end Application

/-! ## A small application -/

namespace Sample

/-- A backend that reads what stands after the name of the scheme. -/
def backend : Mcp.BearerAuthBackend where
  authenticate verify authorization :=
    (authorization.filter (List.isPrefixOf "Bearer ".toList)).bind fun header =>
      verify (header.drop 7)
  verified := by
    intro verify authorization token accepted
    rcases Option.bind_eq_some_iff.mp accepted with ⟨header, _, verified⟩
    exact ⟨_, verified⟩

def application : Application where
  settings := settings
  limits := ⟨250, 1048576, 2097152, 36⟩
  router := OAuth.Sample.router
  backend := backend
  metadataUrl := "https://budget.example/.well-known/oauth-protected-resource/mcp".toList
  environment := .transparent

def arrival (request : Request) (second : Nat) (firstToken secondToken : Char)
    (familyId : Nat) : Arrival where
  request := request
  contentLength := none
  occasion :=
    { now := seconds second
      issuedAt := seconds second
      nonce := "nonce".toList
      draws := ⟨OAuth.Sample.token firstToken, OAuth.Sample.token secondToken, familyId⟩ }
  clock := clock

/-- The owner sets the configuration with the key of the settings. -/
def configuring : Arrival :=
  arrival (.api (some ⟨"Bearer".toList, List.replicate 24 'k'⟩) (.replaceConfig weekly none))
    0 'a' 'b' 0

/-- Someone asks for it without a token. -/
def asking : Arrival := arrival (.tool none .getConfig) 1 'c' 'd' 1

end Sample

end RollingBudget
