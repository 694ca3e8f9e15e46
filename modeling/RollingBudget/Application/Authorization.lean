import RollingBudget.Application.Requests
import RollingBudget.OAuth.AccessTokens

namespace RollingBudget

open OAuth

/-! Nothing reads or changes the budget but what its owner allowed: with an API key, or with an
access token that goes back to a consent of the owner to the scope of the operation. -/

/-! ## What an operation needs -/

/-- The level of an API key that may do an operation. -/
def Operation.minimum : Operation → AccessLevel
  | .write (.putConfig _ _) => .admin
  | .write (.putConfigChecked _ _) => .admin
  | .write _ => .write
  | .getConfig => .read
  | .getRefreshRun _ => .write
  | .getDashboard _ _ => .read

/-- The scope of an access token that may do an operation. -/
def Operation.scope : Operation → Text
  | .write (.putConfig _ _) => Mcp.budgetConfigScope
  | .write (.putConfigChecked _ _) => Mcp.budgetConfigScope
  | .write _ => Mcp.budgetRefreshScope
  | .getConfig => Mcp.budgetReadScope
  | .getRefreshRun _ => Mcp.budgetRefreshScope
  | .getDashboard _ _ => Mcp.budgetReadScope

theorem Api.Route.minimum_operation (limits : Limits) (route : Api.Route) :
    (route.operation limits).minimum = route.minimum := by
  cases route <;> rfl

theorem Mcp.ToolCall.scope_operation {limits : Limits} {tool : Mcp.ToolCall}
    {operation : Operation} (does : tool.operation limits = some operation) :
    tool.scope = some operation.scope := by
  cases tool <;> cases does <;> rfl

namespace Application

variable (application : Application)

/-- A POST in which the owner approves a request, with an owner secret. -/
def Approves (arrival : Arrival) (authorization : AuthorizationRequest) : Prop :=
  ∃ contentType body form consentToken,
    arrival.request = .authorizeConsent contentType body ∧
      application.router.readAnswer arrival.occasion contentType body =
        .ok (form, consentToken, authorization) ∧
      formValue form "action".toList = some "approve".toList ∧
      application.router.ownerSecretMatches ((formValue form "owner_secret".toList).getD []) =
        some true

/-- A token pair goes back to a code, and the code to an approval of the owner. -/
structure Descends (history : List Arrival) (issuance : Issuance) : Prop where
  issued : issuance ∈ application.router.issuances (application.oauthHistory history)
  approved : ∃ approval ∈ history, ∃ grant, application.Approves approval grant.request ∧
    application.router.BoundToCode (application.oauthHistory history) issuance grant

/-- Why an operation is allowed. -/
inductive Authorized (history : List Arrival) (arrival : Arrival) (operation : Operation) :
    Prop where
  | key (given : HTTPAuthorizationCredentials) (level : AccessLevel) (route : Api.Route)
      (sent : arrival.request = .api (some given) route)
      (bearer : given.scheme.map Char.toLower = "bearer".toList)
      (configured : (some given.credentials, level) ∈ application.settings.candidates)
      (sufficient : operation.minimum.value ≤ level.value)
  | token (authorization : Option Text) (tool : Mcp.ToolCall) (issuance : Issuance)
      (sent : arrival.request = .tool authorization tool)
      (presented : (application.accessToken (application.machine.run history) arrival.occasion
        authorization).map Mcp.AccessToken.token = some issuance.pair.accessToken)
      (descends : application.Descends history issuance)
      (covers : operation.scope ∈ issuance.pair.scopes)
      (unexpired : arrival.occasion.now <
        issuance.issuedAt + seconds application.router.config.accessTokenTtlSeconds)
      (unrevoked : ∀ id, issuance.family = some id →
        ¬(application.machine.run history).store.Revoked id)

variable {application} {history : List Arrival} {arrival : Arrival}

/-! ## Where tokens come from -/

/-- Only an issuing call hands out a code. -/
private theorem issues_of_handed {service : OAuthService} {store : OAuthStore}
    {event : OAuth.Event} {grant : CodeGrant}
    (handed : event.handed service store = .code grant) :
    event.call = .issueAuthorizationCode grant.request := by
  unfold OAuth.Event.handed at handed
  split at handed
  · next request rawCode calls _ =>
    cases handed
    exact calls
  · cases handed
  · cases handed
  · cases handed

/-- The forms of the other endpoints ask for no code. -/
private theorem notIssuing_of_call {occasion : Occasion} {read : Except HttpResponse OAuth.Call}
    {event : OAuth.Event} (emitted : event ∈ Router.callEvents occasion read) :
    read = .ok event.call := by
  cases read with
  | error response => cases emitted
  | ok call =>
      cases List.mem_singleton.mp emitted
      rfl

theorem approves_of_event {state : ApplicationState} {event : OAuth.Event}
    {request : AuthorizationRequest} (emitted : event ∈ application.oauthEvents state arrival)
    (issues : event.call = .issueAuthorizationCode request) :
    application.Approves arrival request := by
  unfold oauthEvents at emitted
  split at emitted
  · cases emitted
  · split at emitted
    · next contentType body sent =>
      rcases List.mem_map.mp emitted with ⟨authorization, approved, rfl⟩
      cases issues
      rcases Router.answer_of_approved (Option.mem_toList.mp approved) with
        ⟨form, consentToken, answer⟩
      exact ⟨contentType, body, form, consentToken, sent, answer⟩
    · next contentType body _ =>
      have read := notIssuing_of_call emitted
      rw [issues] at read
      exact absurd read tokenCall_ne_issue
    · next contentType body _ =>
      have read := notIssuing_of_call emitted
      rw [issues] at read
      exact absurd read revokeCall_ne_issue
    · cases emitted

/-- A code was handed out for a request that the owner had approved. -/
theorem approved_of_granted {grant : CodeGrant}
    (granted : grant ∈ application.router.codeGrants (application.oauthHistory history)) :
    ∃ approval ∈ history, application.Approves approval grant.request := by
  rcases OAuthService.mem_ledger_iff.mp (OAuthService.mem_codeGrants.mp granted) with
    ⟨before, event, after, split, handed⟩
  have member : event ∈ application.oauthHistory history := by
    rw [split]
    exact List.mem_append_right _ List.mem_cons_self
  rcases (application.machine.mem_collect_iff).mp member with
    ⟨earlier, approval, later, whole, emitted⟩
  refine ⟨approval, ?_, approves_of_event emitted (issues_of_handed handed.symm)⟩
  rw [whole]
  exact List.mem_append_right _ List.mem_cons_self

/-- An access token that the backend lets through was handed out, and it has neither expired nor
been revoked. -/
theorem descends_of_accessToken (collisionFree : application.router.CollisionFree)
    (families : DistinctFamilies (application.oauthHistory history)) {occasion : Occasion}
    {authorization : Option Text} {given : Mcp.AccessToken}
    (presented : application.accessToken (application.machine.run history) occasion
      authorization = some given) :
    ∃ issuance, given.token = issuance.pair.accessToken ∧ given.scopes = issuance.pair.scopes ∧
      application.Descends history issuance ∧
      occasion.now <
        issuance.issuedAt + seconds application.router.config.accessTokenTtlSeconds ∧
      ∀ id, issuance.family = some id →
        ¬(application.machine.run history).store.Revoked id := by
  rcases application.backend.verified _ _ _ presented with ⟨text, verified⟩
  rcases Option.map_eq_some_iff.mp verified with ⟨view, accepted, rfl⟩
  rw [run_store] at accepted
  rcases OAuthService.handed_of_accepted collisionFree families accepted with
    ⟨before, event, after, issuance, split, handed, same, unexpired, unrevoked, rfl⟩
  have issued : issuance ∈ application.router.issuances (application.oauthHistory history) :=
    OAuthService.mem_issuances.mpr
      (OAuthService.mem_ledger_iff.mpr ⟨before, event, after, split, handed.symm⟩)
  have derived := OAuthService.derived_of_issued collisionFree families issuance issued
  rcases derived.code with ⟨grant, bound⟩
  rcases approved_of_granted bound.granted with ⟨approval, earlier, approves⟩
  refine ⟨issuance, same.symm, rfl, ⟨issued, approval, earlier, grant, approves, bound⟩,
    unexpired, fun id ofFamily => ?_⟩
  rw [run_store, split]
  exact unrevoked after (List.prefix_refl _) id ofFamily

/-! ## Every operation -/

theorem authorized_of_operation (collisionFree : application.router.CollisionFree)
    (families : DistinctFamilies (application.oauthHistory history)) {operation : Operation}
    (reached : application.operation (application.machine.run history) arrival =
      some operation) :
    application.Authorized history arrival operation := by
  unfold Application.operation at reached
  cases safe : application.requestSafety arrival with
  | some refusal =>
      rw [safe] at reached
      cases reached
  | none =>
      rw [safe] at reached
      dsimp only at reached
      unfold routed at reached
      cases sent : arrival.request with
      | api credentials route =>
          rw [sent] at reached
          rcases Api.granted_of_admitted reached with
            ⟨rfl, given, level, rfl, bearer, configured, enough⟩
          rw [← Api.Route.minimum_operation application.limits] at enough
          exact .key given level route sent bearer configured enough
      | tool authorization tool =>
          rw [sent] at reached
          rcases Mcp.gate_of_admitted reached with ⟨passed, does⟩
          rcases Mcp.gate_eq_none_iff.mp passed _ (Mcp.ToolCall.scope_operation does) with
            ⟨given, presented, covers⟩
          rcases descends_of_accessToken collisionFree families presented with
            ⟨issuance, sameToken, sameScopes, descends, unexpired, unrevoked⟩
          rw [sameScopes] at covers
          refine .token authorization tool issuance sent ?_ descends covers unexpired unrevoked
          rw [presented, Option.map_some, sameToken]
      | authorize queryString =>
          rw [sent] at reached
          cases reached
      | authorizeConsent contentType body =>
          rw [sent] at reached
          cases reached
      | token contentType body =>
          rw [sent] at reached
          cases reached
      | revoke contentType body =>
          rw [sent] at reached
          cases reached

/-- The budget is what the services make of the writes that got to them. Each operation was
allowed when it came: by a configured key of sufficient level, or by an access token that is
neither expired nor revoked and goes back to a consent of the owner to its scope. A request that
gets to no operation leaves the budget as it is, and its answer says nothing about it. -/
theorem operations_authorized (application : Application)
    (collisionFree : application.router.CollisionFree) (history : List Arrival)
    (families : DistinctFamilies (application.oauthHistory history)) :
    (application.machine.run history).database =
        (service application.environment).run (application.serviceHistory history) ∧
      ∀ before arrival after, history = before ++ arrival :: after →
        (∀ operation,
          application.operation (application.machine.run before) arrival = some operation →
          application.Authorized before arrival operation) ∧
        (application.operation (application.machine.run before) arrival = none →
          (application.machine.run (before ++ [arrival])).database =
              (application.machine.run before).database ∧
            ∀ database, (application.handle
                ⟨(application.machine.run before).store, database⟩ arrival).2 =
              (application.handle (application.machine.run before) arrival).2) := by
  refine ⟨run_database history, fun before arrival after split =>
    ⟨fun operation reached => ?_, fun idle => ⟨?_, fun database => answer_congr database idle⟩⟩⟩
  · apply authorized_of_operation collisionFree _ reached
    have grows := application.machine.prefix_of_collect application.oauthEvents before
      (arrival :: after)
    rw [← split] at grows
    rcases grows with ⟨rest, whole⟩
    unfold oauthHistory at families
    rw [← whole] at families
    exact families.of_append
  · rw [Machine.run_concat]
    show (application.handle _ arrival).1.database = _
    rw [handle_database, serviceEvents, idle]
    rfl

end Application

end RollingBudget
