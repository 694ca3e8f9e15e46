import RollingBudget.Application.Authorization
import RollingBudget.OAuth.HonestRequests

namespace RollingBudget

open OAuth ConsentService Router

/-! A client that follows the protocol gets its tokens, and with them it gets to the tools. -/

namespace Application

variable (application : Application)

/-! ## The flow -/

/-- A client that follows the protocol, and the owner for whom it asks. -/
structure Honest (request : AuthorizationRequest) (codeVerifier ownerSecret : Text) : Prop where
  valid : application.router.validateAuthorizationRequest request = .ok ()
  registered : validateChatgptClientMetadata request.clientId request.redirectUri
    application.router.loadClientMetadata = .ok ()
  verifier : OAuthService.IsVerifier codeVerifier
  challenge : application.router.cryptography.s256 codeVerifier = request.codeChallenge
  matched : application.router.ownerSecretMatches ownerSecret = some true

/-- The client asks for the consent page. -/
structure Asks (request : AuthorizationRequest) (page : Arrival) : Prop where
  sent : ∃ queryString, page.request = .authorize queryString ∧ AsksFor request queryString
  safe : application.requestSafety page = none

/-- The owner approves on that page, before it expires. -/
structure ApprovesPage (consentToken ownerSecret : Text) (page approval : Arrival) : Prop where
  sent : ∃ contentType body form, approval.request = .authorizeConsent contentType body ∧
    ApprovesWith consentToken ownerSecret contentType body form
  safe : application.requestSafety approval = none
  intime : timestamp approval.occasion.now ≤
    timestamp page.occasion.now + application.router.config.authorizationCodeTtlSeconds

/-- The client redeems the code that the approval drew, before it expires. -/
structure RedeemsCode (request : AuthorizationRequest) (codeVerifier : Text)
    (approval redemption : Arrival) : Prop where
  sent : ∃ contentType body form, redemption.request = .token contentType body ∧
    ExchangesWith request approval.occasion.draws.firstToken.text codeVerifier contentType body
      form
  safe : application.requestSafety redemption = none
  intime : redemption.occasion.now <
    approval.occasion.issuedAt + seconds application.router.config.authorizationCodeTtlSeconds

/-- The code that an approval hands out. -/
def grantOf (request : AuthorizationRequest) (approval : Arrival) : CodeGrant where
  request := restored request
  code := approval.occasion.draws.firstToken.text
  issuedAt := approval.occasion.issuedAt

/-- What a redemption hands out for it. -/
def issuanceOf (request : AuthorizationRequest) (approval redemption : Arrival) : Issuance where
  grant := .authorizationCode approval.occasion.draws.firstToken.text
  clientId := request.clientId
  resource := request.resource
  family := some redemption.occasion.draws.familyId
  pair := application.router.pair redemption.occasion.draws (restored request).scopes
  issuedAt := redemption.occasion.now

/-- The calls that a stretch of requests makes of the authorization server. -/
def oauthCalls (stretch : List Arrival) : List OAuth.Event :=
  stretch.flatMap (application.oauthEvents application.machine.initial)

/-- A request for a tool that carries the access token of a redemption while it lives. -/
structure Presents (history : List Arrival) (redemption use : Arrival) (tool : Mcp.ToolCall) :
    Prop where
  sent : ∃ authorization, use.request = .tool authorization tool ∧
    application.accessToken (application.machine.run history) use.occasion authorization =
      Mcp.verifyToken application.router.toOAuthService (application.machine.run history).store
        use.occasion.now redemption.occasion.draws.firstToken.text
  safe : application.requestSafety use = none
  later : ∀ event ∈ application.oauthHistory history, event.now ≤ use.occasion.now
  unexpired : use.occasion.now <
    redemption.occasion.now + seconds application.router.config.accessTokenTtlSeconds
  unrevoked : ¬(application.machine.run history).store.Revoked redemption.occasion.draws.familyId

variable {application} {request : AuthorizationRequest} {codeVerifier ownerSecret : Text}
  {page approval redemption : Arrival} {consentToken : Text}

/-! ## The calls of the flow -/

theorem oauthHistory_eq (history : List Arrival) :
    application.oauthHistory history = application.oauthCalls history := by
  induction history using List.reverseRecOn with
  | nil => rfl
  | append_singleton history arrival induction =>
      unfold oauthHistory at induction ⊢
      unfold oauthCalls at induction ⊢
      rw [Machine.collect_concat, induction, List.flatMap_append, List.flatMap_singleton]
      rfl

theorem handle_answer {state : ApplicationState} {arrival : Arrival}
    (safe : application.requestSafety arrival = none) :
    (application.handle state arrival).2 = (application.respond state arrival).2 := by
  unfold handle
  rw [safe]

/-- The page is the same in every state. -/
theorem answer_of_asks (honest : application.Honest request codeVerifier ownerSecret)
    (asks : application.Asks request page)
    (signed : application.router.signConsent page.occasion.now page.occasion.nonce
      (restored request) = .ok consentToken) (state : ApplicationState) :
    (application.handle state page).2 =
      .authorization (.consentPage 200 consentToken (restored request).scopes none) := by
  rcases asks.sent with ⟨queryString, sent, asked⟩
  rw [handle_answer asks.safe]
  unfold respond
  rw [sent]
  exact congrArg Answer.authorization
    (Router.authorize_of_asks asked honest.valid honest.registered signed)

theorem approvedRequest_of_approves
    (honest : application.Honest request codeVerifier ownerSecret)
    (signed : application.router.signConsent page.occasion.now page.occasion.nonce
      (restored request) = .ok consentToken)
    (approves : application.ApprovesPage consentToken ownerSecret page approval) :
    ∃ contentType body, approval.request = .authorizeConsent contentType body ∧
      application.router.approvedRequest approval.occasion contentType body =
        some (restored request) := by
  rcases approves.sent with ⟨contentType, body, form, sent, approvesWith⟩
  refine ⟨contentType, body, sent, ?_⟩
  rw [Router.approvedRequest_of_approves signed approvesWith approves.intime honest.matched,
    restored_restored]

theorem events_of_approves
    (honest : application.Honest request codeVerifier ownerSecret)
    (signed : application.router.signConsent page.occasion.now page.occasion.nonce
      (restored request) = .ok consentToken)
    (approves : application.ApprovesPage consentToken ownerSecret page approval)
    (state : ApplicationState) :
    application.oauthEvents state approval =
      [⟨.issueAuthorizationCode (restored request), approval.occasion.issuedAt,
        approval.occasion.draws⟩] := by
  rcases approvedRequest_of_approves honest signed approves with ⟨contentType, body, sent, read⟩
  unfold oauthEvents
  rw [approves.safe]
  dsimp only
  rw [sent]
  dsimp only
  unfold Router.consentEvents
  rw [read]
  rfl

theorem call_of_redeems (honest : application.Honest request codeVerifier ownerSecret)
    (redeems : application.RedeemsCode request codeVerifier approval redemption) :
    ∃ contentType body, redemption.request = .token contentType body ∧
      tokenCall contentType body = .ok (.exchangeAuthorizationCode
        (exchangeRequest request approval.occasion.draws.firstToken.text codeVerifier)) := by
  rcases redeems.sent with ⟨contentType, body, form, sent, exchanges⟩
  refine ⟨contentType, body, sent, Router.tokenCall_of_exchanges exchanges honest.valid ?_ ?_⟩
  · intro empty
    have long := approval.occasion.draws.firstToken.length_eq
    rw [empty] at long
    cases long
  · intro empty
    have verifier := honest.verifier
    rw [empty] at verifier
    revert verifier
    decide

theorem events_of_redeems (honest : application.Honest request codeVerifier ownerSecret)
    (redeems : application.RedeemsCode request codeVerifier approval redemption)
    (state : ApplicationState) :
    application.oauthEvents state redemption =
      [⟨.exchangeAuthorizationCode
          (exchangeRequest request approval.occasion.draws.firstToken.text codeVerifier),
        redemption.occasion.now, redemption.occasion.draws⟩] := by
  rcases call_of_redeems honest redeems with ⟨contentType, body, sent, read⟩
  unfold oauthEvents
  rw [redeems.safe]
  dsimp only
  rw [sent]
  dsimp only
  rw [read]
  rfl

/-! ## Every step of it -/

/-- The call that an approval of the page makes. -/
def issueOf (request : AuthorizationRequest) (approval : Arrival) : OAuth.Event where
  call := .issueAuthorizationCode (restored request)
  now := approval.occasion.issuedAt
  draws := approval.occasion.draws

/-- The call that a redemption of its code makes. -/
def attemptOf (request : AuthorizationRequest) (codeVerifier : Text)
    (approval redemption : Arrival) : OAuth.Event where
  call := .exchangeAuthorizationCode
    (exchangeRequest request approval.occasion.draws.firstToken.text codeVerifier)
  now := redemption.occasion.now
  draws := redemption.occasion.draws

variable (application) in
/-- An approval of the page and a redemption of its code, with what else comes in. -/
structure Flow (request : AuthorizationRequest) (codeVerifier ownerSecret : Text)
    (page : Arrival) (consentToken : Text) (before : List Arrival) (approval : Arrival)
    (between : List Arrival) (redemption : Arrival) (after : List Arrival) : Prop where
  approves : application.ApprovesPage consentToken ownerSecret page approval
  redeems : application.RedeemsCode request codeVerifier approval redemption
  tokens : DistinctTokens (application.oauthHistory
    (before ++ approval :: between ++ redemption :: after))
  families : DistinctFamilies (application.oauthHistory
    (before ++ approval :: between ++ redemption :: after))
  clock : Chronological (application.oauthHistory
    (before ++ approval :: between ++ redemption :: after))
  unclaimed : ∀ event ∈ application.oauthCalls between, ∀ exchange,
    ¬OAuth.Matches application.router.toOAuthService (grantOf request approval) event exchange

variable {before between after : List Arrival}

theorem validated_restored (honest : application.Honest request codeVerifier ownerSecret) :
    application.router.validateAuthorizationRequest (restored request) = .ok () := by
  rw [validate_restored]
  exact honest.valid

/-- The first of these calls, up to the redemption. -/
theorem oauthHistory_approved (honest : application.Honest request codeVerifier ownerSecret)
    (signed : application.router.signConsent page.occasion.now page.occasion.nonce
      (restored request) = .ok consentToken)
    (approves : application.ApprovesPage consentToken ownerSecret page approval) :
    application.oauthHistory (before ++ approval :: between) =
      application.oauthHistory before ++
        issueOf request approval :: application.oauthCalls between := by
  rw [oauthHistory_eq, oauthHistory_eq]
  unfold oauthCalls
  rw [List.flatMap_append, List.flatMap_cons, events_of_approves honest signed approves]
  rfl

theorem oauthHistory_redeemed (honest : application.Honest request codeVerifier ownerSecret)
    (signed : application.router.signConsent page.occasion.now page.occasion.nonce
      (restored request) = .ok consentToken)
    (approves : application.ApprovesPage consentToken ownerSecret page approval)
    (redeems : application.RedeemsCode request codeVerifier approval redemption) :
    application.oauthHistory (before ++ approval :: between ++ redemption :: after) =
      application.oauthHistory before ++
          issueOf request approval :: application.oauthCalls between ++
        attemptOf request codeVerifier approval redemption :: application.oauthCalls after := by
  rw [← oauthHistory_approved honest signed approves, oauthHistory_eq, oauthHistory_eq]
  unfold oauthCalls
  rw [List.flatMap_append, List.flatMap_cons, events_of_redeems honest redeems]
  rfl

namespace Flow

theorem attempted (collisionFree : application.router.CollisionFree)
    (honest : application.Honest request codeVerifier ownerSecret)
    (signed : application.router.signConsent page.occasion.now page.occasion.nonce
      (restored request) = .ok consentToken)
    (flow : application.Flow request codeVerifier ownerSecret page consentToken before approval
      between redemption after) :
    OAuthService.Attempted application.router.toOAuthService (application.oauthHistory before)
      (issueOf request approval) (grantOf request approval) (application.oauthCalls between)
      (attemptOf request codeVerifier approval redemption)
      (exchangeRequest request approval.occasion.draws.firstToken.text codeVerifier) := by
  have calls : application.oauthHistory (before ++ approval :: between ++ redemption :: after) =
      _ := oauthHistory_redeemed honest signed flow.approves flow.redeems
  have tokens := flow.tokens
  have families := flow.families
  have clock := flow.clock
  rw [calls, List.append_cons] at tokens families clock
  have upToIssue := tokens.of_append.of_append
  rw [List.append_cons] at upToIssue
  have issued := OAuthService.issued_of_validated collisionFree upToIssue.of_append
    (validated_restored honest)
  exact {
    handed := OAuthService.handed_of_issued issued
    tokens := tokens.of_append
    families := families.of_append
    clock := clock.of_append
    call := rfl
    code := rfl }

/-- The redemption matches the code. -/
theorem matched (honest : application.Honest request codeVerifier ownerSecret)
    (flow : application.Flow request codeVerifier ownerSecret page consentToken before approval
      between redemption after) :
    OAuth.Matches application.router.toOAuthService (grantOf request approval)
      (attemptOf request codeVerifier approval redemption)
      (exchangeRequest request approval.occasion.draws.firstToken.text codeVerifier) where
  call := rfl
  code := rfl
  client := rfl
  redirect := rfl
  resource := rfl
  verifier := honest.verifier
  challenge := honest.challenge
  intime := flow.redeems.intime

/-- The approval is answered with a redirect that carries the code. -/
theorem answer_approval (collisionFree : application.router.CollisionFree)
    (honest : application.Honest request codeVerifier ownerSecret)
    (signed : application.router.signConsent page.occasion.now page.occasion.nonce
      (restored request) = .ok consentToken)
    (flow : application.Flow request codeVerifier ownerSecret page consentToken before approval
      between redemption after) :
    ∃ location, (application.handle (application.machine.run before) approval).2 =
        .authorization (.redirect location) ∧
      LeadsTo location request.clientId request.redirectUri
        (presentFields
          [ ("code".toList, some approval.occasion.draws.firstToken.text),
            ("state".toList, request.state),
            ("iss".toList, some application.router.issuer) ]) := by
  have admitted := (OAuthService.redirect_of_validated honest.valid).1
  rcases redirect_admitted
    [ ("code".toList, some approval.occasion.draws.firstToken.text),
      ("state".toList, request.state),
      ("iss".toList, some application.router.issuer) ] admitted with ⟨location, redirected, leads⟩
  refine ⟨location, ?_, leads⟩
  have tokens := (flow.attempted collisionFree honest signed).tokens.of_append
  rw [List.append_cons] at tokens
  have issued := OAuthService.issued_of_validated collisionFree tokens.of_append
    (validated_restored honest)
  rcases approvedRequest_of_approves honest signed flow.approves with ⟨_, _, sent, read⟩
  rw [handle_answer flow.approves.safe]
  unfold respond
  rw [sent, run_store]
  dsimp only
  rw [Router.authorizeConsent_approved read issued]
  exact congrArg Answer.authorization redirected

/-- The redemption is answered with the drawn tokens, and hands them out. -/
theorem answer_redemption (collisionFree : application.router.CollisionFree)
    (honest : application.Honest request codeVerifier ownerSecret)
    (signed : application.router.signConsent page.occasion.now page.occasion.nonce
      (restored request) = .ok consentToken)
    (flow : application.Flow request codeVerifier ownerSecret page consentToken before approval
      between redemption after) :
    (application.handle (application.machine.run (before ++ approval :: between)) redemption).2 =
        .token (.tokens
          (application.router.pair redemption.occasion.draws (restored request).scopes)) ∧
      (attemptOf request codeVerifier approval redemption).handed application.router.toOAuthService
          (application.router.machine.run
            (application.oauthHistory (before ++ approval :: between))) =
        .tokens (application.issuanceOf request approval redemption) := by
  have grantable := OAuthService.grantable_of_validated (validated_restored honest)
  rcases (flow.attempted collisionFree honest signed).handed_of_matches collisionFree
    (flow.matched honest) flow.unclaimed grantable with ⟨committed, outcome, handed⟩
  rw [← oauthHistory_approved honest signed flow.approves] at outcome handed
  rcases call_of_redeems honest flow.redeems with ⟨_, _, sent, read⟩
  refine ⟨?_, handed⟩
  rw [handle_answer flow.redeems.safe]
  unfold respond
  rw [sent, run_store]
  dsimp only
  unfold Router.token
  rw [read]
  unfold Router.handle
  dsimp only
  rw [outcome]
  rfl

/-- While it lives, the access token gets its bearer through the verifier. -/
theorem verified (collisionFree : application.router.CollisionFree)
    (honest : application.Honest request codeVerifier ownerSecret)
    (signed : application.router.signConsent page.occasion.now page.occasion.nonce
      (restored request) = .ok consentToken)
    (flow : application.Flow request codeVerifier ownerSecret page consentToken before approval
      between redemption after) {use : Arrival} {tool : Mcp.ToolCall}
    (presents : application.Presents (before ++ approval :: between ++ redemption :: after)
      redemption use tool) :
    application.router.verifyAccessToken
        (application.machine.run (before ++ approval :: between ++ redemption :: after)).store
        use.occasion.now redemption.occasion.draws.firstToken.text =
      some (OAuthService.viewOf application.router.toOAuthService
        (application.issuanceOf request approval redemption)) := by
  have calls : application.oauthHistory (before ++ approval :: between ++ redemption :: after) =
      _ := oauthHistory_redeemed honest signed flow.approves flow.redeems
  rw [← oauthHistory_approved honest signed flow.approves] at calls
  have families := flow.families
  have clock := flow.clock
  have later := presents.later
  have unrevoked := presents.unrevoked
  rw [run_store] at unrevoked ⊢
  rw [calls] at families clock later unrevoked ⊢
  apply OAuthService.accepted_of_handed collisionFree families clock later
    (flow.answer_redemption collisionFree honest signed).2 presents.unexpired
  intro id ofFamily
  cases ofFamily
  exact unrevoked

/-- It gets the client to every tool that it covers. -/
theorem operation_of_presents (collisionFree : application.router.CollisionFree)
    (honest : application.Honest request codeVerifier ownerSecret)
    (signed : application.router.signConsent page.occasion.now page.occasion.nonce
      (restored request) = .ok consentToken)
    (flow : application.Flow request codeVerifier ownerSecret page consentToken before approval
      between redemption after) {use : Arrival} {tool : Mcp.ToolCall}
    (presents : application.Presents (before ++ approval :: between ++ redemption :: after)
      redemption use tool) (admitted : tool.Admitted)
    (covered : ∀ scope, tool.scope = some scope → scope ∈ request.scopes) :
    application.operation
        (application.machine.run (before ++ approval :: between ++ redemption :: after)) use =
      tool.operation application.limits := by
  have accepted := flow.verified collisionFree honest signed presents
  rcases presents.sent with ⟨authorization, sent, carried⟩
  unfold Application.operation
  rw [presents.safe]
  dsimp only
  unfold routed
  rw [sent]
  dsimp only
  rw [carried]
  unfold Mcp.verifyToken
  rw [accepted]
  refine if_pos ⟨Mcp.gate_eq_none_iff.mpr fun scope needed => ⟨_, rfl, ?_⟩, admitted⟩
  exact Sorting.mem_sortedOn.mpr (List.mem_dedup.mpr (covered scope needed))

end Flow

end Application

/-! ## A small flow -/

namespace Sample

/-- What the client registered. -/
def clientMetadata : List (JsonString × JsonValue) :=
  [ ("client_id".toList, .str chatgptStableClientId),
    ("redirect_uris".toList, .arr [.str chatgptStableRedirectUri]),
    ("grant_types".toList, .arr [.str "authorization_code".toList, .str "refresh_token".toList]),
    ("response_types".toList, .arr [.str "code".toList]),
    ("token_endpoint_auth_methods_supported".toList, .arr [.str "none".toList]) ]

/-- The small application, with a client that can be looked up. -/
def connecting : Application :=
  { application with
    router := { OAuth.Sample.router with
      hmacDigest := fun key message => Text.encode ((key ++ message).take 32)
      loadClientMetadata := fun _ => .ok clientMetadata } }

def ownerSecret : Text := connecting.router.config.consentSecret

def page : Arrival :=
  arrival (.authorize (encodeFields (authorizationFields OAuth.Sample.request))) 0 'p' 'q' 0

/-- The token on the page. -/
def shown : Text :=
  match connecting.router.signConsent page.occasion.now page.occasion.nonce
      (restored OAuth.Sample.request) with
  | .ok consentToken => consentToken
  | .error _ => []

def approving : Arrival :=
  arrival (.authorizeConsent formType (encodeFields (answerFields shown ownerSecret)))
    10 'a' 'a' 0

def redeeming : Arrival :=
  arrival (.token formType (encodeFields (exchangeFields OAuth.Sample.request
    (OAuth.Sample.token 'a').text OAuth.Sample.verifier))) 20 'b' 'c' 7

/-- The header with the access token of the redemption. -/
def bearer : Text := "Bearer ".toList ++ (OAuth.Sample.token 'b').text

def reading : Arrival := arrival (.tool (some bearer) .getConfig) 30 'd' 'e' 0

theorem ok_of_isOk {ε : Type} {outcome : Except ε Unit}
    (succeeds : outcome.isOk = true) : outcome = .ok () := by
  rcases Outcome.exists_of_isOk succeeds with ⟨⟨⟩, completed⟩
  exact completed

theorem honest : connecting.Honest OAuth.Sample.request OAuth.Sample.verifier ownerSecret where
  valid := ok_of_isOk (by decide +kernel)
  registered := ok_of_isOk (by decide +kernel)
  verifier := by decide +kernel
  challenge := rfl
  matched := by decide +kernel

theorem asks : connecting.Asks OAuth.Sample.request page :=
  ⟨⟨_, rfl, asksFor_encodeFields _⟩, rfl⟩

theorem signed : connecting.router.signConsent page.occasion.now page.occasion.nonce
    (restored OAuth.Sample.request) = .ok shown := by
  unfold shown
  rw [signConsent_eq (Application.validated_restored honest)]

/-- So read, a length is not counted in unary. -/
theorem fits_of_drop {fields : List (Text × Text)}
    (rest : (Url.urlencode fields).drop formLimitBytes = []) :
    (encodeFields fields).length ≤ formLimitBytes := by
  rw [length_encodeFields]
  exact List.drop_eq_nil_iff.mp rest

theorem approves : connecting.ApprovesPage shown ownerSecret page approving where
  sent := ⟨_, _, _, rfl, Router.approvesWith_answerFields (fits_of_drop (by decide +kernel))⟩
  safe := rfl
  intime := by
    have now : approving.occasion.now = seconds 10 := rfl
    have signedAt : page.occasion.now = seconds 0 := rfl
    have lifetime : connecting.router.config.authorizationCodeTtlSeconds = 300 := rfl
    rw [now, signedAt, lifetime]
    decide +kernel

theorem redeems : connecting.RedeemsCode OAuth.Sample.request OAuth.Sample.verifier approving
    redeeming where
  sent := ⟨_, _, _, rfl, Router.exchangesWith_exchangeFields (fits_of_drop (by decide +kernel))⟩
  safe := rfl
  intime := by
    have now : redeeming.occasion.now = seconds 20 := rfl
    have issuedAt : approving.occasion.issuedAt = seconds 10 := rfl
    have lifetime : connecting.router.config.authorizationCodeTtlSeconds = 300 := rfl
    rw [now, issuedAt, lifetime]
    decide +kernel

/-- The owner sets the configuration, and someone without a token asks for it twice. -/
def connected : List Arrival :=
  [configuring, page] ++ approving :: [asking] ++ redeeming :: [asking]

theorem calls : connecting.oauthHistory connected =
    [Application.issueOf OAuth.Sample.request approving,
      Application.attemptOf OAuth.Sample.request OAuth.Sample.verifier approving redeeming] :=
  Application.oauthHistory_redeemed honest signed approves redeems

theorem flow : connecting.Flow OAuth.Sample.request OAuth.Sample.verifier ownerSecret page shown
    [configuring, page] approving [asking] redeeming [asking] := by
  have history : connecting.oauthHistory
      ([configuring, page] ++ approving :: [asking] ++ redeeming :: [asking]) = _ := calls
  refine ⟨approves, redeems, ?_, ?_, ?_, nofun⟩
  · rw [history]
    unfold DistinctTokens
    decide +kernel
  · rw [history]
    unfold DistinctFamilies
    decide +kernel
  · rw [history]
    unfold Chronological
    decide +kernel

theorem authenticate_bearer (verify : Text → Option Mcp.AccessToken) :
    backend.authenticate verify (some bearer) = verify (OAuth.Sample.token 'b').text := by
  have scheme : (some bearer).filter (List.isPrefixOf "Bearer ".toList) = some bearer := by
    decide +kernel
  have token : bearer.drop 7 = (OAuth.Sample.token 'b').text := by decide +kernel
  unfold backend
  dsimp only
  rw [scheme, Option.bind_some, token]

/-- Ten seconds after the redemption the access token is presented. -/
theorem presents : connecting.Presents connected redeeming reading .getConfig where
  sent := ⟨some bearer, rfl, authenticate_bearer _⟩
  safe := rfl
  later := by
    rw [calls]
    decide +kernel
  unexpired := by
    have now : reading.occasion.now = seconds 30 := rfl
    have issuedAt : redeeming.occasion.now = seconds 20 := rfl
    have lifetime : connecting.router.config.accessTokenTtlSeconds = 900 := rfl
    rw [now, issuedAt, lifetime]
    decide +kernel
  unrevoked := by
    rw [Application.run_store, calls]
    unfold OAuthStore.Revoked
    decide +kernel

end Sample

namespace Application

/-- A client that follows the protocol is shown the consent page. When the owner approves on it,
the redirect takes a code to the client, the code is redeemed for a pair with the scopes that
were asked for, and the access token gets the client to every tool that these scopes cover,
until it expires or is revoked, whatever else the application is asked in the meantime. -/
theorem honest_client_connects (application : Application)
    (collisionFree : application.router.CollisionFree) {request : AuthorizationRequest}
    {codeVerifier ownerSecret : Text} {page : Arrival}
    (honest : application.Honest request codeVerifier ownerSecret)
    (asks : application.Asks request page) :
    ∃ consentToken,
      (∀ state, (application.handle state page).2 =
        .authorization (.consentPage 200 consentToken (restored request).scopes none)) ∧
      ∀ before approval between redemption after,
        application.Flow request codeVerifier ownerSecret page consentToken before approval
          between redemption after →
        (∃ location, (application.handle (application.machine.run before) approval).2 =
            .authorization (.redirect location) ∧
          LeadsTo location request.clientId request.redirectUri
            (presentFields
              [ ("code".toList, some approval.occasion.draws.firstToken.text),
                ("state".toList, request.state),
                ("iss".toList, some application.router.issuer) ])) ∧
        (application.handle (application.machine.run (before ++ approval :: between))
            redemption).2 =
          .token (.tokens
            (application.router.pair redemption.occasion.draws (restored request).scopes)) ∧
        ∀ use tool,
          application.Presents (before ++ approval :: between ++ redemption :: after) redemption
            use tool → tool.Admitted →
          (∀ scope, tool.scope = some scope → scope ∈ request.scopes) →
          application.operation
              (application.machine.run (before ++ approval :: between ++ redemption :: after)) use =
            tool.operation application.limits := by
  have signed : application.router.signConsent page.occasion.now page.occasion.nonce
      (restored request) = .ok _ := signConsent_eq (validated_restored honest)
  refine ⟨_, answer_of_asks honest asks signed, ?_⟩
  intro before approval between redemption after flow
  exact ⟨flow.answer_approval collisionFree honest signed,
    (flow.answer_redemption collisionFree honest signed).1, fun _ _ presents admitted covered =>
      flow.operation_of_presents collisionFree honest signed presents admitted covered⟩

/-- The tokens of the flow let the client read the configuration. -/
theorem honest_client_connects_reading :
    Sample.connecting.operation (Sample.connecting.machine.run Sample.connected) Sample.reading =
      some .getConfig := by
  rcases honest_client_connects Sample.connecting OAuth.Sample.collisionFree Sample.honest
    Sample.asks with ⟨consentToken, shown, connects⟩
  have same := (shown Sample.connecting.machine.initial).symm.trans
    (answer_of_asks Sample.honest Sample.asks Sample.signed _)
  have sameToken := (HttpResponse.consentPage.inj (Answer.authorization.inj same)).2.1
  rw [sameToken] at connects
  exact (connects _ Sample.approving _ Sample.redeeming _ Sample.flow).2.2
    Sample.reading .getConfig Sample.presents trivial (by
      intro scope needed
      cases needed
      decide +kernel)

/-- In this flow the key lets the owner write the configuration, the access token lets the client
read it, and the requests without a token change nothing. -/
theorem operations_authorized_reading :
    Sample.connecting.Authorized [] Sample.configuring (.write (.putConfig Sample.weekly none)) ∧
      Sample.connecting.Authorized Sample.connected Sample.reading .getConfig ∧
      (Sample.connecting.machine.run ([Sample.configuring] ++ [Sample.page])).database =
        (Sample.connecting.machine.run [Sample.configuring]).database := by
  have configures : Sample.connecting.operation (Sample.connecting.machine.run [])
      Sample.configuring = some (.write (.putConfig Sample.weekly none)) := by
    decide +kernel
  have reads : Sample.connecting.operation (Sample.connecting.machine.run Sample.connected)
      Sample.reading = some .getConfig :=
    Sample.flow.operation_of_presents OAuth.Sample.collisionFree Sample.honest Sample.signed
      Sample.presents trivial (by
        intro scope needed
        cases needed
        decide +kernel)
  have calls : Sample.connecting.oauthHistory (Sample.connected ++ [Sample.reading]) =
      Sample.connecting.oauthHistory Sample.connected ++ [] := Machine.collect_concat ..
  have families : DistinctFamilies
      (Sample.connecting.oauthHistory (Sample.connected ++ [Sample.reading])) := by
    rw [calls, List.append_nil, Sample.calls]
    unfold DistinctFamilies
    decide +kernel
  have authorized := (operations_authorized Sample.connecting OAuth.Sample.collisionFree
    (Sample.connected ++ [Sample.reading]) families).2
  refine ⟨(authorized [] Sample.configuring _ rfl).1 _ configures,
    (authorized Sample.connected Sample.reading [] rfl).1 _ reads, ?_⟩
  exact ((authorized [Sample.configuring] Sample.page _ rfl).2 rfl).1

end Application

end RollingBudget
