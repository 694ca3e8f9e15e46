import RollingBudget.OAuth.Redirects

namespace RollingBudget.OAuth

open Outcome

/-! The other endpoints of the authorization server. Each reads a form, makes one call of the
service from it, and answers with what the call returns. -/

/-- What `/oauth/token` and `/oauth/revoke` answer. -/
inductive TokenAnswer where
  | tokens (pair : TokenPair)
  | revoked
  | refused (response : HttpResponse)
deriving DecidableEq

/-! ## Reading the forms -/

/-- What the form of `/oauth/token` asks the service for. -/
def tokenCall (contentType : Option Text) (body : Bytes) : Except HttpResponse Call := do
  let form ← (readForm contentType body).mapError oauthError
  require (formValue form "client_secret".toList = none ∧
      formValue form "client_assertion".toList = none)
    (.oauthError OAuthErrorCode.invalidClient.text
      "This CIMD public client does not use client authentication".toList)
  let grantType ← (required form "grant_type".toList).mapError oauthError
  let clientId ← (required form "client_id".toList).mapError oauthError
  let resource ← (required form "resource".toList).mapError oauthError
  if grantType = "authorization_code".toList then do
    let code ← (required form "code".toList).mapError oauthError
    let redirectUri ← (required form "redirect_uri".toList).mapError oauthError
    let codeVerifier ← (required form "code_verifier".toList).mapError oauthError
    pure (.exchangeAuthorizationCode ⟨code, clientId, redirectUri, resource, codeVerifier⟩)
  else if grantType = "refresh_token".toList then do
    let refreshToken ← (required form "refresh_token".toList).mapError oauthError
    let requestedScopes := (nonempty (formValue form "scope".toList)).map splitWords
    pure (.refresh ⟨refreshToken, clientId, resource, requestedScopes⟩)
  else
    .error (.oauthError "unsupported_grant_type".toList
      "Only authorization_code and refresh_token are supported".toList)

/-- What the form of `/oauth/revoke` asks the service for. Client and resource are optional. -/
def revokeCall (config : OAuthConfig) (contentType : Option Text) (body : Bytes) :
    Except HttpResponse Call := do
  let form ← (readForm contentType body).mapError oauthError
  let _ ← (formValue form "client_id".toList).mapM fun clientId =>
    (validateChatgptClientId clientId).mapError fun _ =>
      HttpResponse.oauthError OAuthErrorCode.invalidClient.text
        "The OAuth client is invalid".toList
  require ((formValue form "resource".toList).all (· = config.resource))
    (.oauthError OAuthErrorCode.invalidTarget.text
      "The OAuth resource is not this MCP server".toList)
  let token ← (required form "token".toList).mapError oauthError
  pure (.revoke token)

/-- Neither form asks for a code. -/
theorem tokenCall_ne_issue {contentType : Option Text} {body : Bytes}
    {request : AuthorizationRequest} :
    tokenCall contentType body ≠ .ok (.issueAuthorizationCode request) := by
  intro read
  unfold tokenCall at read
  rcases Outcome.bind_eq_ok.mp read with ⟨form, _, read⟩
  rcases Outcome.bind_eq_ok.mp read with ⟨_, _, read⟩
  rcases Outcome.bind_eq_ok.mp read with ⟨grantType, _, read⟩
  rcases Outcome.bind_eq_ok.mp read with ⟨clientId, _, read⟩
  rcases Outcome.bind_eq_ok.mp read with ⟨resource, _, read⟩
  split at read
  · rcases Outcome.bind_eq_ok.mp read with ⟨code, _, read⟩
    rcases Outcome.bind_eq_ok.mp read with ⟨redirectUri, _, read⟩
    rcases Outcome.bind_eq_ok.mp read with ⟨codeVerifier, _, read⟩
    cases read
  · split at read
    · rcases Outcome.bind_eq_ok.mp read with ⟨refreshToken, _, read⟩
      cases read
    · cases read

theorem revokeCall_ne_issue {config : OAuthConfig} {contentType : Option Text} {body : Bytes}
    {request : AuthorizationRequest} :
    revokeCall config contentType body ≠ .ok (.issueAuthorizationCode request) := by
  intro read
  unfold revokeCall at read
  rcases Outcome.bind_eq_ok.mp read with ⟨form, _, read⟩
  rcases Outcome.bind_eq_ok.mp read with ⟨_, _, read⟩
  rcases Outcome.bind_eq_ok.mp read with ⟨_, _, read⟩
  rcases Outcome.bind_eq_ok.mp read with ⟨token, _, read⟩
  cases read

/-- A token that is asked to be revoked is not empty. -/
theorem ne_nil_of_revokeCall {config : OAuthConfig} {contentType : Option Text} {body : Bytes}
    {token : Text} (read : revokeCall config contentType body = .ok (.revoke token)) :
    token ≠ [] := by
  unfold revokeCall at read
  rcases Outcome.bind_eq_ok.mp read with ⟨form, _, read⟩
  rcases Outcome.bind_eq_ok.mp read with ⟨_, _, read⟩
  rcases Outcome.bind_eq_ok.mp read with ⟨_, _, read⟩
  rcases Outcome.bind_eq_ok.mp read with ⟨given, needed, read⟩
  cases read
  have present := orRaise_eq_ok.mp (mapError_eq_ok.mp needed)
  exact of_decide_eq_true (Option.filter_eq_some_iff.mp present).2

/-! ## The handlers -/

/-- What the endpoint answers when the service has been called. -/
def tokenAnswer : Except Raised (OAuthStore × Response) → TokenAnswer
  | .ok (_, .tokens pair) => .tokens pair
  | .ok (_, _) => .revoked
  | .error raised => .refused (oauthError raised.error)

namespace Router

variable (router : Router)

/-- The call that a form asks for, if it asks for one. -/
def handle (store : OAuthStore) (occasion : Occasion) :
    Except HttpResponse Call → OAuthStore × TokenAnswer
  | .error response => (store, .refused response)
  | .ok call =>
      let event : Event := ⟨call, occasion.now, occasion.draws⟩
      (event.next router.toOAuthService store,
        tokenAnswer (event.outcome router.toOAuthService store))

def token (store : OAuthStore) (occasion : Occasion) (contentType : Option Text) (body : Bytes) :
    OAuthStore × TokenAnswer :=
  router.handle store occasion (tokenCall contentType body)

def revokeToken (store : OAuthStore) (occasion : Occasion) (contentType : Option Text)
    (body : Bytes) : OAuthStore × TokenAnswer :=
  router.handle store occasion (revokeCall router.config contentType body)

/-! ## The calls of the service -/

/-- The request that a POST to `/oauth/authorize` approves with the secret of the owner. -/
def approvedRequest (occasion : Occasion) (contentType : Option Text) (body : Bytes) :
    Option AuthorizationRequest :=
  match router.readAnswer occasion contentType body with
  | .error _ => none
  | .ok (form, _, authorization) =>
      if formValue form "action".toList = some "approve".toList ∧
          router.ownerSecretMatches ((formValue form "owner_secret".toList).getD []) = some true
      then some authorization
      else none

/-- The calls that the answer of the owner makes of the service. -/
def consentEvents (occasion : Occasion) (contentType : Option Text) (body : Bytes) :
    List Event :=
  (router.approvedRequest occasion contentType body).toList.map fun authorization =>
    ⟨.issueAuthorizationCode authorization, occasion.issuedAt, occasion.draws⟩

/-- The calls that a form makes of the service. -/
def callEvents (occasion : Occasion) (read : Except HttpResponse Call) : List Event :=
  match read with
  | .error _ => []
  | .ok call => [⟨call, occasion.now, occasion.draws⟩]

variable {router}

theorem answer_of_approved {occasion : Occasion} {contentType : Option Text} {body : Bytes}
    {request : AuthorizationRequest}
    (approved : router.approvedRequest occasion contentType body = some request) :
    ∃ form consentToken,
      router.readAnswer occasion contentType body = .ok (form, consentToken, request) ∧
      formValue form "action".toList = some "approve".toList ∧
      router.ownerSecretMatches ((formValue form "owner_secret".toList).getD []) = some true := by
  unfold approvedRequest at approved
  split at approved
  · cases approved
  · next form consentToken authorization read =>
    split at approved
    · next holds =>
      cases approved
      exact ⟨form, consentToken, read, holds⟩
    · cases approved

/-- The answer to an approval sends the new code to the client. -/
theorem authorizeConsent_approved {store committed : OAuthStore} {occasion : Occasion}
    {contentType : Option Text} {body : Bytes} {request : AuthorizationRequest} {code : Text}
    (approved : router.approvedRequest occasion contentType body = some request)
    (issued : router.issueAuthorizationCode store occasion.issuedAt occasion.draws request =
      .ok (committed, code)) :
    (router.authorizeConsent store occasion contentType body).2 =
      redirect request.redirectUri
        [ ("code".toList, some code),
          ("state".toList, request.state),
          ("iss".toList, some router.issuer) ] := by
  rcases answer_of_approved approved with ⟨form, consentToken, read, action, matched⟩
  unfold authorizeConsent
  rw [read]
  dsimp only
  rw [action, if_neg (by decide), if_neg (not_not.mpr rfl), matched]
  dsimp only
  rw [issued]

theorem handle_store (store : OAuthStore) (occasion : Occasion)
    (read : Except HttpResponse Call) :
    (router.handle store occasion read).1 =
      (callEvents occasion read).foldl router.machine.step store := by
  cases read with
  | error response => rfl
  | ok call => rfl

theorem next_of_issued {store committed : OAuthStore} {now : Instant} {draws : Draws}
    {authorization : AuthorizationRequest} {code : Text}
    (issued : router.issueAuthorizationCode store now draws authorization =
      .ok (committed, code)) :
    Event.next router.toOAuthService store ⟨.issueAuthorizationCode authorization, now, draws⟩ =
      committed :=
  Event.next_of_ok (Outcome.bind_eq_ok.mpr ⟨_, issued, rfl⟩)

/-- Issuing a code that raises leaves the store as it was. -/
theorem next_of_unissued {store : OAuthStore} {now : Instant} {draws : Draws}
    {authorization : AuthorizationRequest} {raised : Raised}
    (failed : router.issueAuthorizationCode store now draws authorization = .error raised) :
    Event.next router.toOAuthService store ⟨.issueAuthorizationCode authorization, now, draws⟩ =
      store := by
  have quiet : raised.committed = none :=
    not_not.mp (OAuthService.issueAuthorizationCode_avoids authorization raised failed)
  calc
    _ = raised.committed.getD store :=
        Event.next_of_error (Outcome.bind_eq_error.mpr (Or.inl failed))
    _ = store := by
        rw [quiet]
        rfl

/-- A code is stored only for a request that the owner approved. -/
theorem authorizeConsent_store (store : OAuthStore) (occasion : Occasion)
    (contentType : Option Text) (body : Bytes) :
    (router.authorizeConsent store occasion contentType body).1 =
      (router.consentEvents occasion contentType body).foldl router.machine.step store := by
  unfold consentEvents approvedRequest authorizeConsent
  cases router.readAnswer occasion contentType body with
  | error error => rfl
  | ok answer =>
      rcases answer with ⟨form, consentToken, authorization⟩
      dsimp only
      by_cases denied : formValue form "action".toList = some "deny".toList
      · have different : ¬(some "deny".toList = some "approve".toList) := by decide
        rw [if_pos denied, denied, if_neg fun both => different both.1]
        rfl
      · rw [if_neg denied]
        by_cases approved : formValue form "action".toList = some "approve".toList
        · rw [if_neg (not_not.mpr approved)]
          cases matched : router.ownerSecretMatches
              ((formValue form "owner_secret".toList).getD []) with
          | none =>
              rw [if_neg fun both => nomatch both.2]
              rfl
          | some equal =>
              cases equal with
              | false =>
                  rw [if_neg fun both => nomatch both.2]
                  rfl
              | true =>
                  rw [if_pos ⟨approved, rfl⟩]
                  cases issued : router.issueAuthorizationCode store occasion.issuedAt
                      occasion.draws authorization with
                  | ok result => exact (next_of_issued issued).symm
                  | error raised => exact (next_of_unissued issued).symm
        · rw [if_pos approved, if_neg fun both => approved both.1]
          rfl

end Router

end RollingBudget.OAuth
