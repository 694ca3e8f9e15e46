import RollingBudget.OAuth.Router
import RollingBudget.OAuth.ConsentTokens
import RollingBudget.OAuth.Steps

namespace RollingBudget.OAuth

open Outcome

/-! Redirects lead to admitted addresses only. Whatever a request carries, the address of a
redirect is one of the client that the request or its consent token names, with a new query. -/

/-! ## Admitted addresses -/

theorem eq_of_matchCallback {before after text callback : Text}
    (found : matchCallback before after text = some callback) :
    text = before ++ callback ++ after ∧ callback.all isUrlsafe = true := by
  unfold matchCallback at found
  dsimp only at found
  split at found
  · next matching =>
    cases found
    exact ⟨matching.1, matching.2.2.2⟩
  · cases found

def chatgptScheme : Text := "https".toList

def chatgptHost : Text := "chatgpt.com".toList

/-- The address of a path at the one host that clients come from. -/
def chatgptAddress (path query : Text) : Url.SplitResult :=
  ⟨chatgptScheme, chatgptHost, path, query, []⟩

theorem plain_chatgptAddress {path query : Text} (begins : path.head? = some '/')
    (pathChars : ∀ character ∈ path, Url.isPathChar character = true)
    (queryChars : ∀ character ∈ query, Url.isQueryChar character = true) :
    Url.Plain (chatgptAddress path query) where
  schemeBegins := (by decide : chatgptScheme.head?.any Char.isAlpha = true)
  scheme := List.all_eq_true.mp
    (by decide +kernel : chatgptScheme.all Url.isSchemeChar = true)
  lower := (by decide : chatgptScheme.map Char.toLower = chatgptScheme)
  netlocNonempty := (by decide : chatgptHost ≠ [])
  netloc := List.all_eq_true.mp
    (by decide +kernel : chatgptHost.all Url.isNetlocChar = true)
  pathBegins := fun _ => begins
  path := pathChars
  query := queryChars
  fragment := rfl

theorem isPathChar_of_isUrlsafe {character : Char} (urlsafe : isUrlsafe character = true) :
    Url.isPathChar character = true := by
  simp only [isUrlsafe, Bool.or_eq_true] at urlsafe
  rcases urlsafe with (alphanumeric | underscore) | dash
  · simp [Url.isPathChar, Url.isUnreserved, alphanumeric]
  · simp [Url.isPathChar, Url.isUnreserved, underscore]
  · simp [Url.isPathChar, Url.isUnreserved, dash]

/-- The path of the redirect URI of a callback client. -/
def callbackPath (callback : Text) : Text := '/' :: ("connector/oauth/".toList ++ callback)

private theorem isPathChar_of_mem_callbackPath {callback : Text}
    (urlsafe : callback.all isUrlsafe = true) :
    ∀ character ∈ callbackPath callback, Url.isPathChar character = true := by
  have fixed : "connector/oauth/".toList.all Url.isPathChar = true := by decide +kernel
  intro character member
  rcases List.mem_cons.mp member with rfl | member
  · decide
  rcases List.mem_append.mp member with inFixed | inside
  · exact List.all_eq_true.mp fixed character inFixed
  · exact isPathChar_of_isUrlsafe (List.all_eq_true.mp urlsafe character inside)

/-- An admitted redirect URI is the address of a path at the host, without a query. -/
theorem address_of_admitted {clientId redirectUri : Text}
    (admitted : validateChatgptClient clientId redirectUri = .ok ()) :
    ∃ path, path.head? = some '/' ∧ (∀ character ∈ path, Url.isPathChar character = true) ∧
      redirectUri = Url.urlunsplit (chatgptAddress path []) := by
  unfold validateChatgptClient at admitted
  split at admitted
  · rw [require_eq_ok] at admitted
    have pathChars : "/connector_platform_oauth_redirect".toList.all Url.isPathChar = true := by
      decide +kernel
    have written : chatgptStableRedirectUri =
        Url.urlunsplit (chatgptAddress "/connector_platform_oauth_redirect".toList []) := by
      decide +kernel
    exact ⟨_, by decide, List.all_eq_true.mp pathChars, admitted.trans written⟩
  · dsimp only at admitted
    split at admitted
    · next callback _ found =>
      unfold callbackOfRedirect at found
      rcases eq_of_matchCallback found with ⟨written, urlsafe⟩
      have begins : (callbackPath callback).head? = some '/' := List.head?_cons
      have pathChars := isPathChar_of_mem_callbackPath urlsafe
      refine ⟨callbackPath callback, begins, pathChars, ?_⟩
      have plain : Url.Plain (chatgptAddress (callbackPath callback) []) :=
        plain_chatgptAddress begins pathChars (by simp)
      have fixed : "https://chatgpt.com/connector/oauth/".toList = chatgptScheme ++
          ':' :: '/' :: '/' :: (chatgptHost ++ '/' :: "connector/oauth/".toList) := by
        decide +kernel
      rw [plain.urlunsplit_eq, written, fixed, chatgptAddress, callbackPath, Url.Plain.querySuffix]
      simp only [ne_eq, not_true_eq_false, if_false, List.append_nil, List.append_assoc,
        List.cons_append]
    · cases admitted

/-- For a callback client the redirect URI is that of the same callback. -/
theorem callback_of_admitted {clientId redirectUri callback : Text}
    (admitted : validateChatgptClient clientId redirectUri = .ok ())
    (ofClient : callbackOfClient clientId = some callback) :
    callbackOfRedirect redirectUri = some callback := by
  unfold validateChatgptClient at admitted
  split at admitted
  · next stable =>
    rw [stable] at ofClient
    exact absurd ofClient (by
      have none : callbackOfClient chatgptStableClientId = none := by decide +kernel
      rw [none]
      simp)
  · dsimp only at admitted
    split at admitted
    · next clientFound redirectFound =>
      rw [require_eq_ok] at admitted
      rw [ofClient, Option.some.injEq] at clientFound
      rw [redirectFound, clientFound, admitted]
    · cases admitted

/-! ## Where a redirect leads -/

/-- The characters of a location. The framework quotes none of them in the header. -/
def isLocationChar (character : Char) : Bool :=
  Url.isUnreserved character || character ∈ ":/?%&=+".toList

private theorem isLocationChar_of_isQueryChar {character : Char}
    (inQuery : Url.isQueryChar character = true) : isLocationChar character = true := by
  simp only [Url.isQueryChar, Bool.or_eq_true, beq_iff_eq] at inQuery
  rcases inQuery with (((unreserved | rfl) | rfl) | rfl) | rfl
  · simp [isLocationChar, unreserved]
  all_goals decide

private theorem isLocationChar_of_isPathChar {character : Char}
    (inPath : Url.isPathChar character = true) : isLocationChar character = true := by
  simp only [Url.isPathChar, Bool.or_eq_true, beq_iff_eq] at inPath
  rcases inPath with unreserved | rfl
  · simp [isLocationChar, unreserved]
  · decide

/-- The location is an address that is admitted for the client, with a query of its own. -/
structure LeadsTo (location clientId redirectUri : Text) (fields : List (Text × Text)) : Prop where
  admitted : validateChatgptClient clientId redirectUri = .ok ()
  sameAddress : ∃ base target, Url.urlsplit redirectUri = some base ∧
    Url.urlsplit location = some target ∧ target.scheme = base.scheme ∧
    target.netloc = base.netloc ∧ target.path = base.path ∧ target.scheme = chatgptScheme ∧
    target.netloc = chatgptHost ∧ target.fragment = [] ∧ Url.parseQsl target.query = fields
  sameCallback : ∀ callback, callbackOfClient clientId = some callback →
    callbackOfRedirect redirectUri = some callback
  unquoted : ∀ character ∈ location, isLocationChar character = true

private theorem isLocationChar_of_mem {path query : Text}
    (plain : Url.Plain (chatgptAddress path query)) :
    ∀ character ∈ Url.urlunsplit (chatgptAddress path query), isLocationChar character = true := by
  have start : (chatgptScheme ++ ':' :: '/' :: '/' :: chatgptHost).all isLocationChar = true := by
    decide +kernel
  have split : Url.urlunsplit (chatgptAddress path query) =
      (chatgptScheme ++ ':' :: '/' :: '/' :: chatgptHost) ++
        (path ++ Url.Plain.querySuffix query) := by
    rw [plain.urlunsplit_eq]
    simp only [chatgptAddress, List.append_assoc, List.cons_append]
  intro character member
  rw [split] at member
  rcases List.mem_append.mp member with atStart | member
  · exact List.all_eq_true.mp start character atStart
  rcases List.mem_append.mp member with inPath | member
  · exact isLocationChar_of_isPathChar (plain.path character inPath)
  unfold Url.Plain.querySuffix at member
  split at member
  · rcases List.mem_cons.mp member with rfl | inQuery
    · decide
    · exact isLocationChar_of_isQueryChar (plain.query character inQuery)
  · cases member

/-- The fields of a redirect: the values that there are. -/
def presentFields (values : List (Text × Option Text)) : List (Text × Text) :=
  values.filterMap fun field => field.2.map fun value => (field.1, value)

theorem mem_presentFields {values : List (Text × Option Text)} {name value : Text} :
    (name, value) ∈ presentFields values ↔ (name, some value) ∈ values := by
  unfold presentFields
  rw [List.mem_filterMap]
  constructor
  · rintro ⟨⟨other, content⟩, among, present⟩
    rcases Option.map_eq_some_iff.mp present with ⟨_, rfl, equal⟩
    cases equal
    exact among
  · intro among
    exact ⟨_, among, rfl⟩

/-- A field that no redirect of these names has. -/
theorem not_mem_presentFields {values : List (Text × Option Text)} {name : Text}
    (other : name ∉ values.map Prod.fst) (value : Text) : (name, value) ∉ presentFields values :=
  fun member => other (List.mem_map_of_mem (mem_presentFields.mp member))

/-- The names of the parameters of an error. -/
def errorNames : List Text :=
  ["error".toList, "error_description".toList, "state".toList, "iss".toList]

theorem code_not_mem_errorNames : "code".toList ∉ errorNames := by decide

theorem leadsTo_of_redirect {clientId redirectUri location : Text}
    {values : List (Text × Option Text)}
    (admitted : validateChatgptClient clientId redirectUri = .ok ())
    (redirected : redirect redirectUri values = .redirect location) :
    LeadsTo location clientId redirectUri (presentFields values) := by
  rcases address_of_admitted admitted with ⟨path, begins, pathChars, rfl⟩
  have base : Url.Plain (chatgptAddress path []) :=
    plain_chatgptAddress begins pathChars (by simp)
  have target : Url.Plain (chatgptAddress path (Url.urlencode (presentFields values))) :=
    plain_chatgptAddress begins pathChars fun character => Url.isQueryChar_of_mem_urlencode
  unfold redirect at redirected
  rw [base.urlsplit_urlunsplit] at redirected
  cases redirected
  exact
    { admitted := admitted
      sameAddress := ⟨_, _, base.urlsplit_urlunsplit, target.urlsplit_urlunsplit, rfl, rfl, rfl,
        rfl, rfl, rfl, Url.parseQsl_urlencode _⟩
      sameCallback := fun callback => callback_of_admitted admitted
      unquoted := isLocationChar_of_mem target }

/-! ## The four ways to redirect -/

theorem mem_of_getParam {params : List (Text × Text)} {name value : Text}
    (found : nonempty (getParam params name) = some value) : (name, value) ∈ params := by
  have last := (Option.filter_eq_some_iff.mp found).1
  rcases List.mem_map.mp (List.mem_of_getLast? last) with ⟨field, among, rfl⟩
  rcases List.mem_filter.mp among with ⟨member, named⟩
  rw [← of_decide_eq_true named]
  exact member

namespace Router

variable {router : Router}

/-- What a protocol error of a GET redirects to: the query is read once more. -/
theorem authorizationError_redirect {params : List (Text × Text)} {error : OAuthErrorCode}
    {description location : Text}
    (redirected : router.authorizationError params error description = .redirect location) :
    ∃ clientId redirectUri, ("client_id".toList, clientId) ∈ params ∧
      ("redirect_uri".toList, redirectUri) ∈ params ∧
      LeadsTo location clientId redirectUri (presentFields
        [ ("error".toList, some error.text),
          ("error_description".toList, some description),
          ("state".toList, getParam params "state".toList),
          ("iss".toList, some router.issuer) ]) := by
  unfold authorizationError at redirected
  split at redirected
  · next clientId redirectUri hasClient hasRedirect =>
    split at redirected
    · next admitted =>
      exact ⟨clientId, redirectUri, mem_of_getParam hasClient, mem_of_getParam hasRedirect,
        leadsTo_of_redirect admitted redirected⟩
    · cases redirected
  · cases redirected

/-- A GET redirects for protocol errors only. -/
theorem authorize_redirect {occasion : Occasion} {queryString : Bytes} {location : Text}
    (redirected : router.authorize occasion queryString = .redirect location) :
    ∃ error description,
      router.authorizationError (queryParams queryString) error description =
        .redirect location := by
  unfold authorize at redirected
  dsimp only at redirected
  split at redirected
  · exact ⟨_, _, redirected⟩
  · cases redirected
  · split at redirected
    · cases redirected
    · split at redirected
      · cases redirected
      · cases redirected

theorem admitted_of_validated {service : OAuthService} {request : AuthorizationRequest}
    (validated : service.validateAuthorizationRequest request = .ok ()) :
    validateChatgptClient request.clientId request.redirectUri = .ok () := by
  rcases bind_eq_ok.mp validated with ⟨⟨⟩, admitted, _⟩
  exact mapError_eq_ok.mp admitted

theorem admitted_of_verified {service : ConsentService} {now : Instant} {signed : Text}
    {request : AuthorizationRequest} (verified : service.verifyConsent now signed = .ok request) :
    validateChatgptClient request.clientId request.redirectUri = .ok () := by
  unfold ConsentService.verifyConsent at verified
  rcases bind_eq_ok.mp verified with ⟨_, _, verified⟩
  rcases bind_eq_ok.mp verified with ⟨_, _, verified⟩
  rcases bind_eq_ok.mp verified with ⟨_, _, verified⟩
  rcases bind_eq_ok.mp verified with ⟨_, _, verified⟩
  rcases bind_eq_ok.mp verified with ⟨_, _, verified⟩
  dsimp only at verified
  split at verified
  · rcases bind_eq_ok.mp verified with ⟨_, _, verified⟩
    rcases bind_eq_ok.mp verified with ⟨⟨⟩, validated, finished⟩
    rw [pure_eq_ok] at finished
    rw [← finished]
    exact admitted_of_validated validated
  · cases verified

theorem readAnswer_verified {occasion : Occasion} {contentType : Option Text} {body : Bytes}
    {form : List (Text × Text)} {consentToken : Text} {authorization : AuthorizationRequest}
    (read : router.readAnswer occasion contentType body =
      .ok (form, consentToken, authorization)) :
    readForm contentType body = .ok form ∧
      formValue form "consent_token".toList = some consentToken ∧
      router.verifyConsent occasion.now consentToken = .ok authorization := by
  unfold readAnswer at read
  rcases bind_eq_ok.mp read with ⟨_, formRead, read⟩
  rcases bind_eq_ok.mp read with ⟨_, tokenRead, read⟩
  rcases bind_eq_ok.mp read with ⟨_, verified, finished⟩
  cases finished
  exact ⟨formRead, (Option.filter_eq_some_iff.mp (orRaise_eq_ok.mp tokenRead)).1, verified⟩

/-- The code of an approval is stored with the redirect URI of the request. -/
theorem issued_redirectUri {store committed : OAuthStore} {now : Instant} {draws : Draws}
    {request : AuthorizationRequest} {code : Text}
    (issued : router.issueAuthorizationCode store now draws request = .ok (committed, code)) :
    ∃ row, committed.findCode (router.codeDigest code) = some row ∧
      row.redirectUri = request.redirectUri := by
  rcases OAuthService.issueAuthorizationCode_eq_ok_iff.mp issued with ⟨_, fresh, result⟩
  cases result
  refine ⟨router.authorizationCode now request draws.firstToken.text, ?_, rfl⟩
  exact (Table.get_append_of_none _ fresh).trans
    (List.find?_cons_of_pos (decide_eq_true rfl))

/-- The owner has approved with a matching secret, and the code is stored with the redirect URI
of the request. -/
structure Approved (router : Router) (committed : OAuthStore) (form : List (Text × Text))
    (authorization : AuthorizationRequest) (code : Text) : Prop where
  action : formValue form "action".toList = some "approve".toList
  ownerMatched : router.ownerSecretMatches
    ((formValue form "owner_secret".toList).getD []) = some true
  stored : ∃ row, committed.findCode (router.codeDigest code) = some row ∧
    row.redirectUri = authorization.redirectUri

/-- A POST redirects to the address in its token, for a denial or an approval. -/
theorem authorizeConsent_redirect {store : OAuthStore} {occasion : Occasion}
    {contentType : Option Text} {body : Bytes} {location : Text}
    (redirected :
      (router.authorizeConsent store occasion contentType body).2 = .redirect location) :
    ∃ form consentToken authorization fields,
      router.readAnswer occasion contentType body = .ok (form, consentToken, authorization) ∧
      LeadsTo location authorization.clientId authorization.redirectUri fields ∧
      ∀ code, ("code".toList, code) ∈ fields →
        router.Approved (router.authorizeConsent store occasion contentType body).1 form
          authorization code := by
  unfold authorizeConsent at redirected ⊢
  cases read : router.readAnswer occasion contentType body with
  | error error =>
      rw [read] at redirected
      cases error <;> cases redirected
  | ok answer =>
      rcases answer with ⟨form, consentToken, authorization⟩
      have admitted := admitted_of_verified (readAnswer_verified read).2.2
      rw [read] at redirected
      dsimp only at redirected ⊢
      split at redirected
      · refine ⟨form, consentToken, authorization, _, rfl,
          leadsTo_of_redirect admitted redirected, ?_⟩
        intro code member
        exact absurd member (not_mem_presentFields code_not_mem_errorNames code)
      · split at redirected
        · cases redirected
        · next notDenied approved =>
          split at redirected
          · cases redirected
          · cases redirected
          · next matched =>
            split at redirected
            · cases redirected
            · next committed issuedCode issued =>
              refine ⟨form, consentToken, authorization, _, rfl,
                leadsTo_of_redirect admitted redirected, ?_⟩
              intro code member
              have sameCode : code = issuedCode := by
                rcases List.mem_cons.mp (mem_presentFields.mp member) with equal | other
                · exact Option.some.inj (Prod.mk.inj equal).2
                · have name : "code".toList ∈ ["state".toList, "iss".toList] :=
                    List.mem_map_of_mem (f := Prod.fst) other
                  exact absurd name (by decide)
              rw [if_neg notDenied, if_neg approved, sameCode]
              exact ⟨not_not.mp approved, matched, issued_redirectUri issued⟩

/-- No open redirect. A GET redirects to an address that is admitted for the client in its
query, and never with a code. A POST redirects to the address in the consent token it carries,
and with a code only after the owner's secret has matched, to the redirect URI that is stored
with the code. -/
theorem no_open_redirect (router : Router) (store : OAuthStore) (occasion : Occasion) :
    (∀ queryString location, router.authorize occasion queryString = .redirect location →
      ∃ clientId redirectUri fields,
        ("client_id".toList, clientId) ∈ queryParams queryString ∧
        ("redirect_uri".toList, redirectUri) ∈ queryParams queryString ∧
        LeadsTo location clientId redirectUri fields ∧
        ∀ code, ("code".toList, code) ∉ fields) ∧
    ∀ contentType body location,
      (router.authorizeConsent store occasion contentType body).2 = .redirect location →
      ∃ form consentToken authorization fields,
        readForm contentType body = .ok form ∧
        formValue form "consent_token".toList = some consentToken ∧
        router.verifyConsent occasion.now consentToken = .ok authorization ∧
        LeadsTo location authorization.clientId authorization.redirectUri fields ∧
        ∀ code, ("code".toList, code) ∈ fields →
          router.Approved (router.authorizeConsent store occasion contentType body).1 form
            authorization code := by
  constructor
  · intro queryString location redirected
    rcases authorize_redirect redirected with ⟨error, description, redirected⟩
    rcases authorizationError_redirect redirected with
      ⟨clientId, redirectUri, hasClient, hasRedirect, leads⟩
    exact ⟨clientId, redirectUri, _, hasClient, hasRedirect, leads,
      not_mem_presentFields code_not_mem_errorNames⟩
  · intro contentType body location redirected
    rcases authorizeConsent_redirect redirected with
      ⟨form, consentToken, authorization, fields, read, leads, approved⟩
    rcases readAnswer_verified read with ⟨formRead, tokenRead, verified⟩
    exact ⟨form, consentToken, authorization, fields, formRead, tokenRead, verified, leads,
      approved⟩

end Router

/-- A server to evaluate, which can load no metadata. -/
def Sample.router : Router where
  toConsentService := Sample.consentService
  otherSecrets := []
  loadClientMetadata := fun _ => .error []

-- A repeated parameter is refused with a redirect, and the last value under its name is the
-- one that is sent back.
example :
    Sample.router.authorizationError
        [ ("client_id".toList, chatgptStableClientId),
          ("redirect_uri".toList, chatgptStableRedirectUri),
          ("state".toList, "a&code=b".toList),
          ("state".toList, "c&code=d".toList) ] .invalidRequest "Duplicate".toList =
      .redirect (chatgptStableRedirectUri ++
        ("?error=invalid_request&error_description=Duplicate&state=c%26code%3Dd" ++
          "&iss=https%3A%2F%2Fbudget.example").toList) := by
  decide +kernel

end RollingBudget.OAuth
