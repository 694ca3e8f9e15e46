import RollingBudget.Foundation.QueryString
import RollingBudget.OAuth.ClientMetadata

namespace RollingBudget.OAuth

open Outcome

/-! The two handlers of `/oauth/authorize`. A GET shows the consent page, and a POST takes the
answer of the owner. -/

/-! ## Requests and responses -/

/-- The clock readings and the random values that a request meets. -/
structure Occasion where
  now : Instant
  issuedAt : Instant
  nonce : Text
  draws : Draws

/-- What a handler answers. A page is described by what it shows. -/
inductive HttpResponse where
  | redirect (location : Text)
  | oauthError (error description : Text)
  | consentPage (statusCode : Nat) (consentToken : Text) (scopes : List Text)
      (error : Option Text)
  | serverError
deriving DecidableEq

/-- `_oauth_error`. Any other exception makes the framework answer. -/
def oauthError : OAuthError → HttpResponse
  | .protocol error description => .oauthError error.text description
  | .integrityError => .serverError

/-- `request.query_params` -/
def queryParams (queryString : Bytes) : List (Text × Text) :=
  Url.parseQsl (queryString.map fun byte => Char.ofNat byte.toNat)

/-- `query_params.getlist(name)` -/
def getlist (params : List (Text × Text)) (name : Text) : List Text :=
  (params.filter fun field => field.1 = name).map Prod.snd

/-- `query_params.get(name)`, the last value under the name. -/
def getParam (params : List (Text × Text)) (name : Text) : Option Text :=
  (getlist params name).getLast?

/-! ## Reading a query -/

def authorizationNames : List Text :=
  ["response_type".toList, "client_id".toList, "redirect_uri".toList, "resource".toList,
    "scope".toList, "code_challenge".toList, "code_challenge_method".toList, "state".toList]

def duplicateParameter (name : Text) : OAuthError :=
  .protocol .invalidRequest ("Duplicate ".toList ++ name ++ " parameter".toList)

/-- `_unique_query_values` -/
def uniqueQueryValues (params : List (Text × Text)) : Except OAuthError (Text → Option Text) := do
  authorizationNames.forM fun name =>
    require ((getlist params name).length ≤ 1) (duplicateParameter name)
  pure fun name => if name ∈ authorizationNames then (getlist params name).head? else none

/-- A value that is there and not empty. -/
def nonempty (value : Option Text) : Option Text := value.filter (· ≠ [])

def incompleteRequest : OAuthError :=
  .protocol .invalidRequest "The authorization request is incomplete".toList

def OAuthService.parseAuthorizationRequest (service : OAuthService)
    (values : Text → Option Text) : Except OAuthError AuthorizationRequest := do
  require (values "response_type".toList = some "code".toList)
    (.protocol .unsupportedResponseType "Only response_type=code is supported".toList)
  require (values "code_challenge_method".toList = some "S256".toList)
    (.protocol .invalidRequest "PKCE code_challenge_method must be S256".toList)
  let clientId ← orRaise incompleteRequest (nonempty (values "client_id".toList))
  let redirectUri ← orRaise incompleteRequest (nonempty (values "redirect_uri".toList))
  let resource ← orRaise incompleteRequest (nonempty (values "resource".toList))
  let scope ← orRaise incompleteRequest (nonempty (values "scope".toList))
  let codeChallenge ← orRaise incompleteRequest (nonempty (values "code_challenge".toList))
  let scopes ← normalizeScopes (splitWords scope)
  let request : AuthorizationRequest :=
    { clientId := clientId
      redirectUri := redirectUri
      resource := resource
      scopes := scopes
      codeChallenge := codeChallenge
      state := values "state".toList }
  service.validateAuthorizationRequest request
  pure request

/-! ## Reading a form -/

def formLimitBytes : Nat := 65536

/-- The media type of a `content-type` header. -/
def mediaType (contentType : Option Text) : Text :=
  (Text.stripChars Text.isSpace (Url.splitOnce ';' (contentType.getD [])).1).map Char.toLower

/-- `_read_form`, for the header and the body of a request. -/
def readForm (contentType : Option Text) (body : Bytes) :
    Except OAuthError (List (Text × Text)) := do
  require (mediaType contentType = "application/x-www-form-urlencoded".toList)
    (.protocol .invalidRequest "OAuth endpoints require form encoding".toList)
  require (body.length ≤ formLimitBytes)
    (.protocol .invalidRequest "The OAuth request is too large".toList)
  let text ← orRaise (.protocol .invalidRequest "The OAuth form is invalid".toList) body.decode
  let parsed := Url.parseQsl text
  match parsed.find? fun field => (getlist parsed field.1).length ≠ 1 with
  | some repeated => .error (duplicateParameter repeated.1)
  | none => pure parsed

def formValue (form : List (Text × Text)) (name : Text) : Option Text :=
  (form.find? fun field => field.1 = name).map Prod.snd

/-- `_required` -/
def required (form : List (Text × Text)) (name : Text) : Except OAuthError Text :=
  orRaise (.protocol .invalidRequest ("Missing ".toList ++ name)) (nonempty (formValue form name))

/-! ## Redirecting -/

/-- `_redirect`, which leaves out the parameters without a value. -/
def redirect (baseUri : Text) (values : List (Text × Option Text)) : HttpResponse :=
  match Url.urlsplit baseUri with
  | none => .serverError
  | some parsed =>
      let query := Url.urlencode (values.filterMap fun field => field.2.map fun value =>
        (field.1, value))
      .redirect (Url.urlunsplit { parsed with query := query, fragment := [] })

/-- `hmac.compare_digest`, which raises for other than ASCII characters. -/
def compareDigest (first second : Text) : Option Bool :=
  if first.all Url.isAscii ∧ second.all Url.isAscii then some (first = second) else none

/-- The server of the two handlers. -/
structure Router extends ConsentService where
  otherSecrets : List Text
  loadClientMetadata : ClientMetadataLoader

namespace Router

variable (router : Router)

def issuer : Text := router.config.publicBaseUrl

/-- The owner's consent secrets, the one that keys are derived from first. -/
def consentSecrets : List Text := router.config.consentSecret :: router.otherSecrets

def ownerSecretMatches (candidate : Text) : Option Bool :=
  router.consentSecrets.foldlM (fun found configured =>
    (compareDigest candidate configured).map (· || found)) false

/-- `_authorization_error` -/
def authorizationError (params : List (Text × Text)) (error : OAuthErrorCode)
    (description : Text) : HttpResponse :=
  match nonempty (getParam params "client_id".toList),
      nonempty (getParam params "redirect_uri".toList) with
  | some clientId, some redirectUri =>
      match validateChatgptClient clientId redirectUri with
      | .ok () =>
          redirect redirectUri
            [ ("error".toList, some error.text),
              ("error_description".toList, some description),
              ("state".toList, getParam params "state".toList),
              ("iss".toList, some router.issuer) ]
      | .error _ => .oauthError error.text description
  | _, _ => .oauthError error.text description

/-! ## The handlers -/

/-- GET -/
def authorize (occasion : Occasion) (queryString : Bytes) : HttpResponse :=
  let params := queryParams queryString
  match uniqueQueryValues params >>= router.parseAuthorizationRequest with
  | .error (.protocol error description) => router.authorizationError params error description
  | .error .integrityError => .serverError
  | .ok authorization =>
      match validateChatgptClientMetadata authorization.clientId authorization.redirectUri
          router.loadClientMetadata with
      | .error _ =>
          .oauthError OAuthErrorCode.unauthorizedClient.text
            "The ChatGPT client metadata could not be validated".toList
      | .ok () =>
          match router.signConsent occasion.now occasion.nonce authorization with
          | .error _ => .serverError
          | .ok consentToken => .consentPage 200 consentToken authorization.scopes none

/-- The form of a POST, the consent token in it and the request that was consented to. -/
def readAnswer (occasion : Occasion) (contentType : Option Text) (body : Bytes) :
    Except OAuthError (List (Text × Text) × Text × AuthorizationRequest) := do
  let form ← readForm contentType body
  let consentToken ← required form "consent_token".toList
  let authorization ← router.verifyConsent occasion.now consentToken
  pure (form, consentToken, authorization)

/-- POST -/
def authorizeConsent (store : OAuthStore) (occasion : Occasion) (contentType : Option Text)
    (body : Bytes) : OAuthStore × HttpResponse :=
  match router.readAnswer occasion contentType body with
  | .error error => (store, oauthError error)
  | .ok (form, consentToken, authorization) =>
      if formValue form "action".toList = some "deny".toList then
        (store, redirect authorization.redirectUri
          [ ("error".toList, some "access_denied".toList),
            ("error_description".toList, some "The owner denied access".toList),
            ("state".toList, authorization.state),
            ("iss".toList, some router.issuer) ])
      else if formValue form "action".toList ≠ some "approve".toList then
        (store, .oauthError OAuthErrorCode.invalidRequest.text "Choose approve or deny".toList)
      else
        match router.ownerSecretMatches ((formValue form "owner_secret".toList).getD []) with
        | none => (store, .serverError)
        | some false =>
            (store, .consentPage 401 consentToken authorization.scopes
              (some "The owner secret is invalid".toList))
        | some true =>
            match router.issueAuthorizationCode store occasion.issuedAt occasion.draws
                authorization with
            | .error _ => (store, .serverError)
            | .ok (committed, code) =>
                (committed, redirect authorization.redirectUri
                  [ ("code".toList, some code),
                    ("state".toList, authorization.state),
                    ("iss".toList, some router.issuer) ])

end Router

end RollingBudget.OAuth
