import RollingBudget.Foundation.History
import RollingBudget.OAuth.Config
import RollingBudget.OAuth.Models

namespace RollingBudget.OAuth

/-! The OAuth service: issuing and exchanging authorization codes, rotating refresh
tokens, verifying access tokens and revoking. -/

/-! ## Requests and responses -/

structure AuthorizationRequest where
  clientId : Text
  redirectUri : Text
  resource : Text
  scopes : List Text
  codeChallenge : Text
  state : Option Text
deriving DecidableEq

/-- The arguments of `exchange_authorization_code`. -/
structure ExchangeRequest where
  code : Text
  clientId : Text
  redirectUri : Text
  resource : Text
  codeVerifier : Text
deriving DecidableEq

/-- The arguments of `refresh`. -/
structure RefreshRequest where
  refreshToken : Text
  clientId : Text
  resource : Text
  requestedScopes : Option (List Text)
deriving DecidableEq

structure TokenPair where
  accessToken : Text
  refreshToken : Text
  expiresIn : Nat
  scopes : List Text
deriving DecidableEq

structure VerifiedToken where
  clientId : Text
  scopes : List Text
  expiresAt : Nat
  resource : Text
  subject : Text
deriving DecidableEq

/-! ## Transactions -/

/-- A call that raises, with the state it had committed before that when it had. -/
structure Raised where
  error : OAuthError
  committed : Option OAuthStore
deriving DecidableEq

/-- Raise and roll back. -/
def rolledBack (error : OAuthError) : Raised := ⟨error, none⟩

def invalidGrant (description : String) : OAuthError :=
  .protocol .invalidGrant description.toList

/-- What `secrets.token_urlsafe(32)` returns: the base64url text of 32 bytes. -/
structure RandomToken where
  text : Text
  length_eq : text.length = 43
deriving DecidableEq

/-- What one call draws at random: up to two tokens, and the id of a family. -/
structure Draws where
  firstToken : RandomToken
  secondToken : RandomToken
  familyId : Nat
deriving DecidableEq

/-- `OAuthService`, with the hash functions it calls. -/
structure OAuthService where
  config : OAuthConfig
  cryptography : Cryptography

namespace OAuthService

variable (service : OAuthService)

def hmacKey : Text :=
  service.cryptography.hmacSha256 service.config.consentSecret "rolling-budget-oauth-v1".toList

def credentialGeneration : Text :=
  service.cryptography.hmacSha256 service.hmacKey "credential-generation".toList

/-- The character that separates a kind from what is digested. -/
def separator : Char := Char.ofNat 0

def digest (kind rawValue : Text) : Text :=
  service.cryptography.hmacSha256 service.hmacKey (kind ++ separator :: rawValue)

def codeDigest (rawValue : Text) : Text := service.digest "authorization-code".toList rawValue

def accessDigest (rawValue : Text) : Text := service.digest "access-token".toList rawValue

def refreshDigest (rawValue : Text) : Text := service.digest "refresh-token".toList rawValue

/-! ## Validation -/

/-- `_S256_CHALLENGE_RE` -/
def IsChallenge (challenge : Text) : Prop :=
  challenge.length = 43 ∧ challenge.all isUrlsafe

instance (challenge : Text) : Decidable (IsChallenge challenge) :=
  inferInstanceAs (Decidable (_ ∧ _))

/-- `_CODE_VERIFIER_RE` -/
def IsVerifier (verifier : Text) : Prop :=
  (43 ≤ verifier.length ∧ verifier.length ≤ 128) ∧
    verifier.all fun character => isUrlsafe character || character == '.' || character == '~'

instance (verifier : Text) : Decidable (IsVerifier verifier) :=
  inferInstanceAs (Decidable (_ ∧ _))

def validateAuthorizationRequest (request : AuthorizationRequest) : Except OAuthError Unit := do
  (validateChatgptClient request.clientId request.redirectUri).mapError
    (OAuthError.protocol .unauthorizedClient)
  require (request.resource = service.config.resource)
    (.protocol .invalidTarget "The OAuth resource is not this MCP server".toList)
  let _ ← normalizeScopes request.scopes
  require (IsChallenge request.codeChallenge)
    (.protocol .invalidRequest "A valid PKCE S256 challenge is required".toList)
  require (request.state.all fun state => state.length ≤ 2048)
    (.protocol .invalidRequest "OAuth state is too long".toList)

def validateTokenClient (clientId resource : Text) : Except OAuthError Unit := do
  (validateChatgptClientId clientId).mapError fun _ =>
    .protocol .invalidClient "The OAuth client is invalid".toList
  require (resource = service.config.resource)
    (.protocol .invalidTarget "The OAuth resource is not this MCP server".toList)

/-! ## The rows that calls insert -/

def subject : Text := "owner".toList

def authorizationCode (now : Instant) (request : AuthorizationRequest) (rawCode : Text) :
    OAuthAuthorizationCode where
  codeDigest := service.codeDigest rawCode
  clientId := request.clientId
  redirectUri := request.redirectUri
  resource := request.resource
  scopes := encodeScopes request.scopes
  codeChallenge := request.codeChallenge
  subject := subject
  credentialGeneration := service.credentialGeneration
  expiresAt := now + seconds service.config.authorizationCodeTtlSeconds
  consumedAt := none

def tokenFamily (now : Instant) (id : Nat) (clientId resource : Text) (scopes : List Text)
    (subject : Text) : OAuthTokenFamily where
  id := id
  clientId := clientId
  resource := resource
  scopes := encodeScopes scopes
  subject := subject
  credentialGeneration := service.credentialGeneration
  expiresAt := now + seconds service.config.refreshTokenTtlSeconds
  revokedAt := none
  compromiseDetectedAt := none

def accessToken (now : Instant) (familyId : Nat) (scopes : List Text) (rawToken : Text) :
    OAuthAccessToken where
  tokenDigest := service.accessDigest rawToken
  familyId := familyId
  scopes := encodeScopes scopes
  expiresAt := now + seconds service.config.accessTokenTtlSeconds
  revokedAt := none

def refreshToken (now : Instant) (familyId : Nat) (scopes : List Text) (rawToken : Text) :
    OAuthRefreshToken where
  tokenDigest := service.refreshDigest rawToken
  familyId := familyId
  scopes := encodeScopes scopes
  expiresAt := now + seconds service.config.refreshTokenTtlSeconds
  consumedAt := none
  revokedAt := none

/-! ## Issuing and exchanging -/

def issueAuthorizationCode (store : OAuthStore) (now : Instant) (draws : Draws)
    (request : AuthorizationRequest) : Except Raised (OAuthStore × Text) := do
  (service.validateAuthorizationRequest request).mapError rolledBack
  let rawCode := draws.firstToken.text
  let store := store.deleteExpired now
  require (store.findCode (service.codeDigest rawCode) = none) (rolledBack .integrityError)
  pure (store.addCode (service.authorizationCode now request rawCode), rawCode)

/-- `_rotate_token_pair` -/
def rotateTokenPair (store : OAuthStore) (now : Instant) (draws : Draws) (familyId : Nat)
    (scopes : List Text) : Except Raised (OAuthStore × TokenPair) := do
  let accessToken := draws.firstToken.text
  let refreshToken := draws.secondToken.text
  let store := store.modifyFamily familyId fun family =>
    { family with expiresAt := now + seconds service.config.refreshTokenTtlSeconds }
  require (store.findAccess (service.accessDigest accessToken) = none)
    (rolledBack .integrityError)
  require (store.findRefresh (service.refreshDigest refreshToken) = none)
    (rolledBack .integrityError)
  let store := (store.addAccess (service.accessToken now familyId scopes accessToken)).addRefresh
    (service.refreshToken now familyId scopes refreshToken)
  pure (store,
    { accessToken := accessToken
      refreshToken := refreshToken
      expiresIn := service.config.accessTokenTtlSeconds
      scopes := scopes })

/-- `_issue_token_pair` -/
def issueTokenPair (store : OAuthStore) (now : Instant) (draws : Draws)
    (clientId resource : Text) (scopes : List Text) (subject : Text) :
    Except Raised (OAuthStore × TokenPair) := do
  let family := service.tokenFamily now draws.familyId clientId resource scopes subject
  require (store.findFamily family.id = none) (rolledBack .integrityError)
  service.rotateTokenPair (store.addFamily family) now draws family.id scopes

def exchangeAuthorizationCode (store : OAuthStore) (now : Instant) (draws : Draws)
    (request : ExchangeRequest) : Except Raised (OAuthStore × TokenPair) := do
  (service.validateTokenClient request.clientId request.resource).mapError rolledBack
  (validateChatgptClient request.clientId request.redirectUri).mapError fun _ =>
    rolledBack (invalidGrant "Authorization-code binding failed")
  require (IsVerifier request.codeVerifier)
    (rolledBack (invalidGrant "The PKCE verifier is invalid"))
  let refusal := rolledBack (invalidGrant "The authorization code is invalid")
  let stored ← orRaise refusal (store.findCode (service.codeDigest request.code))
  require (stored.consumedAt = none ∧ now < stored.expiresAt ∧
    stored.credentialGeneration = service.credentialGeneration ∧
    stored.clientId = request.clientId ∧ stored.redirectUri = request.redirectUri ∧
    stored.resource = request.resource) refusal
  require (service.cryptography.s256 request.codeVerifier = stored.codeChallenge)
    (rolledBack (invalidGrant "The PKCE verifier is invalid"))
  let store := store.modifyCode stored.codeDigest fun row => { row with consumedAt := some now }
  service.issueTokenPair store now draws stored.clientId stored.resource
    (decodeScopes stored.scopes) stored.subject

/-! ## Refreshing -/

/-- The scopes of the next token pair: those asked for when they are among the current
ones, and the current ones when none are asked for. -/
def grantedScopes (currentScopes : List Text) :
    Option (List Text) → Except Raised (List Text)
  | none => pure currentScopes
  | some requestedScopes => do
      let scopes ← (normalizeScopes requestedScopes).mapError rolledBack
      require (∀ scope ∈ scopes, scope ∈ currentScopes)
        (rolledBack (.protocol .invalidScope
          "A refresh cannot increase the original token scopes".toList))
      pure scopes

/-- What presenting a consumed token does to its family. -/
def recordReplay (now : Instant) (family : OAuthTokenFamily) : OAuthTokenFamily :=
  { family with
    revokedAt := family.revokedAt.or (some now)
    compromiseDetectedAt := family.compromiseDetectedAt.or (some now) }

/-- A replayed token raises after its effect has been committed. -/
def refresh (store : OAuthStore) (now : Instant) (draws : Draws) (request : RefreshRequest) :
    Except Raised (OAuthStore × TokenPair) := do
  (service.validateTokenClient request.clientId request.resource).mapError rolledBack
  let refusal := rolledBack (invalidGrant "The refresh token is invalid")
  let stored ← orRaise refusal (store.findRefresh (service.refreshDigest request.refreshToken))
  let family ← orRaise refusal (store.findFamily stored.familyId)
  require (stored.consumedAt = none)
    { error := invalidGrant "Refresh-token replay detected; authorization was revoked"
      committed := some (store.modifyFamily family.id (recordReplay now)) }
  require (stored.revokedAt = none ∧ family.revokedAt = none ∧ now < stored.expiresAt ∧
    now < family.expiresAt ∧ family.credentialGeneration = service.credentialGeneration ∧
    family.clientId = request.clientId ∧ family.resource = request.resource) refusal
  let scopes ← grantedScopes (decodeScopes stored.scopes) request.requestedScopes
  let store := store.modifyRefresh stored.tokenDigest fun row =>
    { row with consumedAt := some now }
  service.rotateTokenPair store now draws family.id scopes

/-! ## Verifying and revoking -/

def verifyAccessToken (store : OAuthStore) (now : Instant) (token : Text) :
    Option VerifiedToken :=
  if token = [] then
    none
  else do
    let access ← store.findAccess (service.accessDigest token)
    let family ← store.findFamily access.familyId
    if access.revokedAt = none ∧ family.revokedAt = none ∧ now < access.expiresAt ∧
        now < family.expiresAt ∧ family.credentialGeneration = service.credentialGeneration ∧
        family.resource = service.config.resource then
      some
        { clientId := family.clientId
          scopes := decodeScopes access.scopes
          expiresAt := access.expiresAt / seconds 1
          resource := family.resource
          subject := family.subject }
    else
      none

def revokeFamily (now : Instant) (family : OAuthTokenFamily) : OAuthTokenFamily :=
  { family with revokedAt := family.revokedAt.or (some now) }

def revokeAccess (store : OAuthStore) (now : Instant) (token : Text) : OAuthStore :=
  match store.findAccess (service.accessDigest token) with
  | some access =>
      (store.modifyAccess access.tokenDigest fun row =>
        { row with revokedAt := row.revokedAt.or (some now) }).modifyFamily access.familyId
          (revokeFamily now)
  | none => store

def revokeRefresh (store : OAuthStore) (now : Instant) (token : Text) : OAuthStore :=
  match store.findRefresh (service.refreshDigest token) with
  | some refresh =>
      (store.modifyRefresh refresh.tokenDigest fun row =>
        { row with revokedAt := row.revokedAt.or (some now) }).modifyFamily refresh.familyId
          (revokeFamily now)
  | none => store

def revoke (store : OAuthStore) (now : Instant) (token : Text) : OAuthStore :=
  if token = [] then
    store
  else
    service.revokeRefresh (service.revokeAccess store now token) now token

end OAuthService

/-! ## The service as a machine -/

inductive Call where
  | issueAuthorizationCode (request : AuthorizationRequest)
  | exchangeAuthorizationCode (request : ExchangeRequest)
  | refresh (request : RefreshRequest)
  | verifyAccessToken (token : Text)
  | revoke (token : Text)
deriving DecidableEq

inductive Response where
  | code (rawCode : Text)
  | tokens (pair : TokenPair)
  | verified (token : Option VerifiedToken)
  | revoked
deriving DecidableEq

/-- A call at a reading of the clock, with what it draws at random. -/
structure Event where
  call : Call
  now : Instant
  draws : Draws
deriving DecidableEq

namespace Event

variable (service : OAuthService) (store : OAuthStore) (event : Event)

def outcome : Except Raised (OAuthStore × Response) :=
  match event.call with
  | .issueAuthorizationCode request => do
      let (committed, rawCode) ←
        service.issueAuthorizationCode store event.now event.draws request
      pure (committed, .code rawCode)
  | .exchangeAuthorizationCode request => do
      let (committed, pair) ←
        service.exchangeAuthorizationCode store event.now event.draws request
      pure (committed, .tokens pair)
  | .refresh request => do
      let (committed, pair) ← service.refresh store event.now event.draws request
      pure (committed, .tokens pair)
  | .verifyAccessToken token =>
      pure (store, .verified (service.verifyAccessToken store event.now token))
  | .revoke token => pure (service.revoke store event.now token, .revoked)

def next : OAuthStore :=
  match event.outcome service store with
  | .ok (committed, _) => committed
  | .error raised => raised.committed.getD store

/-- What the call returns, when it does not raise. -/
def response : Option Response :=
  match event.outcome service store with
  | .ok (_, response) => some response
  | .error _ => none

end Event

/-- The service from an empty store on. -/
def OAuthService.machine (service : OAuthService) : Machine OAuthStore Event where
  initial := OAuthStore.empty
  step := fun store event => event.next service store

end RollingBudget.OAuth
