import RollingBudget.Foundation.Outcome
import RollingBudget.Foundation.Sorting
import RollingBudget.Foundation.Text

namespace RollingBudget.OAuth

open Sorting

/-! What the authorization server is configured with, the clients it admits and the
scopes it grants. -/

/-! ## Errors -/

/-- The `error` of an `OAuthProtocolError`. -/
inductive OAuthErrorCode where
  | invalidScope
  | unauthorizedClient
  | invalidTarget
  | invalidRequest
  | invalidGrant
  | invalidClient
  | unsupportedResponseType
deriving DecidableEq

def OAuthErrorCode.text : OAuthErrorCode → Text
  | .invalidScope => "invalid_scope".toList
  | .unauthorizedClient => "unauthorized_client".toList
  | .invalidTarget => "invalid_target".toList
  | .invalidRequest => "invalid_request".toList
  | .invalidGrant => "invalid_grant".toList
  | .invalidClient => "invalid_client".toList
  | .unsupportedResponseType => "unsupported_response_type".toList

/-- Every way a call can raise: a protocol error, or a unique key of the database that
is taken. -/
inductive OAuthError where
  | protocol (error : OAuthErrorCode) (description : Text)
  | integrityError
deriving DecidableEq

/-! ## Configuration -/

/-- The validated settings. `consentSecret` is the first of the owner's consent secrets,
the one that keys are derived from. -/
structure OAuthConfig where
  publicBaseUrl : Text
  consentSecret : Text
  authorizationCodeTtlSeconds : Nat
  accessTokenTtlSeconds : Nat
  refreshTokenTtlSeconds : Nat
  authorizationCodeTtl_range :
    60 ≤ authorizationCodeTtlSeconds ∧ authorizationCodeTtlSeconds ≤ 900
  accessTokenTtl_range : 300 ≤ accessTokenTtlSeconds ∧ accessTokenTtlSeconds ≤ 86400
  refreshTokenTtl_range : 86400 ≤ refreshTokenTtlSeconds ∧ refreshTokenTtlSeconds ≤ 31536000

/-- The protected resource, the MCP server itself. -/
def OAuthConfig.resource (config : OAuthConfig) : Text := config.publicBaseUrl ++ "/mcp".toList

/-- `hmacSha256 key message` is the digest `hmac.new(key, message, sha256)` and
`s256 verifier` is the base64url SHA-256 of a text, without padding. -/
structure Cryptography where
  hmacSha256 : Text → Text → Text
  s256 : Text → Text

/-! ## The client -/

def chatgptStableClientId : Text := "https://chatgpt.com/oauth/client.json".toList

def chatgptStableRedirectUri : Text :=
  "https://chatgpt.com/connector_platform_oauth_redirect".toList

/-- `[A-Za-z0-9_-]` -/
def isUrlsafe (character : Char) : Bool :=
  character.isAlphanum || character == '_' || character == '-'

/-- The group of a full match of `before[A-Za-z0-9_-]{1,128}after`. -/
def matchCallback (before after text : Text) : Option Text :=
  let callback :=
    (text.drop before.length).take (text.length - before.length - after.length)
  if text = before ++ callback ++ after ∧ 1 ≤ callback.length ∧ callback.length ≤ 128 ∧
      callback.all isUrlsafe then
    some callback
  else
    none

/-- `_CALLBACK_CLIENT_RE` -/
def callbackOfClient (clientId : Text) : Option Text :=
  matchCallback "https://chatgpt.com/oauth/".toList "/client.json".toList clientId

/-- `_CALLBACK_REDIRECT_RE` -/
def callbackOfRedirect (redirectUri : Text) : Option Text :=
  matchCallback "https://chatgpt.com/connector/oauth/".toList [] redirectUri

/-- Raises with the text of the `ValueError`. -/
def validateChatgptClient (clientId redirectUri : Text) : Except Text Unit :=
  if clientId = chatgptStableClientId then
    require (redirectUri = chatgptStableRedirectUri)
      "The redirect URI does not match the ChatGPT CIMD client".toList
  else
    let refusal := "Only an exact ChatGPT CIMD client and redirect URI are allowed".toList
    match callbackOfClient clientId, callbackOfRedirect redirectUri with
    | some clientCallback, some redirectCallback =>
        require (clientCallback = redirectCallback) refusal
    | _, _ => .error refusal

def validateChatgptClientId (clientId : Text) : Except Text Unit :=
  require (clientId = chatgptStableClientId ∨ (callbackOfClient clientId).isSome)
    "Only a ChatGPT CIMD client is allowed".toList

theorem validateChatgptClientId_of_client {clientId redirectUri : Text}
    (admitted : validateChatgptClient clientId redirectUri = .ok ()) :
    validateChatgptClientId clientId = .ok () := by
  unfold validateChatgptClient at admitted
  unfold validateChatgptClientId
  rw [Outcome.require_eq_ok]
  split at admitted
  · next stable => exact Or.inl stable
  · right
    dsimp only at admitted
    split at admitted
    · next found _ => simp [found]
    · cases admitted

/-! ## Scopes -/

def supportedScopes : List Text :=
  ["budget:read".toList, "budget:refresh".toList, "budget:config".toList]

def encodeScopes (scopes : List Text) : Text := [' '].intercalate scopes

def decodeScopes (scopes : Text) : List Text := (scopes.splitOn ' ').filter (· ≠ [])

/-- `raw.split()` -/
def splitWords (raw : Text) : List Text := (raw.splitOnP Text.isSpace).filter (· ≠ [])

/-- A tuple of scopes without repetitions, in order. -/
def normalizeScopes (raw : List Text) : Except OAuthError (List Text) :=
  let normalized := sortedOn id raw.dedup
  if normalized = [] ∨ ∃ scope ∈ normalized, scope ∉ supportedScopes then
    .error (.protocol .invalidScope "Unsupported or empty OAuth scope".toList)
  else
    .ok normalized

/-- Scopes that may be granted: at least one, and each of them supported. -/
def Grantable (scopes : List Text) : Prop := scopes ≠ [] ∧ ∀ scope ∈ scopes, scope ∈ supportedScopes

theorem mem_normalized {raw : List Text} {scope : Text} :
    scope ∈ sortedOn id raw.dedup ↔ scope ∈ raw := by
  rw [mem_sortedOn, List.mem_dedup]

theorem normalizeScopes_eq_ok_iff {raw scopes : List Text} :
    normalizeScopes raw = .ok scopes ↔ Grantable raw ∧ scopes = sortedOn id raw.dedup := by
  have empty : sortedOn id raw.dedup = [] ↔ raw = [] := by
    rw [List.eq_nil_iff_forall_not_mem, List.eq_nil_iff_forall_not_mem]
    exact forall_congr' fun scope => not_congr mem_normalized
  unfold normalizeScopes Grantable
  dsimp only
  split
  · next refused =>
    simp only [reduceCtorEq, false_iff, not_and]
    rintro ⟨nonempty, supported⟩
    rcases refused with none | ⟨scope, member, unsupported⟩
    · exact absurd (empty.mp none) nonempty
    · exact absurd (supported scope (mem_normalized.mp member)) unsupported
  · next admitted =>
    rw [not_or, empty] at admitted
    rw [Except.ok.injEq]
    constructor
    · intro equal
      refine ⟨⟨admitted.1, fun scope member => ?_⟩, equal.symm⟩
      by_contra unsupported
      exact admitted.2 ⟨scope, mem_normalized.mpr member, unsupported⟩
    · rintro ⟨_, equal⟩
      exact equal.symm

/-- Normalizing keeps which scopes there are. -/
theorem mem_of_normalizeScopes {raw scopes : List Text} (normalized : normalizeScopes raw = .ok scopes)
    (scope : Text) : scope ∈ scopes ↔ scope ∈ raw := by
  rw [(normalizeScopes_eq_ok_iff.mp normalized).2]
  exact mem_normalized

theorem grantable_of_normalizeScopes {raw scopes : List Text}
    (normalized : normalizeScopes raw = .ok scopes) : Grantable scopes := by
  rcases (normalizeScopes_eq_ok_iff.mp normalized).1 with ⟨nonempty, supported⟩
  constructor
  · rcases List.exists_mem_of_ne_nil raw nonempty with ⟨scope, member⟩
    exact List.ne_nil_of_mem ((mem_of_normalizeScopes normalized scope).mpr member)
  · intro scope member
    exact supported scope ((mem_of_normalizeScopes normalized scope).mp member)

/-- No supported scope is empty or has a space in it. -/
theorem word_of_supported {scope : Text} (supported : scope ∈ supportedScopes) :
    ' ' ∉ scope ∧ scope ≠ [] := by
  revert scope
  decide

/-- What is stored of a grant's scopes reads back as the same tuple, in the same order. -/
theorem decodeScopes_encodeScopes {scopes : List Text} (grantable : Grantable scopes) :
    decodeScopes (encodeScopes scopes) = scopes := by
  rcases grantable with ⟨nonempty, supported⟩
  unfold decodeScopes encodeScopes
  rw [List.splitOn_intercalate ' ' (fun scope member => (word_of_supported (supported scope member)).1)
    nonempty, List.filter_eq_self]
  intro scope member
  exact decide_eq_true (word_of_supported (supported scope member)).2

end RollingBudget.OAuth
