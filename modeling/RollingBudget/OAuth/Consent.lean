import RollingBudget.Foundation.Bytes
import RollingBudget.Foundation.JsonReader
import RollingBudget.OAuth.Service

namespace RollingBudget.OAuth

open Sorting Outcome

/-! Consent tokens: the authorization request that the consent page carries, signed, so
that it comes back as it was sent. -/

/-- `_b64url` -/
def b64url (raw : Bytes) : Text := (Base64.urlsafeEncode raw).rdropWhile (· = '=')

/-- `_b64url_decode` -/
def b64urlDecode (value : Text) : Option Bytes :=
  Base64.urlsafeDecode (value ++ Base64.padding value)

/-- The built-in conversions of values that no consent token holds. -/
structure Builtins where
  str : JsonValue → Text
  intOfText : Text → Option Int
  intOfFloat : Text → Option Int
  floatIsOne : Text → Bool

/-- The service with what it needs for consent tokens. `hmacDigest key message` is
`hmac.new(key, message, sha256).digest()`. -/
structure ConsentService extends OAuthService where
  hmacDigest : Text → Text → Bytes
  builtins : Builtins

namespace ConsentService

variable (service : ConsentService)

/-! ## Signing -/

/-- The payload of a token. -/
def consentFields (now : Nat) (nonce : Text) (request : AuthorizationRequest) :
    List (Text × Json) :=
  [ ("v".toList, .nat 1),
    ("client_id".toList, .str request.clientId),
    ("redirect_uri".toList, .str request.redirectUri),
    ("resource".toList, .str request.resource),
    ("scopes".toList, .arr (request.scopes.map .str)),
    ("code_challenge".toList, .str request.codeChallenge),
    ("state".toList, (request.state.map Json.str).getD .null),
    ("iat".toList, .nat now),
    ("exp".toList, .nat (now + service.config.authorizationCodeTtlSeconds)),
    ("nonce".toList, .str nonce) ]

def fieldNames : List Text :=
  ["v".toList, "client_id".toList, "redirect_uri".toList, "resource".toList, "scopes".toList,
    "code_challenge".toList, "state".toList, "iat".toList, "exp".toList, "nonce".toList]

/-- The signature of an encoded payload. -/
def signature (encoded : Text) : Text :=
  b64url (service.hmacDigest service.hmacKey
    ("consent".toList ++ OAuthService.separator :: encoded))

/-- The clock of the tokens counts whole seconds: `int(_now().timestamp())`. -/
def timestamp (now : Instant) : Nat := now / seconds 1

def signConsent (now : Instant) (nonce : Text) (request : AuthorizationRequest) :
    Except OAuthError Text := do
  service.validateAuthorizationRequest request
  let payload := Json.obj (service.consentFields (timestamp now) nonce request)
  let encoded := b64url payload.dumpsAscii.encode
  pure (encoded ++ '.' :: service.signature encoded)

/-! ## Verifying -/

def invalidConsent : OAuthError :=
  .protocol .invalidRequest "The consent request is invalid".toList

def expiredConsent : OAuthError :=
  .protocol .invalidRequest "The consent request expired".toList

/-- `value == 1`. `True` is equal to it, and so is the float. -/
def equalsOne : JsonValue → Bool
  | .int value => value = 1
  | .bool value => value
  | .float literal => service.builtins.floatIsOne literal
  | _ => false

/-- `int(value)`, which raises for anything but numbers and texts. -/
def toInt : JsonValue → Option Int
  | .int value => some value
  | .bool value => some (if value then 1 else 0)
  | .float literal => service.builtins.intOfFloat literal
  | .str text => service.builtins.intOfText text
  | _ => none

/-- `str(value)` -/
def toText : JsonValue → Text
  | .str text => text
  | value => service.builtins.str value

def asText : JsonValue → Option Text
  | .str text => some text
  | _ => none

/-- A list of texts. -/
def texts : JsonValue → Option (List Text)
  | .arr items => items.mapM asText
  | _ => none

/-- A text or `None`; a missing field counts as `None`. -/
def optionalText : Option JsonValue → Option (Option Text)
  | none => some none
  | some .null => some none
  | some (.str text) => some (some text)
  | some _ => none

/-- What `verify_consent` makes of the fields of a signed payload. -/
def readConsent (now : Nat) (fields : List (JsonString × JsonValue)) :
    Except OAuthError AuthorizationRequest := do
  let field := JsonValue.get fields
  require ((field "v".toList).any service.equalsOne) invalidConsent
  let exp ← orRaise invalidConsent ((field "exp".toList).bind service.toInt)
  require (¬exp < now) expiredConsent
  let scopes ← orRaise invalidConsent ((field "scopes".toList).bind texts)
  let state ← orRaise invalidConsent (optionalText (field "state".toList))
  let clientId ← orRaise invalidConsent ((field "client_id".toList).map service.toText)
  let redirectUri ← orRaise invalidConsent ((field "redirect_uri".toList).map service.toText)
  let resource ← orRaise invalidConsent ((field "resource".toList).map service.toText)
  let scopes ← normalizeScopes scopes
  let codeChallenge ← orRaise invalidConsent
    ((field "code_challenge".toList).map service.toText)
  pure ⟨clientId, redirectUri, resource, scopes, codeChallenge, state⟩

/-- `signed.split(".", 1)`, which fails without a dot. -/
def splitToken (signed : Text) : Option (Text × Text) :=
  match signed.dropWhile (· ≠ '.') with
  | [] => none
  | _ :: supplied => some (signed.takeWhile (· ≠ '.'), supplied)

def verifyConsent (now : Instant) (signed : Text) : Except OAuthError AuthorizationRequest := do
  let (encoded, suppliedSignature) ← orRaise invalidConsent (splitToken signed)
  require (suppliedSignature = service.signature encoded) invalidConsent
  let raw ← orRaise invalidConsent (b64urlDecode encoded)
  let text ← orRaise invalidConsent raw.decode
  let payload ← orRaise invalidConsent (JsonReader.read text)
  let request ← match payload with
    | .obj fields => service.readConsent (timestamp now) fields
    | _ => .error invalidConsent
  service.validateAuthorizationRequest request
  pure request

end ConsentService

end RollingBudget.OAuth
