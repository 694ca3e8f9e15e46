import RollingBudget.OAuth.Consent

namespace RollingBudget.OAuth

open Outcome

/-! The metadata document that a client identifies itself with. -/

/-- Loads the fields of a document, or raises a `ClientMetadataError`. -/
abbrev ClientMetadataLoader := Text → Except Text (List (JsonString × JsonValue))

/-- A list of texts, which may be missing. -/
def optionalTexts : Option JsonValue → Option (List Text)
  | none => some []
  | some .null => some []
  | some value => ConsentService.texts value

/-- Raises with the text of the `ClientMetadataError`. -/
def validateChatgptClientMetadata (clientId redirectUri : Text) (load : ClientMetadataLoader) :
    Except Text Unit := do
  validateChatgptClient clientId redirectUri
  let document ← load clientId
  let field := JsonValue.get document
  require ((field "client_id".toList).bind ConsentService.asText = some clientId)
    "The client metadata identity does not match".toList
  let redirectUris ← orRaise "The client metadata redirect URIs are invalid".toList
    ((field "redirect_uris".toList).bind ConsentService.texts)
  require (redirectUri ∈ redirectUris)
    "The redirect URI is not registered by the client".toList
  let grantTypes ← orRaise "The client metadata grant types are invalid".toList
    ((field "grant_types".toList).bind ConsentService.texts)
  require ("authorization_code".toList ∈ grantTypes ∧ "refresh_token".toList ∈ grantTypes)
    "The client does not support the required grants".toList
  let responseTypes ← orRaise "The client metadata response types are invalid".toList
    ((field "response_types".toList).bind ConsentService.texts)
  require ("code".toList ∈ responseTypes)
    "The client does not support authorization codes".toList
  let supportedMethods ← orRaise "The client token authentication methods are invalid".toList
    (optionalTexts (field "token_endpoint_auth_methods_supported".toList))
  let legacyMethod ← orRaise "The client token authentication method is invalid".toList
    (ConsentService.optionalText (field "token_endpoint_auth_method".toList))
  require ("none".toList ∈ supportedMethods ++ legacyMethod.toList)
    "The client does not support public token exchange".toList

end RollingBudget.OAuth
