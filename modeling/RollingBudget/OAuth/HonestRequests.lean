import RollingBudget.OAuth.AuthorizationCodes
import RollingBudget.OAuth.TokenEndpoint

namespace RollingBudget.OAuth

open Outcome Sorting

/-! The requests of a client that follows the protocol, as it encodes them, and what the server
reads from them. -/

/-! ## Encoding -/

/-- The bytes that a client sends for fields, as a query string or as a form. -/
def encodeFields (fields : List (Text × Text)) : Bytes := (Url.urlencode fields).encode

def formType : Option Text := some "application/x-www-form-urlencoded".toList

/-- The bytes of ASCII text are its characters. -/
theorem map_encode_ascii {text : Text} (ascii : ∀ character ∈ text, character.toNat < 128) :
    text.encode.map (fun byte => Char.ofNat byte.toNat) = text := by
  induction text with
  | nil => rfl
  | cons character text induction =>
      rw [List.forall_mem_cons] at ascii
      have single : String.utf8EncodeChar character = [UInt8.ofNat character.toNat] :=
        if_pos (Nat.le_of_lt_succ ascii.1)
      have byte : (UInt8.ofNat character.toNat).toNat = character.toNat :=
        Nat.mod_eq_of_lt (by omega)
      rw [Bytes.encode_cons, List.map_append, induction ascii.2, single, List.map_singleton, byte,
        Char.ofNat_toNat]
      rfl

theorem ascii_urlencode (fields : List (Text × Text)) :
    ∀ character ∈ Url.urlencode fields, character.toNat < 128 := by
  intro character member
  have visible := Url.isVisible_of_isQueryChar (Url.isQueryChar_of_mem_urlencode member)
  unfold Url.isVisible at visible
  simp only [Bool.and_eq_true, decide_eq_true_eq] at visible
  exact visible.2

theorem queryParams_encodeFields (fields : List (Text × Text)) :
    queryParams (encodeFields fields) = fields := by
  unfold queryParams encodeFields
  rw [map_encode_ascii (ascii_urlencode fields), Url.parseQsl_urlencode]

theorem length_encodeFields (fields : List (Text × Text)) :
    (encodeFields fields).length = (Url.urlencode fields).length := by
  have same := congrArg List.length (map_encode_ascii (ascii_urlencode fields))
  rw [List.length_map] at same
  exact same

/-! ## Reading fields -/

theorem getlist_of_notMem {params : List (Text × Text)} {name : Text}
    (absent : name ∉ params.map Prod.fst) : getlist params name = [] := by
  unfold getlist
  rw [List.map_eq_nil_iff, List.filter_eq_nil_iff]
  intro param member same
  exact absent (of_decide_eq_true same ▸ List.mem_map_of_mem member)

theorem getlist_of_mem {params : List (Text × Text)} {name value : Text}
    (nodup : (params.map Prod.fst).Nodup) (member : (name, value) ∈ params) :
    getlist params name = [value] := by
  induction params with
  | nil => cases member
  | cons param params induction =>
      rw [List.map_cons, List.nodup_cons] at nodup
      unfold getlist
      rcases List.mem_cons.mp member with rfl | later
      · have rest := getlist_of_notMem nodup.1
        unfold getlist at rest
        rw [List.filter_cons, if_pos (decide_eq_true rfl), List.map_cons, rest]
      · have different : ¬param.1 = name := by
          rintro rfl
          exact nodup.1 (List.mem_map.mpr ⟨_, later, rfl⟩)
        rw [List.filter_cons_of_neg (by simpa using different)]
        exact induction nodup.2 later

theorem length_getlist {params : List (Text × Text)} (nodup : (params.map Prod.fst).Nodup)
    (name : Text) : (getlist params name).length ≤ 1 := by
  by_cases present : name ∈ params.map Prod.fst
  · rcases List.mem_map.mp present with ⟨⟨_, value⟩, member, rfl⟩
    rw [getlist_of_mem nodup member]
    exact le_refl 1
  · rw [getlist_of_notMem present]
    exact Nat.zero_le 1

theorem formValue_of_mem {form : List (Text × Text)} {name value : Text}
    (nodup : (form.map Prod.fst).Nodup) (member : (name, value) ∈ form) :
    formValue form name = some value := by
  have values := getlist_of_mem nodup member
  unfold getlist at values
  unfold formValue
  rw [← List.head?_filter, ← List.head?_map, values]
  rfl

theorem formValue_of_notMem {form : List (Text × Text)} {name : Text}
    (absent : name ∉ form.map Prod.fst) : formValue form name = none := by
  have values := getlist_of_notMem absent
  unfold getlist at values
  unfold formValue
  rw [← List.head?_filter, ← List.head?_map, values]
  rfl

theorem required_of_value {form : List (Text × Text)} {name value : Text}
    (given : formValue form name = some value) (filled : value ≠ []) :
    required form name = .ok value := by
  unfold required nonempty
  rw [given, Option.filter_some, if_pos (decide_eq_true filled)]
  rfl

/-- A form reads back, as long as it is not too large and repeats no name. -/
theorem readForm_encodeFields {fields : List (Text × Text)}
    (nodup : (fields.map Prod.fst).Nodup)
    (fits : (encodeFields fields).length ≤ formLimitBytes) :
    readForm formType (encodeFields fields) = .ok fields := by
  have typed : mediaType formType = "application/x-www-form-urlencoded".toList := by
    decide +kernel
  have single : fields.find? (fun field => (getlist fields field.1).length ≠ 1) = none := by
    rw [List.find?_eq_none]
    rintro ⟨name, value⟩ member
    rw [getlist_of_mem nodup member]
    exact nofun
  unfold readForm
  rw [require_of typed, ok_bind, require_of fits, ok_bind]
  unfold encodeFields
  rw [Bytes.decode_encode, orRaise_some, ok_bind, Url.parseQsl_urlencode]
  dsimp only
  rw [single]
  rfl

/-! ## Asking for consent -/

/-- The parameters of an authorization request. -/
def authorizationFields (request : AuthorizationRequest) : List (Text × Text) :=
  [ ("response_type".toList, "code".toList),
    ("client_id".toList, request.clientId),
    ("redirect_uri".toList, request.redirectUri),
    ("resource".toList, request.resource),
    ("scope".toList, encodeScopes request.scopes),
    ("code_challenge".toList, request.codeChallenge),
    ("code_challenge_method".toList, "S256".toList) ] ++
  (request.state.map fun state => ("state".toList, state)).toList

theorem nodup_authorizationFields (request : AuthorizationRequest) :
    ((authorizationFields request).map Prod.fst).Nodup := by
  rcases request with ⟨clientId, redirectUri, resource, scopes, codeChallenge, state⟩
  cases state with
  | none =>
      show ["response_type".toList, "client_id".toList, "redirect_uri".toList, "resource".toList,
        "scope".toList, "code_challenge".toList, "code_challenge_method".toList].Nodup
      decide
  | some state =>
      show ["response_type".toList, "client_id".toList, "redirect_uri".toList, "resource".toList,
        "scope".toList, "code_challenge".toList, "code_challenge_method".toList,
        "state".toList].Nodup
      decide

/-- A query string that asks for consent to the request: the parameters that the server knows
have the values of the request, in any order and whatever else there is. -/
def AsksFor (request : AuthorizationRequest) (queryString : Bytes) : Prop :=
  ∀ name ∈ authorizationNames,
    getlist (queryParams queryString) name = getlist (authorizationFields request) name

theorem asksFor_encodeFields (request : AuthorizationRequest) :
    AsksFor request (encodeFields (authorizationFields request)) := by
  intro name _
  rw [queryParams_encodeFields]

theorem uniqueQueryValues_of_asks {request : AuthorizationRequest} {queryString : Bytes}
    (asks : AsksFor request queryString) :
    uniqueQueryValues (queryParams queryString) = .ok fun name =>
      if name ∈ authorizationNames then (getlist (authorizationFields request) name).head?
      else none := by
  have single : (authorizationNames.forM fun name =>
      require ((getlist (queryParams queryString) name).length ≤ 1) (duplicateParameter name)) =
        .ok () := by
    refine forM_eq_ok.mpr fun name known => require_of ?_
    rw [asks name known]
    exact length_getlist (nodup_authorizationFields request) name
  unfold uniqueQueryValues
  rw [single, ok_bind]
  refine congrArg Except.ok (funext fun name => ?_)
  by_cases known : name ∈ authorizationNames
  · rw [if_pos known, if_pos known, asks name known]
  · rw [if_neg known, if_neg known]

theorem splitOnP_congr {first second : Char → Bool} {text : Text}
    (agree : ∀ character ∈ text, first character = second character) :
    text.splitOnP first = text.splitOnP second := by
  induction text with
  | nil => rfl
  | cons character text induction =>
      rw [List.forall_mem_cons] at agree
      rw [List.splitOnP_cons_eq_if_modifyHead, List.splitOnP_cons_eq_if_modifyHead, agree.1,
        induction agree.2]

/-- The only white space of encoded scopes is the space between two of them. -/
theorem isSpace_of_mem_encodeScopes {scopes : List Text}
    (supported : ∀ scope ∈ scopes, scope ∈ supportedScopes) :
    ∀ character ∈ encodeScopes scopes, Text.isSpace character = (character == ' ') := by
  have words : (supportedScopes.all fun scope => scope.all fun character =>
      Text.isSpace character == (character == ' ')) = true := by decide +kernel
  have word : ∀ scope ∈ supportedScopes, ∀ character ∈ scope,
      Text.isSpace character = (character == ' ') := fun scope known character member =>
    eq_of_beq (List.all_eq_true.mp (List.all_eq_true.mp words scope known) character member)
  unfold encodeScopes
  induction scopes with
  | nil => nofun
  | cons scope scopes induction =>
      rw [List.forall_mem_cons] at supported
      intro character member
      by_cases last : scopes = []
      · rw [last, List.intercalate_singleton] at member
        exact word scope supported.1 character member
      · rw [List.intercalate_cons_of_ne_nil last] at member
        rcases List.mem_append.mp member with first | member
        · rcases List.mem_append.mp first with first | separator
          · exact word scope supported.1 character first
          · rw [List.mem_singleton.mp separator]
            decide
        · exact induction supported.2 character member

/-- Scopes are sent as words. -/
theorem splitWords_encodeScopes {scopes : List Text} (grantable : Grantable scopes) :
    splitWords (encodeScopes scopes) = scopes := by
  have split := splitOnP_congr (isSpace_of_mem_encodeScopes grantable.2)
  unfold splitWords
  rw [split]
  exact decodeScopes_encodeScopes grantable

theorem encodeScopes_ne_nil {scopes : List Text} (grantable : Grantable scopes) :
    encodeScopes scopes ≠ [] := by
  intro empty
  have decoded := decodeScopes_encodeScopes grantable
  rw [empty] at decoded
  exact grantable.1 (decoded.symm.trans (by decide))

theorem ne_nil_of_admitted {clientId redirectUri : Text}
    (admitted : validateChatgptClient clientId redirectUri = .ok ()) :
    clientId ≠ [] ∧ redirectUri ≠ [] := by
  have noClient : callbackOfClient [] = none := by decide +kernel
  have noRedirect : callbackOfRedirect [] = none := by decide +kernel
  constructor
  · rintro rfl
    unfold validateChatgptClient at admitted
    rw [if_neg (by decide), noClient] at admitted
    cases admitted
  · rintro rfl
    unfold validateChatgptClient at admitted
    split at admitted
    · rw [require_eq_ok] at admitted
      exact absurd admitted (by decide)
    · rw [noRedirect] at admitted
      dsimp only at admitted
      split at admitted
      · next unequal => cases unequal
      · cases admitted

/-- What a valid request is made of. -/
theorem filled_of_validated {service : OAuthService} {request : AuthorizationRequest}
    (valid : service.validateAuthorizationRequest request = .ok ()) :
    request.clientId ≠ [] ∧ request.redirectUri ≠ [] ∧ request.resource ≠ [] ∧
      encodeScopes request.scopes ≠ [] ∧ request.codeChallenge ≠ [] := by
  have grantable := OAuthService.grantable_of_validated valid
  unfold OAuthService.validateAuthorizationRequest at valid
  rcases bind_eq_ok.mp valid with ⟨_, admitted, valid⟩
  rcases bind_eq_ok.mp valid with ⟨_, resource, valid⟩
  rcases bind_eq_ok.mp valid with ⟨_, _, valid⟩
  rcases bind_eq_ok.mp valid with ⟨_, challenge, _⟩
  have client := ne_nil_of_admitted (mapError_eq_ok.mp admitted)
  rw [require_eq_ok] at resource challenge
  refine ⟨client.1, client.2, ?_, encodeScopes_ne_nil grantable, ?_⟩
  · rw [resource]
    exact List.append_ne_nil_of_right_ne_nil _ (by decide)
  · rintro empty
    rw [empty] at challenge
    exact absurd challenge.1 (by decide)

/-- What the server reads is the request, with its scopes in order. -/
theorem parseAuthorizationRequest_of_values {service : ConsentService}
    {request : AuthorizationRequest} {values : Text → Option Text}
    (valid : service.validateAuthorizationRequest request = .ok ())
    (read : ∀ name value, name ∈ authorizationNames →
      (name, value) ∈ authorizationFields request → values name = some value)
    (state : values "state".toList = request.state) :
    service.parseAuthorizationRequest values = .ok (ConsentService.restored request) := by
  have normalized := ConsentService.normalizeScopes_of_validated valid
  have grantable := OAuthService.grantable_of_validated valid
  have restored : service.validateAuthorizationRequest (ConsentService.restored request) =
      .ok () := ConsentService.validate_restored.trans valid
  rcases filled_of_validated valid with ⟨client, redirect, resource, scope, challenge⟩
  have filled : ∀ name value, name ∈ authorizationNames →
      (name, value) ∈ authorizationFields request → value ≠ [] →
      nonempty (values name) = some value := by
    intro name value known member notEmpty
    rw [read name value known member]
    exact if_pos (decide_eq_true notEmpty)
  unfold OAuthService.parseAuthorizationRequest
  rw [read "response_type".toList "code".toList (by decide) (by simp [authorizationFields]),
    require_of rfl, ok_bind,
    read "code_challenge_method".toList "S256".toList (by decide) (by simp [authorizationFields]),
    require_of rfl, ok_bind,
    filled "client_id".toList _ (by decide) (by simp [authorizationFields]) client,
    orRaise_some, ok_bind,
    filled "redirect_uri".toList _ (by decide) (by simp [authorizationFields]) redirect,
    orRaise_some, ok_bind,
    filled "resource".toList _ (by decide) (by simp [authorizationFields]) resource,
    orRaise_some, ok_bind,
    filled "scope".toList _ (by decide) (by simp [authorizationFields]) scope,
    orRaise_some, ok_bind,
    filled "code_challenge".toList _ (by decide) (by simp [authorizationFields]) challenge,
    orRaise_some, ok_bind, splitWords_encodeScopes grantable, normalized, ok_bind, state]
  exact bind_eq_ok.mpr ⟨(), restored, rfl⟩

/-- The parameters of such a query are read back. -/
theorem parseAuthorizationRequest_of_asks {service : ConsentService}
    {request : AuthorizationRequest} {queryString : Bytes}
    (valid : service.validateAuthorizationRequest request = .ok ())
    (asks : AsksFor request queryString) :
    (uniqueQueryValues (queryParams queryString) >>= service.parseAuthorizationRequest) =
      .ok (ConsentService.restored request) := by
  have nodup := nodup_authorizationFields request
  rw [uniqueQueryValues_of_asks asks, ok_bind]
  apply parseAuthorizationRequest_of_values valid
  · intro name value known member
    rw [if_pos known, getlist_of_mem nodup member]
    rfl
  · rw [if_pos (by decide)]
    cases state : request.state with
    | none =>
        rw [getlist_of_notMem]
        · rfl
        · unfold authorizationFields
          rw [state]
          show "state".toList ∉ ["response_type".toList, "client_id".toList,
            "redirect_uri".toList, "resource".toList, "scope".toList, "code_challenge".toList,
            "code_challenge_method".toList]
          decide
    | some value =>
        have member : ("state".toList, value) ∈ authorizationFields request := by
          simp [authorizationFields, state]
        rw [getlist_of_mem nodup member]
        rfl

theorem restored_restored (request : AuthorizationRequest) :
    ConsentService.restored (ConsentService.restored request) =
      ConsentService.restored request := by
  have nodup : (sortedOn id request.scopes.dedup).Nodup :=
    (perm_sortedOn id request.scopes.dedup).nodup_iff.mpr request.scopes.nodup_dedup
  unfold ConsentService.restored
  dsimp only
  rw [nodup.dedup, sortedOn_sortedOn]

namespace Router

variable {router : Router} {occasion : Occasion} {request : AuthorizationRequest}

/-- A valid request gets to the consent page. -/
theorem authorize_of_asks {consentToken : Text} {queryString : Bytes}
    (asks : AsksFor request queryString)
    (valid : router.validateAuthorizationRequest request = .ok ())
    (metadata : validateChatgptClientMetadata request.clientId request.redirectUri
      router.loadClientMetadata = .ok ())
    (signed : router.signConsent occasion.now occasion.nonce (ConsentService.restored request) =
      .ok consentToken) :
    router.authorize occasion queryString =
      .consentPage 200 consentToken (ConsentService.restored request).scopes none := by
  have parsed : (uniqueQueryValues (queryParams queryString) >>=
      router.parseAuthorizationRequest) = .ok (ConsentService.restored request) :=
    parseAuthorizationRequest_of_asks valid asks
  have loaded : validateChatgptClientMetadata (ConsentService.restored request).clientId
      (ConsentService.restored request).redirectUri router.loadClientMetadata = .ok () := metadata
  unfold authorize
  dsimp only
  rw [parsed]
  dsimp only
  rw [loaded]
  dsimp only
  rw [signed]

/-! ## Approving -/

/-- A form in which the owner approves, with a consent token and a secret. -/
structure ApprovesWith (consentToken ownerSecret : Text) (contentType : Option Text)
    (body : Bytes) (form : List (Text × Text)) : Prop where
  read : readForm contentType body = .ok form
  consentToken : formValue form "consent_token".toList = some consentToken
  action : formValue form "action".toList = some "approve".toList
  ownerSecret : formValue form "owner_secret".toList = some ownerSecret

/-- The form that the consent page submits. -/
def answerFields (consentToken ownerSecret : Text) : List (Text × Text) :=
  [ ("consent_token".toList, consentToken),
    ("owner_secret".toList, ownerSecret),
    ("action".toList, "approve".toList) ]

theorem approvesWith_answerFields {consentToken ownerSecret : Text}
    (fits : (encodeFields (answerFields consentToken ownerSecret)).length ≤ formLimitBytes) :
    ApprovesWith consentToken ownerSecret formType
      (encodeFields (answerFields consentToken ownerSecret))
      (answerFields consentToken ownerSecret) := by
  have nodup : ((answerFields consentToken ownerSecret).map Prod.fst).Nodup := by
    show ["consent_token".toList, "owner_secret".toList, "action".toList].Nodup
    decide
  constructor
  · exact readForm_encodeFields nodup fits
  · exact formValue_of_mem nodup (by simp [answerFields])
  · exact formValue_of_mem nodup (by simp [answerFields])
  · exact formValue_of_mem nodup (by simp [answerFields])

/-- An answer on the page of a request approves that request. -/
theorem approvedRequest_of_approves {signedAt : Instant} {nonce consentToken ownerSecret : Text}
    {contentType : Option Text} {body : Bytes} {form : List (Text × Text)}
    (signed : router.signConsent signedAt nonce request = .ok consentToken)
    (approves : ApprovesWith consentToken ownerSecret contentType body form)
    (alive : ConsentService.timestamp occasion.now ≤
      ConsentService.timestamp signedAt + router.config.authorizationCodeTtlSeconds)
    (matched : router.ownerSecretMatches ownerSecret = some true) :
    router.approvedRequest occasion contentType body =
      some (ConsentService.restored request) := by
  have verified : router.verifyConsent occasion.now consentToken =
      .ok (ConsentService.restored request) :=
    (ConsentService.verifyConsent_signed signed).trans (if_pos alive)
  have notEmpty : consentToken ≠ [] := by
    rintro rfl
    cases verified
  have answer : router.readAnswer occasion contentType body =
      .ok (form, consentToken, ConsentService.restored request) := by
    unfold readAnswer
    rw [approves.read, ok_bind, required_of_value approves.consentToken notEmpty, ok_bind,
      verified, ok_bind]
    rfl
  unfold approvedRequest
  rw [answer]
  dsimp only
  rw [approves.action, approves.ownerSecret]
  exact if_pos ⟨rfl, matched⟩

/-- The redirect to an admitted client carries its fields. -/
theorem redirect_admitted {clientId redirectUri : Text} (values : List (Text × Option Text))
    (admitted : validateChatgptClient clientId redirectUri = .ok ()) :
    ∃ location, redirect redirectUri values = .redirect location ∧
      LeadsTo location clientId redirectUri (presentFields values) := by
  rcases address_of_admitted admitted with ⟨path, begins, pathChars, address⟩
  have plain : Url.Plain (chatgptAddress path []) := plain_chatgptAddress begins pathChars nofun
  have split : Url.urlsplit redirectUri = some (chatgptAddress path []) := by
    rw [address]
    exact plain.urlsplit_urlunsplit
  have redirected : redirect redirectUri values =
      .redirect (Url.urlunsplit (chatgptAddress path (Url.urlencode (presentFields values)))) := by
    unfold redirect
    rw [split]
    rfl
  exact ⟨_, redirected, leadsTo_of_redirect admitted redirected⟩

/-! ## Redeeming -/

/-- The form that redeems a code. -/
def exchangeFields (request : AuthorizationRequest) (code codeVerifier : Text) :
    List (Text × Text) :=
  [ ("grant_type".toList, "authorization_code".toList),
    ("client_id".toList, request.clientId),
    ("resource".toList, request.resource),
    ("code".toList, code),
    ("redirect_uri".toList, request.redirectUri),
    ("code_verifier".toList, codeVerifier) ]

def exchangeRequest (request : AuthorizationRequest) (code codeVerifier : Text) :
    ExchangeRequest where
  code := code
  clientId := request.clientId
  redirectUri := request.redirectUri
  resource := request.resource
  codeVerifier := codeVerifier

/-- A form that redeems a code, and does not authenticate the client. -/
structure ExchangesWith (request : AuthorizationRequest) (code codeVerifier : Text)
    (contentType : Option Text) (body : Bytes) (form : List (Text × Text)) : Prop where
  read : readForm contentType body = .ok form
  values : ∀ name value, (name, value) ∈ exchangeFields request code codeVerifier →
    formValue form name = some value
  unauthenticated : formValue form "client_secret".toList = none ∧
    formValue form "client_assertion".toList = none

theorem exchangesWith_exchangeFields {code codeVerifier : Text}
    (fits : (encodeFields (exchangeFields request code codeVerifier)).length ≤ formLimitBytes) :
    ExchangesWith request code codeVerifier formType
      (encodeFields (exchangeFields request code codeVerifier))
      (exchangeFields request code codeVerifier) := by
  have names : (exchangeFields request code codeVerifier).map Prod.fst =
      ["grant_type".toList, "client_id".toList, "resource".toList, "code".toList,
        "redirect_uri".toList, "code_verifier".toList] := rfl
  have nodup : ((exchangeFields request code codeVerifier).map Prod.fst).Nodup := by
    rw [names]
    decide
  refine ⟨readForm_encodeFields nodup fits, fun _ _ member => formValue_of_mem nodup member,
    formValue_of_notMem ?_, formValue_of_notMem ?_⟩
  · rw [names]
    decide
  · rw [names]
    decide

theorem tokenCall_of_exchanges {code codeVerifier : Text} {contentType : Option Text}
    {body : Bytes} {form : List (Text × Text)}
    (exchanges : ExchangesWith request code codeVerifier contentType body form)
    (valid : router.validateAuthorizationRequest request = .ok ()) (codeFilled : code ≠ [])
    (verifierFilled : codeVerifier ≠ []) :
    tokenCall contentType body =
      .ok (.exchangeAuthorizationCode (exchangeRequest request code codeVerifier)) := by
  rcases filled_of_validated valid with ⟨client, redirectUri, resource, _, _⟩
  have read : ∀ name value, (name, value) ∈ exchangeFields request code codeVerifier →
      value ≠ [] → (required form name).mapError oauthError = .ok value := by
    intro name value member filled
    rw [required_of_value (exchanges.values name value member) filled]
    rfl
  have formRead : (readForm contentType body).mapError oauthError = .ok form := by
    rw [exchanges.read]
    rfl
  unfold tokenCall
  rw [formRead, ok_bind, require_of exchanges.unauthenticated, ok_bind,
    read "grant_type".toList "authorization_code".toList (by simp [exchangeFields]) (by decide),
    ok_bind, read "client_id".toList _ (by simp [exchangeFields]) client, ok_bind,
    read "resource".toList _ (by simp [exchangeFields]) resource, ok_bind, if_pos rfl,
    read "code".toList _ (by simp [exchangeFields]) codeFilled, ok_bind,
    read "redirect_uri".toList _ (by simp [exchangeFields]) redirectUri, ok_bind,
    read "code_verifier".toList _ (by simp [exchangeFields]) verifierFilled, ok_bind]
  rfl

end Router

/-! ## What the service makes of them -/

namespace OAuthService

variable {service : OAuthService} {history : List Event} {event : Event}
  {request : AuthorizationRequest}

/-- A code that no earlier call drew is the code of no stored row. -/
theorem fresh_code (collisionFree : service.CollisionFree)
    (tokens : DistinctTokens (history ++ [event]))
    (call : event.call = .issueAuthorizationCode request) :
    ((service.machine.run history).deleteExpired event.now).findCode
      (service.codeDigest event.draws.firstToken.text) = none := by
  apply Table.get_eq_none_iff.mpr
  intro row member same
  rcases service.code_granted history row (List.mem_of_mem_filter member) with
    ⟨grant, granted, kept⟩
  have sameCode : grant.code = event.draws.firstToken.text := by
    apply service.digest_injective collisionFree "authorization-code".toList
    exact kept.digest.symm.trans same
  have drawn := drawn_of_granted granted
  rw [sameCode] at drawn
  exact tokens.not_mem (by simp [Event.drawnTokens, call]) drawn

/-- A valid request is issued the drawn code. -/
theorem issued_of_validated (collisionFree : service.CollisionFree) {now : Instant}
    {draws : Draws}
    (tokens : DistinctTokens (history ++ [⟨.issueAuthorizationCode request, now, draws⟩]))
    (valid : service.validateAuthorizationRequest request = .ok ()) :
    service.issueAuthorizationCode (service.machine.run history) now draws request =
      .ok (service.issued (service.machine.run history) now draws request,
        draws.firstToken.text) :=
  issueAuthorizationCode_eq_ok_iff.mpr ⟨valid, fresh_code collisionFree tokens rfl, rfl⟩

theorem handed_of_issued {store committed : OAuthStore} {now : Instant} {draws : Draws}
    {code : Text}
    (issued : service.issueAuthorizationCode store now draws request = .ok (committed, code)) :
    Event.handed service store ⟨.issueAuthorizationCode request, now, draws⟩ =
      .code ⟨request, code, now⟩ := by
  have outcome : Event.outcome service store ⟨.issueAuthorizationCode request, now, draws⟩ =
      .ok (committed, .code code) :=
    Outcome.bind_eq_ok.mpr ⟨_, issued, rfl⟩
  have answer := Event.response_of_ok outcome
  simp only [Event.handed, answer]

namespace Attempted

variable {before middle : List Event} {issue : Event} {grant : CodeGrant} {now : Instant}
  {draws : Draws} {exchange : ExchangeRequest}

/-- What the first matching attempt is handed. -/
theorem handed_of_matches (collisionFree : service.CollisionFree)
    (attempted : Attempted service before issue grant middle
      ⟨.exchangeAuthorizationCode exchange, now, draws⟩ exchange)
    (matched : Matches service grant ⟨.exchangeAuthorizationCode exchange, now, draws⟩ exchange)
    (unmatched : ∀ earlier ∈ middle, ∀ other, ¬Matches service grant earlier other)
    (grantable : Grantable grant.request.scopes) :
    ∃ committed,
      Event.outcome service (service.machine.run (before ++ issue :: middle))
          ⟨.exchangeAuthorizationCode exchange, now, draws⟩ =
        .ok (committed, .tokens (service.pair draws grant.request.scopes)) ∧
      Event.handed service (service.machine.run (before ++ issue :: middle))
          ⟨.exchangeAuthorizationCode exchange, now, draws⟩ =
        .tokens ⟨.authorizationCode exchange.code, exchange.clientId, exchange.resource,
          some draws.familyId, service.pair draws grant.request.scopes, now⟩ := by
  have stored := attempted.usable collisionFree matched.intime unmatched
  rcases fresh_of_distinct collisionFree attempted.tokens attempted.families attempted.call with
    ⟨freshFamily, fresh⟩
  have redeems := redeems_of_matches _ attempted.granted stored matched
  have scopes : decodeScopes (service.issuedRow grant).scopes = grant.request.scopes :=
    decodeScopes_encodeScopes grantable
  have outcome : Event.outcome service (service.machine.run (before ++ issue :: middle))
      ⟨.exchangeAuthorizationCode exchange, now, draws⟩ =
      .ok (service.exchanged (service.machine.run (before ++ issue :: middle)) now draws
          (service.issuedRow grant), .tokens (service.pair draws grant.request.scopes)) := by
    rw [← scopes]
    exact Outcome.bind_eq_ok.mpr
      ⟨_, exchangeAuthorizationCode_eq_ok_iff.mpr ⟨_, redeems, freshFamily, fresh, rfl⟩, rfl⟩
  refine ⟨_, outcome, ?_⟩
  have answer := Event.response_of_ok outcome
  have committed := Event.next_of_ok outcome
  have family : (service.exchanged (service.machine.run (before ++ issue :: middle)) now draws
      (service.issuedRow grant)).familyOf (service.accessDigest draws.firstToken.text) =
      some draws.familyId :=
    Event.familyOf_concat fresh.access rfl
  simp only [Event.handed, answer, Event.record, committed, OAuthService.pair, family]

end Attempted

end OAuthService

end RollingBudget.OAuth
