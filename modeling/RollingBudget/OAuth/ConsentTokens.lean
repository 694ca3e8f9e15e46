import RollingBudget.OAuth.Consent
import RollingBudget.OAuth.Ledger

namespace RollingBudget.OAuth

open Sorting Outcome

/-! A consent token reads back as the request that was signed, until it expires, and only
tokens that were signed are accepted. -/

/-! ## The text encoding -/

private theorem rdropWhile_padding (text : Text) (count : Nat)
    (unpadded : ∀ character ∈ text, character ≠ '=') :
    (text ++ List.replicate count '=').rdropWhile (· = '=') = text := by
  induction count with
  | zero =>
      rw [List.replicate_zero, List.append_nil, List.rdropWhile_eq_self_iff]
      intro nonempty equal
      exact unpadded _ (List.getLast_mem nonempty) (of_decide_eq_true equal)
  | succ count induction =>
      rw [List.replicate_succ', ← List.append_assoc, List.rdropWhile_concat_pos _ _ _ (by decide)]
      exact induction

theorem b64url_eq (raw : Bytes) : b64url raw = Base64.encodeGroups raw := by
  unfold b64url Base64.urlsafeEncode Base64.padding
  apply rdropWhile_padding
  intro character member equal
  rw [equal] at member
  exact absurd (Base64.mem_alphabet_of_mem_encodeGroups member) (by decide)

/-- Every byte string reads back. -/
theorem b64urlDecode_b64url (raw : Bytes) : b64urlDecode (b64url raw) = some raw := by
  have ascii : (Base64.alphabet.all fun character => character.toNat < 128) = true := by
    decide +kernel
  simp only [List.all_eq_true, decide_eq_true_eq] at ascii
  rw [b64url_eq, b64urlDecode, Base64.urlsafeDecode, Base64.scan_encodeGroups, if_pos]
  rw [List.all_eq_true]
  intro character member
  apply decide_eq_true
  rcases List.mem_append.mp member with digit | pad
  · exact ascii character (Base64.mem_alphabet_of_mem_encodeGroups digit)
  · rw [List.eq_of_mem_replicate pad]
    decide

theorem b64url_injective : Function.Injective b64url := by
  intro first second equal
  have decoded := congrArg b64urlDecode equal
  rw [b64urlDecode_b64url, b64urlDecode_b64url] at decoded
  exact Option.some.inj decoded

theorem dot_not_mem_b64url (raw : Bytes) : '.' ∉ b64url raw := by
  intro member
  rw [b64url_eq] at member
  exact absurd (Base64.mem_alphabet_of_mem_encodeGroups member) (by decide)

namespace ConsentService

/-- The first dot is the separator. -/
theorem splitToken_append {encoded : Text} (plain : '.' ∉ encoded) (supplied : Text) :
    splitToken (encoded ++ '.' :: supplied) = some (encoded, supplied) := by
  have noDot : ∀ character ∈ encoded, decide (character ≠ '.') = true := by
    intro character member
    apply decide_eq_true
    rintro rfl
    exact plain member
  unfold splitToken
  rw [List.dropWhile_append_of_pos noDot, List.takeWhile_append_of_pos noDot]
  simp

theorem eq_of_splitToken {signed encoded supplied : Text}
    (split : splitToken signed = some (encoded, supplied)) : signed = encoded ++ '.' :: supplied := by
  have whole : signed.takeWhile (· ≠ '.') ++ signed.dropWhile (· ≠ '.') = signed :=
    List.takeWhile_append_dropWhile
  have stops := List.head?_dropWhile_not (fun character : Char => decide (character ≠ '.')) signed
  unfold splitToken at split
  split at split
  · cases split
  · next dot rest dropped =>
    rw [dropped, List.head?_cons] at stops
    have isDot : dot = '.' := by simpa using stops
    rw [isDot] at dropped
    cases split
    rw [← dropped, whole]

/-! ## What a token holds -/

variable {service : ConsentService} {request : AuthorizationRequest}

private theorem texts_ofJson (scopes : List Text) :
    texts (JsonValue.ofJson (Json.arr (scopes.map .str)).sortKeys) = some scopes := by
  have items : JsonValue.ofJson (Json.arr (scopes.map .str)).sortKeys =
      .arr (scopes.map .str) := by
    rw [Json.sortKeys, JsonValue.ofJson, Json.sortItems_eq_map, JsonValue.ofItems_eq_map,
      List.map_map, List.map_map]
    rfl
  rw [items, texts]
  induction scopes with
  | nil => rfl
  | cons scope scopes induction =>
      have tail : (scopes.map JsonValue.str).mapM asText = some scopes := by
        apply induction
        rw [Json.sortKeys, JsonValue.ofJson, Json.sortItems_eq_map, JsonValue.ofItems_eq_map,
          List.map_map, List.map_map]
        rfl
      rw [List.map_cons, List.mapM_cons, tail]
      rfl

private theorem optionalText_ofJson (state : Option Text) :
    optionalText (some (JsonValue.ofJson ((state.map Json.str).getD .null).sortKeys)) =
      some state := by
  cases state <;> rfl

/-- The fields of a signed payload, as they are read back. -/
private theorem field_eq {now : Nat} {nonce key : Text} {value : Json}
    (member : (key, value) ∈ service.consentFields now nonce request) :
    JsonValue.get (JsonValue.ofFields (sortedOn Prod.fst
        (Json.sortFields (service.consentFields now nonce request)))) key =
      some (JsonValue.ofJson value.sortKeys) := by
  apply JsonValue.get_of_mem _ member
  show fieldNames.Nodup
  decide +kernel

/-- Reading the payload that was signed. -/
theorem readConsent_payload {scopes : List Text} (now later : Nat) (nonce : Text)
    (normalized : normalizeScopes request.scopes = .ok scopes) :
    service.readConsent later (JsonValue.ofFields (sortedOn Prod.fst
        (Json.sortFields (service.consentFields now nonce request)))) =
      if later ≤ now + service.config.authorizationCodeTtlSeconds then
        .ok { request with scopes := scopes }
      else .error expiredConsent := by
  have field : ∀ key value, (key, value) ∈ service.consentFields now nonce request →
      JsonValue.get (JsonValue.ofFields (sortedOn Prod.fst
        (Json.sortFields (service.consentFields now nonce request)))) key =
      some (JsonValue.ofJson value.sortKeys) := fun _ _ member => field_eq member
  unfold readConsent
  dsimp only
  generalize JsonValue.get (JsonValue.ofFields (sortedOn Prod.fst
    (Json.sortFields (service.consentFields now nonce request)))) = fieldOf at field ⊢
  have version : fieldOf "v".toList = some (.int 1) :=
    field _ (.nat 1) (by simp [consentFields])
  have expiry : fieldOf "exp".toList =
      some (.int (now + service.config.authorizationCodeTtlSeconds : Nat)) :=
    field _ (.nat (now + service.config.authorizationCodeTtlSeconds)) (by simp [consentFields])
  have scopesField := field "scopes".toList (.arr (request.scopes.map .str))
    (by simp [consentFields])
  have stateField := field "state".toList ((request.state.map Json.str).getD .null)
    (by simp [consentFields])
  have clientId : fieldOf "client_id".toList = some (.str request.clientId) :=
    field _ (.str request.clientId) (by simp [consentFields])
  have redirectUri : fieldOf "redirect_uri".toList = some (.str request.redirectUri) :=
    field _ (.str request.redirectUri) (by simp [consentFields])
  have resource : fieldOf "resource".toList = some (.str request.resource) :=
    field _ (.str request.resource) (by simp [consentFields])
  have codeChallenge : fieldOf "code_challenge".toList = some (.str request.codeChallenge) :=
    field _ (.str request.codeChallenge) (by simp [consentFields])
  have isOne : (some (JsonValue.int 1)).any service.equalsOne = true := by
    simp [equalsOne]
  rw [version, require_of isOne, ok_bind, expiry, Option.bind_some, toInt, orRaise_some, ok_bind]
  by_cases alive : later ≤ now + service.config.authorizationCodeTtlSeconds
  · have notExpired : ¬((now + service.config.authorizationCodeTtlSeconds : Nat) : Int) <
        (later : Int) := by omega
    rw [if_pos alive, require_of notExpired, ok_bind, scopesField, Option.bind_some,
      texts_ofJson, orRaise_some, ok_bind, stateField, optionalText_ofJson, orRaise_some, ok_bind,
      clientId, redirectUri, resource, codeChallenge]
    simp only [Option.map_some, orRaise_some, ok_bind, normalized, toText]
    rfl
  · have expired : ((now + service.config.authorizationCodeTtlSeconds : Nat) : Int) <
        (later : Int) := by omega
    rw [if_neg alive, require, if_neg (not_not_intro expired)]
    rfl

/-! ## The round trip -/

theorem signConsent_eq {now : Instant} {nonce : Text}
    (valid : service.validateAuthorizationRequest request = .ok ()) :
    service.signConsent now nonce request =
      .ok (b64url (Json.obj (service.consentFields (timestamp now) nonce request)).dumpsAscii.encode
        ++ '.' :: service.signature (b64url
          (Json.obj (service.consentFields (timestamp now) nonce request)).dumpsAscii.encode)) := by
  unfold signConsent
  rw [valid]
  rfl

/-- The request as a token gives it back. -/
def restored (request : AuthorizationRequest) : AuthorizationRequest :=
  { request with scopes := sortedOn id request.scopes.dedup }

theorem normalizeScopes_of_validated
    (valid : service.validateAuthorizationRequest request = .ok ()) :
    normalizeScopes request.scopes = .ok (restored request).scopes := by
  unfold OAuthService.validateAuthorizationRequest at valid
  rcases bind_eq_ok.mp valid with ⟨_, _, valid⟩
  rcases bind_eq_ok.mp valid with ⟨_, _, valid⟩
  rcases bind_eq_ok.mp valid with ⟨scopes, normalized, _⟩
  rw [normalized, (normalizeScopes_eq_ok_iff.mp normalized).2]
  rfl

/-- Sorting the scopes does not change what is validated. -/
theorem validate_restored :
    service.validateAuthorizationRequest (restored request) =
      service.validateAuthorizationRequest request := by
  have distinct : (sortedOn id request.scopes.dedup).Nodup :=
    (perm_sortedOn id _).nodup_iff.mpr (List.nodup_dedup _)
  have normalized : normalizeScopes (restored request).scopes = normalizeScopes request.scopes := by
    unfold normalizeScopes restored
    rw [distinct.dedup, sortedOn_sortedOn]
  unfold OAuthService.validateAuthorizationRequest
  rw [normalized]
  rfl

theorem validated_of_signed {now : Instant} {nonce token : Text}
    (signed : service.signConsent now nonce request = .ok token) :
    service.validateAuthorizationRequest request = .ok () := by
  unfold signConsent at signed
  rcases bind_eq_ok.mp signed with ⟨⟨⟩, valid, _⟩
  exact valid

theorem verifyConsent_signed {now later : Instant} {nonce token : Text}
    (signed : service.signConsent now nonce request = .ok token) :
    service.verifyConsent later token =
      if timestamp later ≤ timestamp now + service.config.authorizationCodeTtlSeconds then
        .ok (restored request)
      else .error expiredConsent := by
  have valid := validated_of_signed signed
  rw [signConsent_eq valid, Except.ok.injEq] at signed
  rw [← signed]
  unfold verifyConsent
  rw [splitToken_append (dot_not_mem_b64url _), orRaise_some, ok_bind]
  dsimp only
  rw [require_of rfl, ok_bind, b64urlDecode_b64url, orRaise_some, ok_bind, Bytes.decode_encode,
    orRaise_some, ok_bind, JsonReader.read_dumpsAscii, JsonValue.ofJson_sortKeys_obj,
    orRaise_some, ok_bind]
  dsimp only
  rw [readConsent_payload (timestamp now) (timestamp later) nonce
    (normalizeScopes_of_validated valid)]
  split
  · rw [ok_bind]
    have again : service.validateAuthorizationRequest
        { request with scopes := (restored request).scopes } = .ok () :=
      validate_restored.trans valid
    rw [again]
    rfl
  · rfl

/-! ## Only signed tokens are accepted -/

/-- The part of a token after its first dot. -/
def carriedSignature (token : Text) : Option Text := (splitToken token).map Prod.snd

/-- A caller without the key cannot compute a signature: one that it presents it has
taken from a token that was issued. -/
def WithoutKey (service : ConsentService) (issued : List Text) (signed : Text) : Prop :=
  ∀ message, carriedSignature signed =
      some (b64url (service.hmacDigest service.hmacKey message)) →
    ∃ token ∈ issued, carriedSignature token = carriedSignature signed

/-- Everything about one call of `sign_consent`. -/
structure Signing where
  request : AuthorizationRequest
  now : Instant
  nonce : Text

/-- The tokens that a list of calls has produced. -/
def issuedTokens (service : ConsentService) (signings : List Signing) : List Text :=
  signings.filterMap fun signing =>
    (service.signConsent signing.now signing.nonce signing.request).toOption

/-- A token carries the signature of its own payload. -/
private theorem carried_of_issued {signings : List Signing} {token : Text}
    (issued : token ∈ service.issuedTokens signings) :
    ∃ encoded, '.' ∉ encoded ∧ token = encoded ++ '.' :: service.signature encoded := by
  rcases List.mem_filterMap.mp issued with ⟨signing, _, produced⟩
  cases signed : service.signConsent signing.now signing.nonce signing.request with
  | error error =>
      rw [signed] at produced
      cases produced
  | ok text =>
      rw [signed] at produced
      cases produced
      rw [signConsent_eq (validated_of_signed signed), Except.ok.injEq] at signed
      exact ⟨_, dot_not_mem_b64url _, signed.symm⟩

theorem mem_issuedTokens_of_verified {signings : List Signing} {now : Instant} {signed : Text}
    (injective : Function.Injective (service.hmacDigest service.hmacKey))
    (withoutKey : WithoutKey service (service.issuedTokens signings) signed)
    (verified : service.verifyConsent now signed = .ok request) :
    signed ∈ service.issuedTokens signings := by
  unfold verifyConsent at verified
  rcases bind_eq_ok.mp verified with ⟨⟨encoded, supplied⟩, split, verified⟩
  rcases bind_eq_ok.mp verified with ⟨_, matching, _⟩
  rw [orRaise_eq_ok] at split
  rw [require_eq_ok] at matching
  have carried : carriedSignature signed = some (service.signature encoded) := by
    rw [carriedSignature, split, ← matching]
    rfl
  rcases withoutKey _ carried with ⟨token, issued, sameSignature⟩
  rcases carried_of_issued issued with ⟨encoded', plain, written⟩
  rw [carried, written, carriedSignature, splitToken_append plain, Option.map_some,
    Option.some.injEq] at sameSignature
  have sameMessage := injective (b64url_injective sameSignature)
  rw [List.append_cancel_left_eq, List.cons.injEq] at sameMessage
  rw [eq_of_splitToken split, matching, ← sameMessage.2, ← written]
  exact issued

/-! ## The claim of a token -/

theorem timestamp_le_iff {later second : Nat} :
    timestamp later ≤ second ↔ later < seconds (second + 1) := by
  unfold timestamp seconds
  omega

/-- A consent token gives back the request it was made for, up to the end of the second it
expires in, and raises from then on. Every byte string survives the text encoding, the
first dot separates payload and signature, and what a caller without the key presents is
accepted only when it is a token that was issued. -/
theorem consent_tokens_authentic (service : ConsentService) :
    (∀ raw, b64urlDecode (b64url raw) = some raw) ∧
    (∀ request, service.validateAuthorizationRequest request = .ok () → ∀ now nonce,
      ∃ encoded, '.' ∉ encoded ∧
        service.signConsent now nonce request =
          .ok (encoded ++ '.' :: service.signature encoded) ∧
        splitToken (encoded ++ '.' :: service.signature encoded) =
          some (encoded, service.signature encoded) ∧
        ∀ later,
          (later < seconds (timestamp now + service.config.authorizationCodeTtlSeconds + 1) →
            service.verifyConsent later (encoded ++ '.' :: service.signature encoded) =
              .ok { request with scopes := sortedOn id request.scopes.dedup }) ∧
          (seconds (timestamp now + service.config.authorizationCodeTtlSeconds + 1) ≤ later →
            ∃ error, service.verifyConsent later (encoded ++ '.' :: service.signature encoded) =
              .error error)) ∧
    (Function.Injective (service.hmacDigest service.hmacKey) →
      ∀ signings now signed request, WithoutKey service (service.issuedTokens signings) signed →
        service.verifyConsent now signed = .ok request →
        signed ∈ service.issuedTokens signings) := by
  refine ⟨b64urlDecode_b64url, ?_, ?_⟩
  · intro request valid now nonce
    have signed := @signConsent_eq service request now nonce valid
    refine ⟨_, dot_not_mem_b64url _, signed, splitToken_append (dot_not_mem_b64url _) _, ?_⟩
    intro later
    have verified := @verifyConsent_signed service request now later nonce _ signed
    constructor
    · intro alive
      rw [verified, if_pos (timestamp_le_iff.mpr alive)]
      rfl
    · intro expired
      rw [verified, if_neg fun alive => absurd (timestamp_le_iff.mp alive) (not_lt.mpr expired)]
      exact ⟨_, rfl⟩
  · intro injective signings now signed request withoutKey verified
    exact mem_issuedTokens_of_verified injective withoutKey verified

end ConsentService

/-- A service to evaluate: the digest of a message is the key and the message themselves. -/
def Sample.consentService : ConsentService where
  toOAuthService := Sample.service
  hmacDigest := fun key message => (key ++ message).encode
  builtins :=
    { str := fun _ => []
      intOfText := fun _ => none
      intOfFloat := fun _ => none
      floatIsOne := fun _ => false }

theorem Sample.validated :
    Sample.consentService.validateAuthorizationRequest Sample.request = .ok () := by
  have succeeds : (Sample.service.validateAuthorizationRequest Sample.request).isOk = true := by
    decide +kernel
  rcases exists_of_isOk succeeds with ⟨⟨⟩, valid⟩
  exact valid

namespace ConsentService

/-- A token is accepted and a later expiry refuses it, and a token with another signature is
accepted by no call. -/
theorem consent_tokens_authentic_signed :
    (∃ token, Sample.consentService.signConsent 0 "nonce".toList Sample.request = .ok token ∧
      Sample.consentService.verifyConsent 0 token = .ok (restored Sample.request) ∧
      ∃ error, Sample.consentService.verifyConsent (seconds 301) token = .error error) ∧
    ∀ now request,
      Sample.consentService.verifyConsent now "e30.AA".toList ≠ .ok request := by
  rcases consent_tokens_authentic Sample.consentService with ⟨_, signs, refuses⟩
  constructor
  · rcases signs Sample.request Sample.validated 0 "nonce".toList with
      ⟨encoded, _, signed, _, reads⟩
    exact ⟨_, signed, (reads 0).1 (by decide), (reads (seconds 301)).2 (by decide)⟩
  · intro now request verified
    have injective : Function.Injective
        (Sample.consentService.hmacDigest Sample.consentService.hmacKey) :=
      Text.encode_injective.comp fun _ _ equal => List.append_cancel_left equal
    have withoutKey : WithoutKey Sample.consentService
        (Sample.consentService.issuedTokens []) "e30.AA".toList := by
      intro message forged
      -- The signature is that of one byte, and every digest starts with the whole key.
      have carried : carriedSignature "e30.AA".toList = some "AA".toList := by decide +kernel
      have decoded := congrArg b64urlDecode (Option.some.inj (carried.symm.trans forged))
      rw [b64urlDecode_b64url, show b64urlDecode "AA".toList = some (Text.encode ['\x00']) by
        decide +kernel] at decoded
      have lengths := congrArg List.length (Text.encode_injective (Option.some.inj decoded))
      rw [List.length_append] at lengths
      have key : 1 < Sample.consentService.hmacKey.length := by decide +kernel
      rw [List.length_singleton] at lengths
      omega
    cases refuses injective [] now _ request withoutKey verified

/-- Half a second after its expiry a token is still accepted. -/
theorem consent_accepted_after_expiry :
    ∃ token, Sample.consentService.signConsent 0 "nonce".toList Sample.request = .ok token ∧
      seconds (timestamp 0 + Sample.consentService.config.authorizationCodeTtlSeconds) <
        300500000 ∧
      Sample.consentService.verifyConsent 300500000 token = .ok (restored Sample.request) := by
  have signed := @signConsent_eq Sample.consentService Sample.request 0 "nonce".toList
    Sample.validated
  refine ⟨_, signed, by decide, ?_⟩
  rw [verifyConsent_signed signed, if_pos (by decide)]

end ConsentService

end RollingBudget.OAuth
