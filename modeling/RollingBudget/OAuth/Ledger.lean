import RollingBudget.OAuth.Service

namespace RollingBudget.OAuth

/-! What the calls of a history handed out, and the histories that can occur: the clock
does not go back and nothing is drawn twice. -/

/-- What a token pair was handed out for. -/
inductive Grant where
  | authorizationCode (code : Text)
  | refreshToken (token : Text)
deriving DecidableEq

/-- An authorization code that was handed out. -/
structure CodeGrant where
  request : AuthorizationRequest
  code : Text
  issuedAt : Instant
deriving DecidableEq

/-- A token pair that was handed out, with the client and the resource of the call and the
family its rows were stored under. -/
structure Issuance where
  grant : Grant
  clientId : Text
  resource : Text
  family : Option Nat
  pair : TokenPair
  issuedAt : Instant
deriving DecidableEq

inductive Handed where
  | nothing
  | code (grant : CodeGrant)
  | tokens (issuance : Issuance)
deriving DecidableEq

def Handed.codeGrants : Handed → List CodeGrant
  | .code grant => [grant]
  | _ => []

def Handed.issuances : Handed → List Issuance
  | .tokens issuance => [issuance]
  | _ => []

/-- The family an access token is stored under. -/
def OAuthStore.familyOf (store : OAuthStore) (accessDigest : Text) : Option Nat :=
  (store.findAccess accessDigest).map (·.familyId)

namespace Event

variable (service : OAuthService) (store : OAuthStore) (event : Event)

/-- The record of a token pair that the call has just handed out. -/
def record (grant : Grant) (clientId resource : Text) (pair : TokenPair) : Issuance where
  grant := grant
  clientId := clientId
  resource := resource
  family := (event.next service store).familyOf (service.accessDigest pair.accessToken)
  pair := pair
  issuedAt := event.now

def handed : Handed :=
  match event.call, event.response service store with
  | .issueAuthorizationCode request, some (.code rawCode) => .code ⟨request, rawCode, event.now⟩
  | .exchangeAuthorizationCode request, some (.tokens pair) =>
      .tokens (event.record service store (.authorizationCode request.code) request.clientId
        request.resource pair)
  | .refresh request, some (.tokens pair) =>
      .tokens (event.record service store (.refreshToken request.refreshToken) request.clientId
        request.resource pair)
  | _, _ => .nothing

/-- The tokens that the call draws when it gets so far. -/
def drawnTokens : List Text :=
  match event.call with
  | .issueAuthorizationCode _ => [event.draws.firstToken.text]
  | .exchangeAuthorizationCode _ | .refresh _ =>
      [event.draws.firstToken.text, event.draws.secondToken.text]
  | _ => []

/-- The ids that the call draws for families. -/
def drawnFamilies : List Nat :=
  match event.call with
  | .exchangeAuthorizationCode _ => [event.draws.familyId]
  | _ => []

end Event

/-- The tokens that were handed out. -/
def Handed.rawTokens : Handed → List Text
  | .nothing => []
  | .code grant => [grant.code]
  | .tokens issuance => [issuance.pair.accessToken, issuance.pair.refreshToken]

namespace OAuthService

variable (service : OAuthService)

def ledger (history : List Event) : List Handed :=
  service.machine.collect (fun store event => [event.handed service store]) history

def codeGrants (history : List Event) : List CodeGrant :=
  (service.ledger history).flatMap Handed.codeGrants

def issuances (history : List Event) : List Issuance :=
  (service.ledger history).flatMap Handed.issuances

/-- No two texts have one digest under the service's key. -/
def CollisionFree : Prop := Function.Injective (service.cryptography.hmacSha256 service.hmacKey)

variable {service} {history : List Event}

@[simp] theorem ledger_nil : service.ledger [] = [] := rfl

@[simp] theorem ledger_concat (event : Event) :
    service.ledger (history ++ [event]) =
      service.ledger history ++ [event.handed service (service.machine.run history)] :=
  service.machine.collect_concat _ history event

@[simp] theorem codeGrants_concat (event : Event) :
    service.codeGrants (history ++ [event]) = service.codeGrants history ++
      (event.handed service (service.machine.run history)).codeGrants := by
  simp [codeGrants]

@[simp] theorem issuances_concat (event : Event) :
    service.issuances (history ++ [event]) = service.issuances history ++
      (event.handed service (service.machine.run history)).issuances := by
  simp [issuances]

theorem mem_ledger_iff {handed : Handed} :
    handed ∈ service.ledger history ↔ ∃ before event after,
      history = before ++ event :: after ∧
        handed = event.handed service (service.machine.run before) := by
  unfold ledger
  simp only [Machine.mem_collect_iff, List.mem_singleton]

theorem mem_codeGrants {grant : CodeGrant} :
    grant ∈ service.codeGrants history ↔ .code grant ∈ service.ledger history := by
  simp only [codeGrants, List.mem_flatMap]
  constructor
  · rintro ⟨handed, member, inside⟩
    cases handed with
    | code other => rwa [List.mem_singleton.mp inside]
    | nothing => cases inside
    | tokens other => cases inside
  · intro member
    exact ⟨_, member, List.mem_singleton_self grant⟩

theorem mem_issuances {issuance : Issuance} :
    issuance ∈ service.issuances history ↔ .tokens issuance ∈ service.ledger history := by
  simp only [issuances, List.mem_flatMap]
  constructor
  · rintro ⟨handed, member, inside⟩
    cases handed with
    | tokens other => rwa [List.mem_singleton.mp inside]
    | nothing => cases inside
    | code other => cases inside
  · intro member
    exact ⟨_, member, List.mem_singleton_self issuance⟩

end OAuthService

/-! ## Histories that can occur -/

/-- No two families get one id. -/
def DistinctFamilies (history : List Event) : Prop := (history.flatMap (·.drawnFamilies)).Nodup

/-- No token is drawn twice. -/
def DistinctTokens (history : List Event) : Prop := (history.flatMap (·.drawnTokens)).Nodup

/-- The clock does not go back. -/
def Chronological (history : List Event) : Prop := (history.map (·.now)).Pairwise (· ≤ ·)

section

variable {history continuation : List Event} {event : Event}

theorem DistinctFamilies.of_append (distinct : DistinctFamilies (history ++ continuation)) :
    DistinctFamilies history := by
  unfold DistinctFamilies at distinct ⊢
  rw [List.flatMap_append] at distinct
  exact (List.nodup_append.mp distinct).1

theorem DistinctFamilies.not_mem (distinct : DistinctFamilies (history ++ [event])) {family : Nat}
    (drawn : family ∈ event.drawnFamilies) : family ∉ history.flatMap (·.drawnFamilies) := by
  unfold DistinctFamilies at distinct
  rw [List.flatMap_append, List.nodup_append] at distinct
  intro earlier
  exact distinct.2.2 family earlier family (by simpa using drawn) rfl

theorem DistinctTokens.of_append (distinct : DistinctTokens (history ++ continuation)) :
    DistinctTokens history := by
  unfold DistinctTokens at distinct ⊢
  rw [List.flatMap_append] at distinct
  exact (List.nodup_append.mp distinct).1

theorem DistinctTokens.not_mem (distinct : DistinctTokens (history ++ [event])) {token : Text}
    (drawn : token ∈ event.drawnTokens) : token ∉ history.flatMap (·.drawnTokens) := by
  unfold DistinctTokens at distinct
  rw [List.flatMap_append, List.nodup_append] at distinct
  intro earlier
  exact distinct.2.2 token earlier token (by simpa using drawn) rfl

theorem Chronological.of_append (clock : Chronological (history ++ continuation)) :
    Chronological history := by
  unfold Chronological at clock ⊢
  rw [List.map_append] at clock
  exact (List.pairwise_append.mp clock).1

theorem Chronological.le (clock : Chronological (history ++ [event])) {earlier : Event}
    (member : earlier ∈ history) : earlier.now ≤ event.now := by
  unfold Chronological at clock
  rw [List.map_append, List.pairwise_append] at clock
  exact clock.2.2 earlier.now (List.mem_map_of_mem member) event.now (by simp)

end

/-! ## A small history -/

namespace Sample

/-- A service to evaluate: a digest is the key and the message themselves. -/
def service : OAuthService where
  config :=
    { publicBaseUrl := "https://budget.example".toList
      consentSecret := "an owner secret to share".toList
      authorizationCodeTtlSeconds := 300
      accessTokenTtlSeconds := 900
      refreshTokenTtlSeconds := 7776000
      authorizationCodeTtl_range := by decide
      accessTokenTtl_range := by decide
      refreshTokenTtl_range := by decide }
  cryptography :=
    { hmacSha256 := fun key message => key ++ message
      s256 := id }

theorem collisionFree : service.CollisionFree :=
  fun _ _ equal => List.append_cancel_left equal

/-- 43 times one character. -/
def token (character : Char) : RandomToken := ⟨List.replicate 43 character, List.length_replicate⟩

def verifier : Text := (token 'v').text

def request : AuthorizationRequest where
  clientId := chatgptStableClientId
  redirectUri := chatgptStableRedirectUri
  resource := service.config.resource
  scopes := ["budget:refresh".toList, "budget:read".toList]
  codeChallenge := verifier
  state := none

def exchange (code : Text) : ExchangeRequest where
  code := code
  clientId := request.clientId
  redirectUri := request.redirectUri
  resource := request.resource
  codeVerifier := verifier

def refresh (refreshToken : Text) (requestedScopes : Option (List Text)) : RefreshRequest where
  refreshToken := refreshToken
  clientId := request.clientId
  resource := request.resource
  requestedScopes := requestedScopes

def event (call : Call) (second : Nat) (firstToken secondToken : Char) (familyId : Nat) : Event where
  call := call
  now := seconds second
  draws := ⟨token firstToken, token secondToken, familyId⟩

/-- A code is handed out and exchanged, and the pair is refreshed for fewer scopes. -/
def refreshing : List Event :=
  [event (.issueAuthorizationCode request) 0 'a' 'a' 0,
    event (.exchangeAuthorizationCode (exchange (token 'a').text)) 10 'b' 'c' 7,
    event (.refresh (refresh (token 'c').text (some ["budget:read".toList]))) 20 'd' 'e' 0]

/-- The first refresh token is presented again. -/
def replaying : List Event :=
  refreshing ++ [event (.refresh (refresh (token 'c').text none)) 30 'f' 'g' 0]

end Sample

end RollingBudget.OAuth
