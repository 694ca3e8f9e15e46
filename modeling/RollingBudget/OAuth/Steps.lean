import RollingBudget.OAuth.Ledger

namespace RollingBudget.OAuth

/-! What each call does when it does something. Every proof about the whole service
splits a step here and nowhere else. -/

namespace OAuthService

variable (service : OAuthService) {store : OAuthStore} {now : Instant} {draws : Draws}

/-! ## Rotation -/

/-- Prolong a family to the lifetime of its next refresh token. -/
def extend (now : Instant) (family : OAuthTokenFamily) : OAuthTokenFamily :=
  { family with expiresAt := now + seconds service.config.refreshTokenTtlSeconds }

/-- The pair that the draws of a call make. -/
def pair (draws : Draws) (scopes : List Text) : TokenPair where
  accessToken := draws.firstToken.text
  refreshToken := draws.secondToken.text
  expiresIn := service.config.accessTokenTtlSeconds
  scopes := scopes

/-- Neither drawn token has the digest of a stored one. -/
structure FreshTokens (store : OAuthStore) (draws : Draws) : Prop where
  access : store.findAccess (service.accessDigest draws.firstToken.text) = none
  refresh : store.findRefresh (service.refreshDigest draws.secondToken.text) = none

/-- The store with the rows of a new token pair. -/
def rotated (store : OAuthStore) (now : Instant) (draws : Draws) (familyId : Nat)
    (scopes : List Text) : OAuthStore where
  codes := store.codes
  families := Table.modify (·.id) familyId (service.extend now) store.families
  accessTokens :=
    store.accessTokens ++ [service.accessToken now familyId scopes draws.firstToken.text]
  refreshTokens :=
    store.refreshTokens ++ [service.refreshToken now familyId scopes draws.secondToken.text]

variable {service}

theorem rotateTokenPair_eq_ok_iff {familyId : Nat} {scopes : List Text}
    {result : OAuthStore × TokenPair} :
    service.rotateTokenPair store now draws familyId scopes = .ok result ↔
      service.FreshTokens store draws ∧
        result = (service.rotated store now draws familyId scopes, service.pair draws scopes) := by
  constructor
  · intro completed
    rcases Outcome.bind_eq_ok.mp completed with ⟨_, access, completed⟩
    rcases Outcome.bind_eq_ok.mp completed with ⟨_, refresh, completed⟩
    rw [Outcome.require_eq_ok] at access refresh
    cases completed
    exact ⟨⟨access, refresh⟩, rfl⟩
  · rintro ⟨fresh, rfl⟩
    refine Outcome.bind_eq_ok.mpr ⟨(), Outcome.require_of fresh.access, ?_⟩
    exact Outcome.bind_eq_ok.mpr ⟨(), Outcome.require_of fresh.refresh, rfl⟩

/-! ## Exchange -/

variable (service) in
/-- The attempt passes every check against the stored code. -/
structure Redeems (store : OAuthStore) (now : Instant) (request : ExchangeRequest)
    (stored : OAuthAuthorizationCode) : Prop where
  admitted : service.validateTokenClient request.clientId request.resource = .ok ()
  redirect : validateChatgptClient request.clientId request.redirectUri = .ok ()
  verifier : IsVerifier request.codeVerifier
  found : store.findCode (service.codeDigest request.code) = some stored
  unconsumed : stored.consumedAt = none
  unexpired : now < stored.expiresAt
  generation : stored.credentialGeneration = service.credentialGeneration
  sameClient : stored.clientId = request.clientId
  sameRedirect : stored.redirectUri = request.redirectUri
  sameResource : stored.resource = request.resource
  challenge : service.cryptography.s256 request.codeVerifier = stored.codeChallenge

def consumeCode (now : Instant) (row : OAuthAuthorizationCode) : OAuthAuthorizationCode :=
  { row with consumedAt := some now }

variable (service) in
/-- The family that redeeming a code creates. -/
def createdFamily (now : Instant) (draws : Draws) (stored : OAuthAuthorizationCode) :
    OAuthTokenFamily :=
  service.tokenFamily now draws.familyId stored.clientId stored.resource
    (decodeScopes stored.scopes) stored.subject

variable (service) in
/-- The store after a code has been redeemed. -/
def exchanged (store : OAuthStore) (now : Instant) (draws : Draws)
    (stored : OAuthAuthorizationCode) : OAuthStore where
  codes := Table.modify (·.codeDigest) stored.codeDigest (consumeCode now) store.codes
  families := store.families ++ [service.createdFamily now draws stored]
  accessTokens := store.accessTokens ++
    [service.accessToken now draws.familyId (decodeScopes stored.scopes) draws.firstToken.text]
  refreshTokens := store.refreshTokens ++
    [service.refreshToken now draws.familyId (decodeScopes stored.scopes) draws.secondToken.text]

/-- A family that has just been added already has the lifetime it is extended to. -/
theorem modify_extend_concat {families : List OAuthTokenFamily} {family : OAuthTokenFamily}
    (fresh : ∀ old ∈ families, old.id ≠ family.id) (current : service.extend now family = family) :
    Table.modify (·.id) family.id (service.extend now) (families ++ [family]) =
      families ++ [family] := by
  unfold Table.modify
  rw [List.map_append]
  congr 1
  · exact Table.modify_of_forall_ne fresh
  · simp [current]

theorem exchangeAuthorizationCode_eq_ok_iff {request : ExchangeRequest}
    {result : OAuthStore × TokenPair} :
    service.exchangeAuthorizationCode store now draws request = .ok result ↔
      ∃ stored, service.Redeems store now request stored ∧
        store.findFamily draws.familyId = none ∧ service.FreshTokens store draws ∧
        result = (service.exchanged store now draws stored,
          service.pair draws (decodeScopes stored.scopes)) := by
  have rotates : ∀ stored, store.findFamily draws.familyId = none →
      service.rotated
        ((store.modifyCode stored.codeDigest (consumeCode now)).addFamily
          (service.createdFamily now draws stored)) now draws draws.familyId
        (decodeScopes stored.scopes) = service.exchanged store now draws stored := by
    intro stored fresh
    have absent : ∀ old ∈ store.families, old.id ≠ draws.familyId := Table.get_eq_none_iff.mp fresh
    have current : service.extend now (service.createdFamily now draws stored) =
      service.createdFamily now draws stored := rfl
    unfold rotated exchanged
    congr 1
    exact modify_extend_concat absent current
  constructor
  · intro completed
    rcases Outcome.bind_eq_ok.mp completed with ⟨_, admitted, completed⟩
    rcases Outcome.bind_eq_ok.mp completed with ⟨_, redirect, completed⟩
    rcases Outcome.bind_eq_ok.mp completed with ⟨_, verifier, completed⟩
    rcases Outcome.bind_eq_ok.mp completed with ⟨stored, found, completed⟩
    rcases Outcome.bind_eq_ok.mp completed with ⟨_, bound, completed⟩
    rcases Outcome.bind_eq_ok.mp completed with ⟨_, challenge, completed⟩
    rcases Outcome.bind_eq_ok.mp completed with ⟨_, fresh, completed⟩
    rw [Outcome.mapError_eq_ok] at admitted redirect
    rw [Outcome.require_eq_ok] at verifier bound challenge fresh
    rw [Outcome.orRaise_eq_ok] at found
    rcases rotateTokenPair_eq_ok_iff.mp completed with ⟨tokens, rfl⟩
    rcases bound with ⟨unconsumed, unexpired, generation, sameClient, sameRedirect, sameResource⟩
    refine ⟨stored, ⟨admitted, redirect, verifier, found, unconsumed, unexpired, generation,
      sameClient, sameRedirect, sameResource, challenge⟩, fresh, ⟨tokens.access, tokens.refresh⟩, ?_⟩
    rw [← rotates stored fresh]
    rfl
  · rintro ⟨stored, redeems, fresh, tokens, rfl⟩
    refine Outcome.bind_eq_ok.mpr ⟨(), Outcome.mapError_eq_ok.mpr redeems.admitted, ?_⟩
    refine Outcome.bind_eq_ok.mpr ⟨(), Outcome.mapError_eq_ok.mpr redeems.redirect, ?_⟩
    refine Outcome.bind_eq_ok.mpr ⟨(), Outcome.require_of redeems.verifier, ?_⟩
    refine Outcome.bind_eq_ok.mpr ⟨stored, Outcome.orRaise_eq_ok.mpr redeems.found, ?_⟩
    refine Outcome.bind_eq_ok.mpr ⟨(), Outcome.require_of ⟨redeems.unconsumed, redeems.unexpired,
      redeems.generation, redeems.sameClient, redeems.sameRedirect, redeems.sameResource⟩, ?_⟩
    refine Outcome.bind_eq_ok.mpr ⟨(), Outcome.require_of redeems.challenge, ?_⟩
    refine Outcome.bind_eq_ok.mpr ⟨(), Outcome.require_of fresh, ?_⟩
    refine rotateTokenPair_eq_ok_iff.mpr ⟨⟨tokens.access, tokens.refresh⟩, ?_⟩
    rw [← rotates stored fresh]
    rfl

/-! ## Refresh -/

variable (service) in
/-- The stored token and its family pass every check of a redemption. -/
structure Refreshes (store : OAuthStore) (now : Instant) (request : RefreshRequest)
    (stored : OAuthRefreshToken) (family : OAuthTokenFamily) (scopes : List Text) : Prop where
  admitted : service.validateTokenClient request.clientId request.resource = .ok ()
  found : store.findRefresh (service.refreshDigest request.refreshToken) = some stored
  familyFound : store.findFamily stored.familyId = some family
  unconsumed : stored.consumedAt = none
  unrevoked : stored.revokedAt = none
  familyUnrevoked : family.revokedAt = none
  unexpired : now < stored.expiresAt
  familyUnexpired : now < family.expiresAt
  generation : family.credentialGeneration = service.credentialGeneration
  sameClient : family.clientId = request.clientId
  sameResource : family.resource = request.resource
  granted : grantedScopes (decodeScopes stored.scopes) request.requestedScopes = .ok scopes

def consumeRefresh (now : Instant) (row : OAuthRefreshToken) : OAuthRefreshToken :=
  { row with consumedAt := some now }

variable (service) in
/-- The store after a refresh token has been redeemed. -/
def refreshed (store : OAuthStore) (now : Instant) (draws : Draws) (stored : OAuthRefreshToken)
    (familyId : Nat) (scopes : List Text) : OAuthStore where
  codes := store.codes
  families := Table.modify (·.id) familyId (service.extend now) store.families
  accessTokens :=
    store.accessTokens ++ [service.accessToken now familyId scopes draws.firstToken.text]
  refreshTokens :=
    Table.modify (·.tokenDigest) stored.tokenDigest (consumeRefresh now) store.refreshTokens ++
      [service.refreshToken now familyId scopes draws.secondToken.text]

theorem of_refresh_eq_ok {request : RefreshRequest} {result : OAuthStore × TokenPair}
    (completed : service.refresh store now draws request = .ok result) :
    ∃ stored family scopes, service.Refreshes store now request stored family scopes ∧
      service.FreshTokens
        (store.modifyRefresh stored.tokenDigest (consumeRefresh now)) draws ∧
      result = (service.refreshed store now draws stored family.id scopes,
        service.pair draws scopes) := by
  rcases Outcome.bind_eq_ok.mp completed with ⟨_, admitted, completed⟩
  rcases Outcome.bind_eq_ok.mp completed with ⟨stored, found, completed⟩
  rcases Outcome.bind_eq_ok.mp completed with ⟨family, familyFound, completed⟩
  rcases Outcome.bind_eq_ok.mp completed with ⟨_, unconsumed, completed⟩
  rcases Outcome.bind_eq_ok.mp completed with ⟨_, checked, completed⟩
  rcases Outcome.bind_eq_ok.mp completed with ⟨scopes, granted, completed⟩
  rw [Outcome.mapError_eq_ok] at admitted
  rw [Outcome.orRaise_eq_ok] at found familyFound
  rw [Outcome.require_eq_ok] at unconsumed checked
  rcases rotateTokenPair_eq_ok_iff.mp completed with ⟨tokens, rfl⟩
  rcases checked with ⟨unrevoked, familyUnrevoked, unexpired, familyUnexpired, generation,
    sameClient, sameResource⟩
  exact ⟨stored, family, scopes, ⟨admitted, found, familyFound, unconsumed, unrevoked,
    familyUnrevoked, unexpired, familyUnexpired, generation, sameClient, sameResource, granted⟩,
    tokens, rfl⟩

variable (service) in
/-- A consumed token of a stored family is presented. -/
structure Replays (store : OAuthStore) (request : RefreshRequest) (stored : OAuthRefreshToken)
    (family : OAuthTokenFamily) : Prop where
  admitted : service.validateTokenClient request.clientId request.resource = .ok ()
  found : store.findRefresh (service.refreshDigest request.refreshToken) = some stored
  familyFound : store.findFamily stored.familyId = some family
  consumed : stored.consumedAt ≠ none

/-- What a replay raises, with the revocation it has committed. -/
def replayRaise (store : OAuthStore) (now : Instant) (family : OAuthTokenFamily) : Raised where
  error := invalidGrant "Refresh-token replay detected; authorization was revoked"
  committed := some (store.modifyFamily family.id (recordReplay now))

theorem refresh_of_replays {request : RefreshRequest} {stored : OAuthRefreshToken}
    {family : OAuthTokenFamily} (replays : service.Replays store request stored family) :
    service.refresh store now draws request = .error (replayRaise store now family) := by
  refine Outcome.bind_eq_error.mpr (Or.inr ⟨(), ?_, ?_⟩)
  · exact Outcome.mapError_eq_ok.mpr replays.admitted
  refine Outcome.bind_eq_error.mpr (Or.inr ⟨stored, ?_, ?_⟩)
  · exact Outcome.orRaise_eq_ok.mpr replays.found
  refine Outcome.bind_eq_error.mpr (Or.inr ⟨family, ?_, ?_⟩)
  · exact Outcome.orRaise_eq_ok.mpr replays.familyFound
  exact Outcome.bind_eq_error.mpr (Or.inl (if_neg replays.consumed))

/-- The errors that leave something behind. -/
def Leaves (raised : Raised) : Prop := raised.committed ≠ none

theorem not_leaves_rolledBack (error : OAuthError) : ¬Leaves (rolledBack error) := by
  intro leaves
  exact leaves rfl

theorem rotateTokenPair_avoids (familyId : Nat) (scopes : List Text) :
    Outcome.Avoids Leaves (service.rotateTokenPair store now draws familyId scopes) := by
  refine Outcome.avoids_bind (Outcome.avoids_require (not_leaves_rolledBack _)) fun _ _ => ?_
  refine Outcome.avoids_bind (Outcome.avoids_require (not_leaves_rolledBack _)) fun _ _ => ?_
  exact Outcome.avoids_pure _

theorem grantedScopes_avoids (currentScopes : List Text) (requested : Option (List Text)) :
    Outcome.Avoids Leaves (grantedScopes currentScopes requested) := by
  cases requested with
  | none => exact Outcome.avoids_pure _
  | some requestedScopes =>
      refine Outcome.avoids_bind (Outcome.avoids_mapError not_leaves_rolledBack _) fun _ _ => ?_
      refine Outcome.avoids_bind (Outcome.avoids_require (not_leaves_rolledBack _)) fun _ _ => ?_
      exact Outcome.avoids_pure _

theorem issueAuthorizationCode_avoids (request : AuthorizationRequest) :
    Outcome.Avoids Leaves (service.issueAuthorizationCode store now draws request) := by
  refine Outcome.avoids_bind (Outcome.avoids_mapError not_leaves_rolledBack _) fun _ _ => ?_
  refine Outcome.avoids_bind (Outcome.avoids_require (not_leaves_rolledBack _)) fun _ _ => ?_
  exact Outcome.avoids_pure _

theorem exchangeAuthorizationCode_avoids (request : ExchangeRequest) :
    Outcome.Avoids Leaves (service.exchangeAuthorizationCode store now draws request) := by
  have refuses : ∀ error, ¬Leaves (rolledBack error) := not_leaves_rolledBack
  refine Outcome.avoids_bind (Outcome.avoids_mapError refuses _) fun _ _ => ?_
  refine Outcome.avoids_bind (Outcome.avoids_mapError (fun _ => refuses _) _) fun _ _ => ?_
  refine Outcome.avoids_bind (Outcome.avoids_require (refuses _)) fun _ _ => ?_
  refine Outcome.avoids_bind (Outcome.avoids_orRaise (refuses _) _) fun _ _ => ?_
  refine Outcome.avoids_bind (Outcome.avoids_require (refuses _)) fun _ _ => ?_
  refine Outcome.avoids_bind (Outcome.avoids_require (refuses _)) fun _ _ => ?_
  refine Outcome.avoids_bind (Outcome.avoids_require (refuses _)) fun _ _ => ?_
  exact rotateTokenPair_avoids _ _

/-- A replay is the only error of a refresh that leaves something behind. -/
theorem refresh_raises {request : RefreshRequest} {raised : Raised}
    (failed : service.refresh store now draws request = .error raised) :
    raised.committed = none ∨ ∃ stored family, service.Replays store request stored family ∧
      raised = replayRaise store now family := by
  have refuses : ∀ error, ¬Leaves (rolledBack error) := not_leaves_rolledBack
  have plain : ∀ {outcome : Except Raised (OAuthStore × TokenPair)},
      Outcome.Avoids Leaves outcome → outcome = .error raised → raised.committed = none :=
    fun avoids failed => not_not.mp (avoids raised failed)
  rcases Outcome.bind_eq_error.mp failed with failed | ⟨_, admitted, failed⟩
  · exact Or.inl (not_not.mp (Outcome.avoids_mapError refuses _ raised failed))
  rcases Outcome.bind_eq_error.mp failed with failed | ⟨stored, found, failed⟩
  · exact Or.inl (not_not.mp (Outcome.avoids_orRaise (refuses _) _ raised failed))
  rcases Outcome.bind_eq_error.mp failed with failed | ⟨family, familyFound, failed⟩
  · exact Or.inl (not_not.mp (Outcome.avoids_orRaise (refuses _) _ raised failed))
  rw [Outcome.mapError_eq_ok] at admitted
  rw [Outcome.orRaise_eq_ok] at found familyFound
  by_cases consumed : stored.consumedAt = none
  · rw [require, if_pos consumed, Outcome.ok_bind] at failed
    refine Or.inl (plain ?_ failed)
    refine Outcome.avoids_bind (Outcome.avoids_require (refuses _)) fun _ _ => ?_
    refine Outcome.avoids_bind (grantedScopes_avoids _ _) fun _ _ => ?_
    exact rotateTokenPair_avoids _ _
  · have replays : service.Replays store request stored family :=
      ⟨admitted, found, familyFound, consumed⟩
    rw [require, if_neg consumed] at failed
    cases failed
    exact Or.inr ⟨stored, family, replays, rfl⟩

/-! ## Issuing -/

variable (service) in
/-- The store after a code has been handed out. -/
def issued (store : OAuthStore) (now : Instant) (draws : Draws) (request : AuthorizationRequest) :
    OAuthStore :=
  (store.deleteExpired now).addCode (service.authorizationCode now request draws.firstToken.text)

theorem issueAuthorizationCode_eq_ok_iff {request : AuthorizationRequest}
    {result : OAuthStore × Text} :
    service.issueAuthorizationCode store now draws request = .ok result ↔
      service.validateAuthorizationRequest request = .ok () ∧
        (store.deleteExpired now).findCode (service.codeDigest draws.firstToken.text) = none ∧
        result = (service.issued store now draws request, draws.firstToken.text) := by
  constructor
  · intro completed
    rcases Outcome.bind_eq_ok.mp completed with ⟨_, validated, completed⟩
    rcases Outcome.bind_eq_ok.mp completed with ⟨_, fresh, completed⟩
    rw [Outcome.mapError_eq_ok] at validated
    rw [Outcome.require_eq_ok] at fresh
    cases completed
    exact ⟨validated, fresh, rfl⟩
  · rintro ⟨validated, fresh, rfl⟩
    refine Outcome.bind_eq_ok.mpr ⟨(), Outcome.mapError_eq_ok.mpr validated, ?_⟩
    exact Outcome.bind_eq_ok.mpr ⟨(), Outcome.require_of fresh, rfl⟩

/-! ## Verifying -/

variable (service) in
/-- The stored token and its family pass every check of a verification. -/
structure Verifies (store : OAuthStore) (now : Instant) (token : Text) (access : OAuthAccessToken)
    (family : OAuthTokenFamily) : Prop where
  nonempty : token ≠ []
  found : store.findAccess (service.accessDigest token) = some access
  familyFound : store.findFamily access.familyId = some family
  unrevoked : access.revokedAt = none
  familyUnrevoked : family.revokedAt = none
  unexpired : now < access.expiresAt
  familyUnexpired : now < family.expiresAt
  generation : family.credentialGeneration = service.credentialGeneration
  resource : family.resource = service.config.resource

/-- What is told of an accepted token. -/
def verifiedToken (access : OAuthAccessToken) (family : OAuthTokenFamily) : VerifiedToken where
  clientId := family.clientId
  scopes := decodeScopes access.scopes
  expiresAt := access.expiresAt / seconds 1
  resource := family.resource
  subject := family.subject

theorem verifyAccessToken_eq_some_iff {token : Text} {view : VerifiedToken} :
    service.verifyAccessToken store now token = some view ↔
      ∃ access family, service.Verifies store now token access family ∧
        view = verifiedToken access family := by
  unfold verifyAccessToken
  constructor
  · intro accepted
    split at accepted
    · cases accepted
    · next nonempty =>
      rcases Option.bind_eq_some_iff.mp accepted with ⟨access, found, accepted⟩
      rcases Option.bind_eq_some_iff.mp accepted with ⟨family, familyFound, accepted⟩
      rw [Option.ite_none_right_eq_some] at accepted
      rcases accepted with ⟨⟨unrevoked, familyUnrevoked, unexpired, familyUnexpired, generation,
        resource⟩, equal⟩
      exact ⟨access, family, ⟨nonempty, found, familyFound, unrevoked, familyUnrevoked, unexpired,
        familyUnexpired, generation, resource⟩, (Option.some.inj equal).symm⟩
  · rintro ⟨access, family, verifies, rfl⟩
    rw [if_neg verifies.nonempty]
    refine Option.bind_eq_some_iff.mpr ⟨access, verifies.found, ?_⟩
    refine Option.bind_eq_some_iff.mpr ⟨family, verifies.familyFound, ?_⟩
    exact if_pos ⟨verifies.unrevoked, verifies.familyUnrevoked, verifies.unexpired,
      verifies.familyUnexpired, verifies.generation, verifies.resource⟩

/-! ## Revoking -/

def revokeAccessRow (now : Instant) (row : OAuthAccessToken) : OAuthAccessToken :=
  { row with revokedAt := row.revokedAt.or (some now) }

def revokeRefreshRow (now : Instant) (row : OAuthRefreshToken) : OAuthRefreshToken :=
  { row with revokedAt := row.revokedAt.or (some now) }

/-- What holds before a revocation and is kept by revoking a stored token together with
its family holds after it. -/
theorem revoke_induction (holds : OAuthStore → Prop) {token : Text} (initially : holds store)
    (access : ∀ store row, store.findAccess (service.accessDigest token) = some row → holds store →
      holds ((store.modifyAccess row.tokenDigest (revokeAccessRow now)).modifyFamily row.familyId
        (revokeFamily now)))
    (refresh : ∀ store row, store.findRefresh (service.refreshDigest token) = some row →
      holds store → holds ((store.modifyRefresh row.tokenDigest
        (revokeRefreshRow now)).modifyFamily row.familyId (revokeFamily now))) :
    holds (service.revoke store now token) := by
  have first : holds (service.revokeAccess store now token) := by
    unfold revokeAccess
    split
    · next row found => exact access store row found initially
    · exact initially
  unfold revoke
  split
  · exact initially
  · unfold revokeRefresh
    split
    · next row found => exact refresh _ row found first
    · exact first

theorem or_some_ne_none (moment : Option Instant) (now : Instant) :
    moment.or (some now) ≠ none := by
  cases moment <;> simp

end OAuthService

/-! ## Every call -/

/-- What a call does to the store, and what it hands out. -/
inductive Effect (service : OAuthService) (store : OAuthStore) :
    Event → OAuthStore → Handed → Prop where
  | idle {event : Event} : Effect service store event store .nothing
  | issued {request : AuthorizationRequest} {now : Instant} {draws : Draws}
      (validated : service.validateAuthorizationRequest request = .ok ())
      (fresh :
        (store.deleteExpired now).findCode (service.codeDigest draws.firstToken.text) = none) :
      Effect service store ⟨.issueAuthorizationCode request, now, draws⟩
        (service.issued store now draws request) (.code ⟨request, draws.firstToken.text, now⟩)
  | exchanged {request : ExchangeRequest} {now : Instant} {draws : Draws}
      {stored : OAuthAuthorizationCode} (redeems : service.Redeems store now request stored)
      (freshFamily : store.findFamily draws.familyId = none)
      (fresh : service.FreshTokens store draws) :
      Effect service store ⟨.exchangeAuthorizationCode request, now, draws⟩
        (service.exchanged store now draws stored)
        (.tokens ⟨.authorizationCode request.code, request.clientId, request.resource,
          some draws.familyId, service.pair draws (decodeScopes stored.scopes), now⟩)
  | refreshed {request : RefreshRequest} {now : Instant} {draws : Draws}
      {stored : OAuthRefreshToken} {family : OAuthTokenFamily} {scopes : List Text}
      (refreshes : service.Refreshes store now request stored family scopes)
      (fresh : service.FreshTokens
        (store.modifyRefresh stored.tokenDigest (OAuthService.consumeRefresh now)) draws) :
      Effect service store ⟨.refresh request, now, draws⟩
        (service.refreshed store now draws stored family.id scopes)
        (.tokens ⟨.refreshToken request.refreshToken, request.clientId, request.resource,
          some family.id, service.pair draws scopes, now⟩)
  | replayed {request : RefreshRequest} {now : Instant} {draws : Draws}
      {stored : OAuthRefreshToken} {family : OAuthTokenFamily}
      (replays : service.Replays store request stored family) :
      Effect service store ⟨.refresh request, now, draws⟩
        (store.modifyFamily family.id (OAuthService.recordReplay now)) .nothing
  | revoked {token : Text} {now : Instant} {draws : Draws} :
      Effect service store ⟨.revoke token, now, draws⟩ (service.revoke store now token) .nothing

namespace Event

variable {service : OAuthService} {store : OAuthStore} {event : Event}

theorem next_of_ok {committed : OAuthStore} {response : Response}
    (completed : event.outcome service store = .ok (committed, response)) :
    event.next service store = committed := by
  rw [next, completed]

theorem next_of_error {raised : Raised} (failed : event.outcome service store = .error raised) :
    event.next service store = raised.committed.getD store := by
  rw [next, failed]

theorem response_of_ok {committed : OAuthStore} {response : Response}
    (completed : event.outcome service store = .ok (committed, response)) :
    event.response service store = some response := by
  rw [Event.response, completed]

theorem handed_of_error {raised : Raised} (failed : event.outcome service store = .error raised) :
    event.handed service store = .nothing := by
  have silent : event.response service store = none := by rw [Event.response, failed]
  unfold handed
  rw [silent]
  split <;> simp_all

/-- The new row of an access token is the one found under its digest. -/
theorem familyOf_concat {store' : OAuthStore} {now : Instant} {familyId : Nat}
    {scopes : List Text} {rawToken : Text}
    (fresh : store.findAccess (service.accessDigest rawToken) = none)
    (added : store'.accessTokens =
      store.accessTokens ++ [service.accessToken now familyId scopes rawToken]) :
    store'.familyOf (service.accessDigest rawToken) = some familyId := by
  unfold OAuthStore.familyOf OAuthStore.findAccess
  rw [added, Table.get_append_of_none _ fresh]
  simp [Table.get, OAuthService.accessToken]

theorem effect_of_ok {committed : OAuthStore} {response : Response}
    (completed : event.outcome service store = .ok (committed, response)) :
    Effect service store event committed (event.handed service store) := by
  have next := next_of_ok completed
  have answer := response_of_ok completed
  rcases event with ⟨call, now, draws⟩
  cases call with
  | issueAuthorizationCode request =>
      rcases Outcome.bind_eq_ok.mp completed with ⟨⟨after, rawCode⟩, inner, finished⟩
      cases finished
      rcases OAuthService.issueAuthorizationCode_eq_ok_iff.mp inner with ⟨validated, fresh, equal⟩
      cases equal
      simp only [handed, answer]
      exact Effect.issued validated fresh
  | exchangeAuthorizationCode request =>
      rcases Outcome.bind_eq_ok.mp completed with ⟨⟨after, pair⟩, inner, finished⟩
      cases finished
      rcases OAuthService.exchangeAuthorizationCode_eq_ok_iff.mp inner with
        ⟨stored, redeems, freshFamily, fresh, equal⟩
      cases equal
      have family : (service.exchanged store now draws stored).familyOf
          (service.accessDigest draws.firstToken.text) = some draws.familyId :=
        familyOf_concat fresh.access rfl
      simp only [handed, answer, record, next, OAuthService.pair, family]
      exact Effect.exchanged redeems freshFamily fresh
  | refresh request =>
      rcases Outcome.bind_eq_ok.mp completed with ⟨⟨after, pair⟩, inner, finished⟩
      cases finished
      rcases OAuthService.of_refresh_eq_ok inner with
        ⟨stored, family, scopes, refreshes, fresh, equal⟩
      cases equal
      have familyEq : (service.refreshed store now draws stored family.id scopes).familyOf
          (service.accessDigest draws.firstToken.text) = some family.id :=
        familyOf_concat fresh.access rfl
      simp only [handed, answer, record, next, OAuthService.pair, familyEq]
      exact Effect.refreshed refreshes fresh
  | verifyAccessToken token =>
      cases completed
      simp only [handed]
      exact Effect.idle
  | revoke token =>
      cases completed
      simp only [handed]
      exact Effect.revoked

/-- Only a replayed refresh token raises after a commit. -/
theorem error_cases {raised : Raised} (failed : event.outcome service store = .error raised) :
    raised.committed = none ∨ ∃ request stored family, event.call = .refresh request ∧
      service.Replays store request stored family ∧
      raised = OAuthService.replayRaise store event.now family := by
  have plain : ∀ {Result : Type} {outcome : Except Raised Result},
      Outcome.Avoids OAuthService.Leaves outcome → outcome = .error raised →
        raised.committed = none :=
    fun avoids failed => not_not.mp (avoids raised failed)
  rcases event with ⟨call, now, draws⟩
  cases call with
  | issueAuthorizationCode request =>
      refine Or.inl (plain ?_ failed)
      exact Outcome.avoids_bind (OAuthService.issueAuthorizationCode_avoids request)
        fun _ _ => Outcome.avoids_pure _
  | exchangeAuthorizationCode request =>
      refine Or.inl (plain ?_ failed)
      exact Outcome.avoids_bind (OAuthService.exchangeAuthorizationCode_avoids request)
        fun _ _ => Outcome.avoids_pure _
  | refresh request =>
      rcases Outcome.bind_eq_error.mp failed with inner | ⟨_, _, finished⟩
      · rcases OAuthService.refresh_raises inner with quiet | ⟨stored, family, replays, equal⟩
        · exact Or.inl quiet
        · exact Or.inr ⟨request, stored, family, rfl, replays, equal⟩
      · cases finished
  | verifyAccessToken token => cases failed
  | revoke token => cases failed

/-- Every call has one of the effects. -/
theorem effect (service : OAuthService) (store : OAuthStore) (event : Event) :
    Effect service store event (event.next service store) (event.handed service store) := by
  cases found : event.outcome service store with
  | ok result =>
      rcases result with ⟨committed, response⟩
      rw [next_of_ok found]
      exact effect_of_ok found
  | error raised =>
      rw [next_of_error found, handed_of_error found]
      rcases error_cases found with quiet | ⟨request, stored, family, isRefresh, replays, rfl⟩
      · rw [quiet]
        exact Effect.idle
      · rcases event with ⟨call, now, draws⟩
        cases isRefresh
        exact Effect.replayed replays

end Event

end RollingBudget.OAuth
