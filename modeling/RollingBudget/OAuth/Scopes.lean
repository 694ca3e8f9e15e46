import RollingBudget.OAuth.Provenance

namespace RollingBudget.OAuth

/-! Scopes never grow. Every pair is handed out for scopes of the code its family comes
from, and each one for scopes of the pair before it. -/

/-- A code is handed out for a request that was validated. -/
theorem Effect.validated_of_codeGrants {service : OAuthService} {store store' : OAuthStore}
    {event : Event} {handed : Handed} (effect : Effect service store event store' handed)
    {grant : CodeGrant} (member : grant ∈ handed.codeGrants) :
    service.validateAuthorizationRequest grant.request = .ok () := by
  cases effect with
  | issued validated fresh =>
      rw [List.mem_singleton.mp member]
      exact validated
  | idle => cases member
  | exchanged redeems freshFamily fresh => cases member
  | refreshed refreshes fresh => cases member
  | replayed replays => cases member
  | revoked => cases member

namespace OAuthService

variable {service : OAuthService}

theorem grantable_of_validated {request : AuthorizationRequest}
    (validated : service.validateAuthorizationRequest request = .ok ()) :
    Grantable request.scopes := by
  rcases Outcome.bind_eq_ok.mp validated with ⟨_, _, validated⟩
  rcases Outcome.bind_eq_ok.mp validated with ⟨_, _, validated⟩
  rcases Outcome.bind_eq_ok.mp validated with ⟨scopes, normalized, _⟩
  exact (normalizeScopes_eq_ok_iff.mp normalized).1

/-- Every code was handed out for a request that was validated. -/
theorem grant_validated (history : List Event) : ∀ grant ∈ service.codeGrants history,
    service.validateAuthorizationRequest grant.request = .ok () := by
  induction history using List.reverseRecOn with
  | nil =>
      intro grant member
      cases member
  | append_singleton history event induction =>
      intro grant member
      rw [codeGrants_concat] at member
      rcases List.mem_append.mp member with earlier | new
      · exact induction grant earlier
      · exact (event.effect service _).validated_of_codeGrants new

theorem grantedScopes_bound {currentScopes scopes : List Text} {requested : Option (List Text)}
    (current : Grantable currentScopes)
    (granted : grantedScopes currentScopes requested = .ok scopes) :
    Grantable scopes ∧ ∀ scope ∈ scopes, scope ∈ currentScopes := by
  cases requested with
  | none =>
      cases granted
      exact ⟨current, fun scope member => member⟩
  | some requestedScopes =>
      rcases Outcome.bind_eq_ok.mp granted with ⟨normalized, normalizes, granted⟩
      rcases Outcome.bind_eq_ok.mp granted with ⟨_, among, finished⟩
      rw [Outcome.mapError_eq_ok] at normalizes
      rw [Outcome.require_eq_ok] at among
      cases finished
      exact ⟨grantable_of_normalizeScopes normalizes, among⟩

/-! ## Where the scopes of a pair come from -/

variable (service) in
/-- The pair belongs to a family that was created for a code. Its scopes are among the ones
that the code was requested for, and so are its client and its resource. -/
structure BoundToCode (history : List Event) (issuance : Issuance) (grant : CodeGrant) :
    Prop where
  granted : grant ∈ service.codeGrants history
  created : ∃ root ∈ service.issuances history, root.grant = .authorizationCode grant.code ∧
    root.family = issuance.family
  scopes : ∀ scope ∈ issuance.pair.scopes, scope ∈ grant.request.scopes
  client : issuance.clientId = grant.request.clientId
  resource : issuance.resource = grant.request.resource

theorem BoundToCode.append {history : List Event} {issuance : Issuance} {grant : CodeGrant}
    (bound : service.BoundToCode history issuance grant) (event : Event) :
    service.BoundToCode (history ++ [event]) issuance grant := by
  rcases bound with ⟨granted, ⟨root, rootMember, rooted⟩, scopes, client, resource⟩
  refine ⟨?_, ⟨root, ?_, rooted⟩, scopes, client, resource⟩
  · rw [codeGrants_concat]
    exact List.mem_append_left _ granted
  · rw [issuances_concat]
    exact List.mem_append_left _ rootMember

variable (service) in
/-- The pair was handed out for a refresh token of an earlier pair of its family, and for
scopes of that pair. -/
structure Rotates (history : List Event) (issuance : Issuance) (token : Text) (parent : Issuance) :
    Prop where
  issued : parent ∈ service.issuances history
  consumed : parent.pair.refreshToken = token
  family : parent.family = issuance.family
  scopes : ∀ scope ∈ issuance.pair.scopes, scope ∈ parent.pair.scopes

variable (service) in
structure Derived (history : List Event) (issuance : Issuance) : Prop where
  grantable : Grantable issuance.pair.scopes
  code : ∃ grant, service.BoundToCode history issuance grant
  parent : ∀ token, issuance.grant = .refreshToken token →
    ∃ parent, service.Rotates history issuance token parent

theorem Derived.append {history : List Event} {issuance : Issuance}
    (derived : service.Derived history issuance) (event : Event) :
    service.Derived (history ++ [event]) issuance := by
  rcases derived with ⟨grantable, ⟨grant, bound⟩, parents⟩
  refine ⟨grantable, ⟨grant, bound.append event⟩, ?_⟩
  intro token presented
  rcases parents token presented with ⟨parent, issued, consumed, family, scopes⟩
  refine ⟨parent, ?_, consumed, family, scopes⟩
  rw [issuances_concat]
  exact List.mem_append_left _ issued

/-- The first pair of a family has the scopes of the code. -/
theorem derived_exchanged (collisionFree : service.CollisionFree) {history : List Event}
    {event : Event} {request : ExchangeRequest} {stored : OAuthAuthorizationCode}
    {issuance : Issuance}
    (redeems : service.Redeems (service.machine.run history) event.now request stored)
    (handed : event.handed service (service.machine.run history) = .tokens issuance)
    (exchanged : issuance.grant = .authorizationCode request.code ∧
      issuance.clientId = request.clientId ∧ issuance.resource = request.resource ∧
      issuance.pair.scopes = decodeScopes stored.scopes) :
    service.Derived (history ++ [event]) issuance := by
  rcases exchanged with ⟨isExchange, client, resource, scopes⟩
  rcases service.code_granted history stored (Table.mem_of_get redeems.found) with
    ⟨grant, granted, kept⟩
  have sameCode : grant.code = request.code := by
    apply service.digest_injective collisionFree "authorization-code".toList
    exact kept.digest.symm.trans (Table.key_of_get redeems.found)
  have grantable := grantable_of_validated (service.grant_validated history grant granted)
  have scopesEq : issuance.pair.scopes = grant.request.scopes := by
    rw [scopes, kept.scopes]
    exact decodeScopes_encodeScopes grantable
  refine ⟨scopesEq ▸ grantable, ⟨grant, ?_, ⟨issuance, ?_, ?_, rfl⟩, ?_, ?_, ?_⟩, ?_⟩
  · rw [codeGrants_concat]
    exact List.mem_append_left _ granted
  · rw [issuances_concat, handed]
    exact List.mem_append_right _ (List.mem_singleton_self _)
  · rw [isExchange, sameCode]
  · intro scope member
    rwa [scopesEq] at member
  · rw [client, ← redeems.sameClient]
    exact kept.client
  · rw [resource, ← redeems.sameResource]
    exact kept.resource
  · intro token presented
    rw [isExchange] at presented
    cases presented

/-- A rotated pair has scopes of the pair whose refresh token was redeemed. -/
theorem derived_refreshed (collisionFree : service.CollisionFree) {history : List Event}
    (distinct : DistinctFamilies history) {event : Event} {request : RefreshRequest}
    {stored : OAuthRefreshToken} {family : OAuthTokenFamily} {scopes : List Text}
    {issuance : Issuance}
    (refreshes : service.Refreshes (service.machine.run history) event.now request stored family
      scopes)
    (induction : ∀ parent ∈ service.issuances history, service.Derived history parent)
    (refreshed : issuance.grant = .refreshToken request.refreshToken ∧
      issuance.clientId = request.clientId ∧ issuance.resource = request.resource ∧
      issuance.family = some family.id ∧ issuance.pair.scopes = scopes) :
    service.Derived (history ++ [event]) issuance := by
  rcases refreshed with ⟨isRefresh, client, resource, ofFamily, rfl⟩
  rcases service.refresh_issued history stored (Table.mem_of_get refreshes.found) with
    ⟨parent, parentMember, issued⟩
  have parentDerived := induction parent parentMember
  have sameToken : parent.pair.refreshToken = request.refreshToken := by
    apply service.digest_injective collisionFree "refresh-token".toList
    exact issued.digest.symm.trans (Table.key_of_get refreshes.found)
  have parentFamily : parent.family = some family.id := by
    rw [issued.family, Table.key_of_get refreshes.familyFound]
  have sameFamily : parent.family = issuance.family := parentFamily.trans ofFamily.symm
  have storedScopes : decodeScopes stored.scopes = parent.pair.scopes := by
    rw [issued.scopes]
    exact decodeScopes_encodeScopes parentDerived.grantable
  rcases grantedScopes_bound (storedScopes ▸ parentDerived.grantable) refreshes.granted with
    ⟨grantable, among⟩
  rw [storedScopes] at among
  rcases service.family_bound distinct family (Table.mem_of_get refreshes.familyFound) parent
    parentMember parentFamily with ⟨sameClient, sameResource⟩
  rcases parentDerived.code with ⟨grant, granted, ⟨root, rootMember, rootGrant, rootFamily⟩,
    codeScopes, codeClient, codeResource⟩
  refine ⟨grantable, ⟨grant, ?_, ⟨root, ?_, rootGrant, rootFamily.trans sameFamily⟩, ?_, ?_, ?_⟩, ?_⟩
  · rw [codeGrants_concat]
    exact List.mem_append_left _ granted
  · rw [issuances_concat]
    exact List.mem_append_left _ rootMember
  · intro scope member
    exact codeScopes scope (among scope member)
  · rw [client, ← refreshes.sameClient, sameClient, codeClient]
  · rw [resource, ← refreshes.sameResource, sameResource, codeResource]
  · intro token presented
    rw [isRefresh] at presented
    cases presented
    refine ⟨parent, ?_, sameToken, sameFamily, among⟩
    rw [issuances_concat]
    exact List.mem_append_left _ parentMember

/-- Every pair of a history derives its scopes from the code of its family. -/
theorem derived_of_issued (collisionFree : service.CollisionFree) {history : List Event}
    (distinct : DistinctFamilies history) :
    ∀ issuance ∈ service.issuances history, service.Derived history issuance := by
  induction history using List.reverseRecOn with
  | nil =>
      intro issuance member
      cases member
  | append_singleton history event induction =>
      have earlierDerived := induction distinct.of_append
      intro issuance member
      rw [issuances_concat] at member
      rcases List.mem_append.mp member with earlier | new
      · exact (earlierDerived issuance earlier).append event
      · have effect := event.effect service (service.machine.run history)
        generalize event.next service (service.machine.run history) = store' at effect
        generalize handed : event.handed service (service.machine.run history) = handed' at effect new
        cases effect with
        | idle => cases new
        | issued validated fresh => cases new
        | exchanged redeems freshFamily fresh =>
            rw [List.mem_singleton.mp new]
            exact derived_exchanged collisionFree redeems handed ⟨rfl, rfl, rfl, rfl⟩
        | refreshed refreshes fresh =>
            rw [List.mem_singleton.mp new]
            exact derived_refreshed collisionFree distinct.of_append refreshes earlierDerived
              ⟨rfl, rfl, rfl, rfl, rfl⟩
        | replayed replays => cases new
        | revoked => cases new

/-! ## Narrowing -/

variable (service) in
/-- A refresh token that can be redeemed has no scope that a pair of its family lacked. -/
def LiveNarrowed (history : List Event) : Prop :=
  ∀ row ∈ (service.machine.run history).refreshTokens, row.IsLive →
    ∀ issuance ∈ service.issuances history, issuance.family = some row.familyId →
      ∀ scope ∈ decodeScopes row.scopes, scope ∈ issuance.pair.scopes

/-- A new pair has no scope that an earlier pair of its family lacked. -/
theorem narrows_step (collisionFree : service.CollisionFree) {history : List Event} {event : Event}
    (distinct : DistinctFamilies (history ++ [event])) (narrowed : service.LiveNarrowed history)
    {earlier later : Issuance} (earlierMember : earlier ∈ service.issuances history)
    (laterMember : later ∈ (event.handed service (service.machine.run history)).issuances)
    (same : earlier.family = later.family) :
    ∀ scope ∈ later.pair.scopes, scope ∈ earlier.pair.scopes := by
  have derived := derived_of_issued collisionFree distinct.of_append
  have effect := event.effect service (service.machine.run history)
  generalize event.next service (service.machine.run history) = store' at effect
  generalize event.handed service (service.machine.run history) = handed at effect laterMember
  cases effect with
  | idle => cases laterMember
  | issued validated fresh => cases laterMember
  | exchanged redeems freshFamily fresh =>
      -- No earlier pair belongs to a family that is only being created.
      rcases service.issuance_drawn history earlier earlierMember with ⟨id, drawn, ofFamily⟩
      rw [List.mem_singleton.mp laterMember, ofFamily] at same
      refine absurd drawn (distinct.not_mem ?_)
      rw [Option.some.inj same]
      exact List.mem_singleton_self _
  | @refreshed request now draws stored family scopes refreshes fresh =>
      have storedMember : stored ∈ (service.machine.run history).refreshTokens :=
        Table.mem_of_get refreshes.found
      rcases service.refresh_issued history stored storedMember with ⟨parent, parentMember, issued⟩
      have current : Grantable (decodeScopes stored.scopes) := by
        rw [issued.scopes, decodeScopes_encodeScopes (derived parent parentMember).grantable]
        exact (derived parent parentMember).grantable
      rw [List.mem_singleton.mp laterMember] at same ⊢
      rw [Table.key_of_get refreshes.familyFound] at same
      intro scope member
      exact narrowed stored storedMember ⟨refreshes.unconsumed, refreshes.unrevoked⟩ earlier
        earlierMember same scope ((grantedScopes_bound current refreshes.granted).2 scope member)
  | replayed replays => cases laterMember
  | revoked => cases laterMember

theorem live_narrowed (collisionFree : service.CollisionFree) {history : List Event}
    (distinct : DistinctFamilies history) : service.LiveNarrowed history := by
  induction history using List.reverseRecOn with
  | nil =>
      intro row member
      cases member
  | append_singleton history event induction =>
      have narrowed := induction distinct.of_append
      have derived := derived_of_issued collisionFree distinct
      have effect := service.effect_run history event
      have invariant := service.storeInvariant (history ++ [event])
      intro row member live issuance issuanceMember same
      rw [issuances_concat] at issuanceMember
      rcases List.mem_append.mp issuanceMember with earlier | new
      · rcases effect.refresh_source member with ⟨old, oldMember, kept⟩ | ⟨later, laterMember, issued⟩
        · rw [kept.scopes]
          rw [kept.family] at same
          exact narrowed old oldMember (kept.live live) issuance earlier same
        · have laterIssued : later ∈ service.issuances (history ++ [event]) := by
            rw [issuances_concat]
            exact List.mem_append_right _ laterMember
          rw [issued.scopes, decodeScopes_encodeScopes (derived later laterIssued).grantable]
          exact narrows_step collisionFree distinct narrowed earlier laterMember
            (same.trans issued.family.symm)
      · -- The token that has just been handed out is the only live one of its family.
        rcases effect.issuance_refresh new with ⟨other, otherMember, issued, otherLive⟩
        have sameFamily : row.familyId = other.familyId :=
          Option.some.inj (same.symm.trans issued.family)
        have issuanceIssued : issuance ∈ service.issuances (history ++ [event]) := by
          rw [issuances_concat]
          exact issuanceMember
        rw [invariant.one_live row member other otherMember sameFamily live otherLive, issued.scopes,
          decodeScopes_encodeScopes (derived issuance issuanceIssued).grantable]
        exact fun scope inside => inside

/-- Later pairs of a family have no scope that an earlier one lacked. -/
theorem issuances_narrow (collisionFree : service.CollisionFree) {history : List Event}
    (distinct : DistinctFamilies history) :
    (service.issuances history).Pairwise fun earlier later => earlier.family = later.family →
      ∀ scope ∈ later.pair.scopes, scope ∈ earlier.pair.scopes := by
  induction history using List.reverseRecOn with
  | nil => exact List.Pairwise.nil
  | append_singleton history event induction =>
      have narrowed := live_narrowed collisionFree distinct.of_append
      rw [issuances_concat, List.pairwise_append]
      refine ⟨induction distinct.of_append, ?_, ?_⟩
      · cases event.handed service (service.machine.run history) with
        | nothing => exact List.Pairwise.nil
        | code grant => exact List.Pairwise.nil
        | tokens issuance => exact List.pairwise_singleton _ issuance
      · intro earlier earlierMember later laterMember same
        exact narrows_step collisionFree distinct narrowed earlierMember laterMember same

/-! ## Every pair of a history -/

/-- Every pair has scopes of the code and of the pair it was handed out for, later pairs of
a family have no more than earlier ones, and what is stored says the same. -/
structure ScopesBounded (service : OAuthService) (history : List Event) : Prop where
  derived : ∀ issuance ∈ service.issuances history, service.Derived history issuance
  narrowing : (service.issuances history).Pairwise fun earlier later =>
    earlier.family = later.family → ∀ scope ∈ later.pair.scopes, scope ∈ earlier.pair.scopes
  access : ∀ row ∈ (service.machine.run history).accessTokens,
    ∃ issuance ∈ service.issuances history, issuance.family = some row.familyId ∧
      row.tokenDigest = service.accessDigest issuance.pair.accessToken ∧
      decodeScopes row.scopes = issuance.pair.scopes
  refresh : ∀ row ∈ (service.machine.run history).refreshTokens,
    ∃ issuance ∈ service.issuances history, issuance.family = some row.familyId ∧
      row.tokenDigest = service.refreshDigest issuance.pair.refreshToken ∧
      decodeScopes row.scopes = issuance.pair.scopes
  families : ∀ family ∈ (service.machine.run history).families,
    ∀ issuance ∈ service.issuances history, issuance.family = some family.id →
      family.clientId = issuance.clientId ∧ family.resource = issuance.resource

theorem scopes_bounded (collisionFree : service.CollisionFree) (history : List Event)
    (distinct : DistinctFamilies history) : service.ScopesBounded history := by
  have derived := derived_of_issued collisionFree distinct
  refine ⟨derived, issuances_narrow collisionFree distinct, ?_, ?_, family_bound distinct⟩
  · intro row member
    rcases service.access_issued history row member with ⟨issuance, issued, rowOf⟩
    refine ⟨issuance, issued, rowOf.family, rowOf.digest, ?_⟩
    rw [rowOf.scopes]
    exact decodeScopes_encodeScopes (derived issuance issued).grantable
  · intro row member
    rcases service.refresh_issued history row member with ⟨issuance, issued, rowOf⟩
    refine ⟨issuance, issued, rowOf.family, rowOf.digest, ?_⟩
    rw [rowOf.scopes]
    exact decodeScopes_encodeScopes (derived issuance issued).grantable

/-- A refresh that narrows the scopes. -/
theorem scopes_bounded_refreshing :
    (Sample.service.issuances Sample.refreshing).map (·.pair.scopes) =
        [["budget:refresh".toList, "budget:read".toList], ["budget:read".toList]] ∧
      Sample.service.ScopesBounded Sample.refreshing := by
  refine ⟨by decide +kernel, scopes_bounded Sample.collisionFree _ ?_⟩
  unfold DistinctFamilies
  decide +kernel

end OAuthService

end RollingBudget.OAuth
