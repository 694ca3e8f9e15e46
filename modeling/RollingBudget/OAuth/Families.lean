import RollingBudget.OAuth.Provenance

namespace RollingBudget.OAuth

/-! Token families. At most one refresh token of a family can be redeemed, a redeemed one
that comes back revokes the family, and a revoked family stays revoked. -/

/-- The rows of one family. -/
def OAuthStore.rowsOf (store : OAuthStore) (id : Nat) : OAuthStore where
  codes := []
  families := store.families.filter (·.id = id)
  accessTokens := store.accessTokens.filter (·.familyId = id)
  refreshTokens := store.refreshTokens.filter (·.familyId = id)

namespace OAuthService

variable {service : OAuthService} {store : OAuthStore} {now : Instant}

/-! ## One token that can be redeemed -/

/-- Two refresh tokens of one family that are both accepted are the same token. -/
theorem refresh_token_unique (collisionFree : service.CollisionFree)
    (invariant : StoreInvariant store) {first second : RefreshRequest}
    {firstRow secondRow : OAuthRefreshToken} {firstFamily secondFamily : OAuthTokenFamily}
    {firstScopes secondScopes : List Text} {now' : Instant}
    (firstRefreshes : service.Refreshes store now first firstRow firstFamily firstScopes)
    (secondRefreshes : service.Refreshes store now' second secondRow secondFamily secondScopes)
    (same : firstRow.familyId = secondRow.familyId) :
    first.refreshToken = second.refreshToken := by
  have equal : firstRow = secondRow :=
    invariant.one_live firstRow (Table.mem_of_get firstRefreshes.found) secondRow
      (Table.mem_of_get secondRefreshes.found) same
      ⟨firstRefreshes.unconsumed, firstRefreshes.unrevoked⟩
      ⟨secondRefreshes.unconsumed, secondRefreshes.unrevoked⟩
  have firstDigest := Table.key_of_get firstRefreshes.found
  have secondDigest := Table.key_of_get secondRefreshes.found
  apply service.digest_injective collisionFree "refresh-token".toList
  exact firstDigest.symm.trans ((congrArg (·.tokenDigest) equal).trans secondDigest)

/-! ## Revoking -/

/-- A family that has just been changed in place is stored as it was changed to. -/
theorem mem_modifyFamily {id : Nat} {change : OAuthTokenFamily → OAuthTokenFamily}
    {family : OAuthTokenFamily} (member : family ∈ store.families) (same : family.id = id) :
    change family ∈ (store.modifyFamily id change).families :=
  Table.mem_modify.mpr (Or.inr ⟨family, member, same, rfl⟩)

theorem revoked_modifyFamily {id : Nat} (owned : ∃ family ∈ store.families, family.id = id) :
    (store.modifyFamily id (revokeFamily now)).Revoked id := by
  rcases owned with ⟨family, member, same⟩
  exact ⟨_, mem_modifyFamily member same, same, or_some_ne_none family.revokedAt now⟩

theorem modifyFamily_keeps {id other : Nat} (revoked : store.Revoked id) :
    (store.modifyFamily other (revokeFamily now)).Revoked id := by
  rcases revoked with ⟨family, member, same, marked⟩
  have kept : ∃ new ∈ Table.modify (·.id) other (revokeFamily now) store.families,
      family.Kept new :=
    Table.exists_mem_modify OAuthTokenFamily.Kept.refl kept_revokeFamily member
  rcases kept with ⟨new, newMember, keeps⟩
  exact ⟨new, newMember, keeps.sameId.trans same, keeps.revoked marked⟩

theorem revokeAccess_revokes {token : Text} {row : OAuthAccessToken}
    (invariant : StoreInvariant store)
    (found : store.findAccess (service.accessDigest token) = some row) :
    (service.revokeAccess store now token).Revoked row.familyId := by
  unfold revokeAccess
  rw [found]
  exact revoked_modifyFamily (invariant.access_family row (Table.mem_of_get found))

theorem revokeAccess_refreshTokens (store : OAuthStore) (now : Instant) (token : Text) :
    (service.revokeAccess store now token).refreshTokens = store.refreshTokens := by
  unfold revokeAccess
  split <;> rfl

theorem revokeRefresh_revokes {token : Text} {row : OAuthRefreshToken}
    (owned : ∃ family ∈ store.families, family.id = row.familyId)
    (found : store.findRefresh (service.refreshDigest token) = some row) :
    (service.revokeRefresh store now token).Revoked row.familyId := by
  unfold revokeRefresh
  rw [found]
  exact revoked_modifyFamily owned

theorem revokeRefresh_keeps {token : Text} {id : Nat} (revoked : store.Revoked id) :
    (service.revokeRefresh store now token).Revoked id := by
  unfold revokeRefresh
  split
  · exact modifyFamily_keeps revoked
  · exact revoked

/-- Revoking a stored access token revokes its family. -/
theorem revoke_revokes_access {token : Text} {row : OAuthAccessToken}
    (invariant : StoreInvariant store) (nonempty : token ≠ [])
    (found : store.findAccess (service.accessDigest token) = some row) :
    (service.revoke store now token).Revoked row.familyId := by
  unfold revoke
  rw [if_neg nonempty]
  exact revokeRefresh_keeps (revokeAccess_revokes invariant found)

/-- Revoking a stored refresh token revokes its family. -/
theorem revoke_revokes_refresh {token : Text} {row : OAuthRefreshToken}
    (invariant : StoreInvariant store) (nonempty : token ≠ [])
    (found : store.findRefresh (service.refreshDigest token) = some row) :
    (service.revoke store now token).Revoked row.familyId := by
  have owned : ∃ family ∈ (service.revokeAccess store now token).families,
      family.id = row.familyId := by
    rcases invariant.refresh_family row (Table.mem_of_get found) with ⟨family, member, same⟩
    unfold revokeAccess
    split
    · next access _ =>
      have kept : ∃ new ∈ Table.modify (·.id) access.familyId (revokeFamily now) store.families,
          family.Kept new :=
        Table.exists_mem_modify OAuthTokenFamily.Kept.refl kept_revokeFamily member
      rcases kept with ⟨new, newMember, keeps⟩
      exact ⟨new, newMember, keeps.sameId.trans same⟩
    · exact ⟨family, member, same⟩
  unfold revoke
  rw [if_neg nonempty]
  refine revokeRefresh_revokes owned ?_
  unfold OAuthStore.findRefresh
  rw [revokeAccess_refreshTokens]
  exact found

/-! ## Revoked for good -/

variable {history continuation : List Event} {id : Nat}

/-- Whatever is called later, a family that has been revoked is found revoked or not at
all. -/
theorem revoked_persists (distinct : DistinctFamilies (history ++ continuation))
    (revoked : (service.machine.run history).Revoked id) :
    ∀ family ∈ (service.machine.run (history ++ continuation)).families, family.id = id →
      family.revokedAt ≠ none := by
  have drawn : id ∈ history.flatMap (·.drawnFamilies) := by
    rcases revoked with ⟨family, member, same, _⟩
    rw [← same]
    exact (service.family_recorded history family member).drawn
  induction continuation using List.reverseRecOn with
  | nil =>
      intro family member same
      rw [List.append_nil] at member
      rcases revoked with ⟨other, otherMember, otherSame, marked⟩
      have equal : family = other :=
        List.inj_on_of_nodup_map (service.storeInvariant history).families_nodup member otherMember
          (same.trans otherSame.symm)
      rw [equal]
      exact marked
  | append_singleton continuation event induction =>
      intro family member same
      rw [← List.append_assoc] at distinct member
      rcases (service.effect_run (history ++ continuation) event).family_source member with
        ⟨old, oldMember, kept⟩ | ⟨request, stored, isExchange, _, rfl⟩
      · exact kept.revoked
          (induction distinct.of_append old oldMember (kept.sameId.symm.trans same))
      · -- A new family gets an id that no earlier family has had.
        refine absurd (List.mem_append_left (continuation.flatMap (·.drawnFamilies)) drawn) ?_
        rw [← List.flatMap_append]
        refine distinct.not_mem ?_
        rw [← same]
        simp [Event.drawnFamilies, isExchange, createdFamily, tokenFamily]

/-- The stored row of an access token belongs to the family the token was handed out for. -/
theorem family_of_access (collisionFree : service.CollisionFree)
    (distinct : DistinctTokens history) {issuance : Issuance}
    (member : issuance ∈ service.issuances history) {row : OAuthAccessToken}
    (found : (service.machine.run history).findAccess
      (service.accessDigest issuance.pair.accessToken) = some row) :
    IssuedAccess service issuance row := by
  rcases service.access_issued history row (Table.mem_of_get found) with ⟨other, otherMember, issued⟩
  have sameToken : other.pair.accessToken = issuance.pair.accessToken := by
    apply service.digest_injective collisionFree "access-token".toList
    exact issued.digest.symm.trans (Table.key_of_get found)
  rw [← issuance_eq_of_access distinct otherMember member sameToken]
  exact issued

/-- The stored row of a refresh token belongs to the family the token was handed out for. -/
theorem family_of_refresh (collisionFree : service.CollisionFree)
    (distinct : DistinctTokens history) {issuance : Issuance}
    (member : issuance ∈ service.issuances history) {row : OAuthRefreshToken}
    (found : (service.machine.run history).findRefresh
      (service.refreshDigest issuance.pair.refreshToken) = some row) :
    IssuedRefresh service issuance row := by
  rcases service.refresh_issued history row (Table.mem_of_get found) with ⟨other, otherMember, issued⟩
  have sameToken : other.pair.refreshToken = issuance.pair.refreshToken := by
    apply service.digest_injective collisionFree "refresh-token".toList
    exact issued.digest.symm.trans (Table.key_of_get found)
  rw [← issuance_eq_of_refresh distinct otherMember member sameToken]
  exact issued

/-! ## Other families -/

section Isolation

variable {other : Nat}

theorem rowsOf_modifyFamily (change : OAuthTokenFamily → OAuthTokenFamily)
    (keepsId : ∀ row, (change row).id = row.id) (different : other ≠ id) :
    (store.modifyFamily id change).rowsOf other = store.rowsOf other := by
  have families : (Table.modify (·.id) id change store.families).filter (·.id = other) =
      store.families.filter (·.id = other) := by
    refine Table.filter_modify (fun row _ same => ?_) fun row _ same => ?_
    · exact decide_eq_false fun equal => different (equal.symm.trans same)
    · rw [keepsId]
      exact decide_eq_false fun equal => different (equal.symm.trans same)
  unfold OAuthStore.rowsOf
  congr 1

theorem rowsOf_revokeAccess {token : Text} (invariant : StoreInvariant store)
    (elsewhere : ∀ row, store.findAccess (service.accessDigest token) = some row →
      row.familyId ≠ other) :
    (service.revokeAccess store now token).rowsOf other = store.rowsOf other := by
  unfold revokeAccess
  split
  · next row found =>
    refine (rowsOf_modifyFamily (revokeFamily now) (fun _ => rfl) (elsewhere row found).symm).trans ?_
    have sameRow : ∀ old ∈ store.accessTokens, old.tokenDigest = row.tokenDigest →
        old.familyId ≠ other := by
      intro old member sameDigest
      rw [List.inj_on_of_nodup_map invariant.access_nodup member (Table.mem_of_get found) sameDigest]
      exact elsewhere row found
    have access : (Table.modify (·.tokenDigest) row.tokenDigest (revokeAccessRow now)
        store.accessTokens).filter (·.familyId = other) =
          store.accessTokens.filter (·.familyId = other) :=
      Table.filter_modify (fun old member same => decide_eq_false (sameRow old member same))
        fun old member same => decide_eq_false (sameRow old member same)
    unfold OAuthStore.rowsOf
    congr 1
  · rfl

theorem rowsOf_revokeRefresh {token : Text}
    (nodup : (store.refreshTokens.map (·.tokenDigest)).Nodup)
    (elsewhere : ∀ row, store.findRefresh (service.refreshDigest token) = some row →
      row.familyId ≠ other) :
    (service.revokeRefresh store now token).rowsOf other = store.rowsOf other := by
  unfold revokeRefresh
  split
  · next row found =>
    refine (rowsOf_modifyFamily (revokeFamily now) (fun _ => rfl) (elsewhere row found).symm).trans ?_
    have sameRow : ∀ old ∈ store.refreshTokens, old.tokenDigest = row.tokenDigest →
        old.familyId ≠ other := by
      intro old member sameDigest
      rw [List.inj_on_of_nodup_map nodup member (Table.mem_of_get found) sameDigest]
      exact elsewhere row found
    have refresh : (Table.modify (·.tokenDigest) row.tokenDigest (revokeRefreshRow now)
        store.refreshTokens).filter (·.familyId = other) =
          store.refreshTokens.filter (·.familyId = other) :=
      Table.filter_modify (fun old member same => decide_eq_false (sameRow old member same))
        fun old member same => decide_eq_false (sameRow old member same)
    unfold OAuthStore.rowsOf
    congr 1
  · rfl

/-- A revocation leaves the rows of every family alone that the token is not of. -/
theorem rowsOf_revoke {token : Text} (invariant : StoreInvariant store)
    (access : ∀ row, store.findAccess (service.accessDigest token) = some row →
      row.familyId ≠ other)
    (refresh : ∀ row, store.findRefresh (service.refreshDigest token) = some row →
      row.familyId ≠ other) :
    (service.revoke store now token).rowsOf other = store.rowsOf other := by
  unfold revoke
  split
  · rfl
  · have sameTokens : (service.revokeAccess store now token).refreshTokens = store.refreshTokens :=
      revokeAccess_refreshTokens store now token
    refine (rowsOf_revokeRefresh (sameTokens ▸ invariant.refresh_nodup) ?_).trans
      (rowsOf_revokeAccess invariant access)
    intro row found
    unfold OAuthStore.findRefresh at found
    rw [sameTokens] at found
    exact refresh row found

end Isolation

/-! ## The token families of a history -/

/-- The family of a stored refresh token. -/
def refreshFamily (service : OAuthService) (store : OAuthStore) (token : Text) : Option Nat :=
  (store.findRefresh (service.refreshDigest token)).map (·.familyId)

/-- At most one refresh token of a family can be redeemed. Presenting a consumed token
raises and revokes its family, revoking a stored token revokes its family, and both leave
the other families alone. Once a family is revoked no token of it is accepted. -/
structure FamiliesSafe (service : OAuthService) (history : List Event) : Prop where
  one_live : ∀ first ∈ (service.machine.run history).refreshTokens,
    ∀ second ∈ (service.machine.run history).refreshTokens,
      first.familyId = second.familyId → first.IsLive → second.IsLive → first = second
  one_redeemable : ∀ (first second : RefreshRequest) (now now' : Instant) (draws draws' : Draws),
    (service.refresh (service.machine.run history) now draws first).isOk →
      (service.refresh (service.machine.run history) now' draws' second).isOk →
      service.refreshFamily (service.machine.run history) first.refreshToken =
        service.refreshFamily (service.machine.run history) second.refreshToken →
      first.refreshToken = second.refreshToken
  replay : ∀ (request : RefreshRequest) (row : OAuthRefreshToken) (now : Instant) (draws : Draws),
    service.validateTokenClient request.clientId request.resource = .ok () →
      (service.machine.run history).findRefresh (service.refreshDigest request.refreshToken) =
        some row →
      row.consumedAt ≠ none →
      let event : Event := ⟨.refresh request, now, draws⟩
      let store := service.machine.run history
      (∃ raised, event.outcome service store = .error raised ∧ raised.error =
        invalidGrant "Refresh-token replay detected; authorization was revoked") ∧
      (∃ family ∈ (event.next service store).families, family.id = row.familyId ∧
        family.revokedAt ≠ none ∧ family.compromiseDetectedAt ≠ none) ∧
      ∀ other, other ≠ row.familyId →
        (event.next service store).rowsOf other = store.rowsOf other
  revoke : ∀ (token : Text) (now : Instant) (draws : Draws),
    let event : Event := ⟨.revoke token, now, draws⟩
    let store := service.machine.run history
    (∀ row, store.findAccess (service.accessDigest token) = some row →
      (event.next service store).Revoked row.familyId) ∧
    (∀ row, store.findRefresh (service.refreshDigest token) = some row →
      (event.next service store).Revoked row.familyId) ∧
    ∀ other, store.familyOf (service.accessDigest token) ≠ some other →
      service.refreshFamily store token ≠ some other →
      (event.next service store).rowsOf other = store.rowsOf other
  rejected : ∀ before after id, history = before ++ after →
    (service.machine.run before).Revoked id →
    ∀ issuance ∈ service.issuances history, issuance.family = some id →
      (∀ now, service.verifyAccessToken (service.machine.run history) now
        issuance.pair.accessToken = none) ∧
      ∀ request now draws result, request.refreshToken = issuance.pair.refreshToken →
        service.refresh (service.machine.run history) now draws request ≠ .ok result

theorem replay_effect (invariant : StoreInvariant store) {request : RefreshRequest}
    {row : OAuthRefreshToken} {draws : Draws}
    (admitted : service.validateTokenClient request.clientId request.resource = .ok ())
    (found : store.findRefresh (service.refreshDigest request.refreshToken) = some row)
    (consumed : row.consumedAt ≠ none) :
    ∃ family, family ∈ store.families ∧ family.id = row.familyId ∧
      Event.outcome service store ⟨.refresh request, now, draws⟩ =
        .error (replayRaise store now family) ∧
      Event.next service store ⟨.refresh request, now, draws⟩ =
        store.modifyFamily row.familyId (recordReplay now) := by
  rcases invariant.refresh_family row (Table.mem_of_get found) with ⟨family, member, same⟩
  have familyFound : store.findFamily row.familyId = some family :=
    (Table.get_eq_some_iff invariant.families_nodup).mpr ⟨member, same⟩
  have raises : service.refresh store now draws request = .error (replayRaise store now family) :=
    refresh_of_replays ⟨admitted, found, familyFound, consumed⟩
  have outcome : Event.outcome service store ⟨.refresh request, now, draws⟩ =
      .error (replayRaise store now family) :=
    Outcome.bind_eq_error.mpr (Or.inl raises)
  refine ⟨family, member, same, outcome, ?_⟩
  rw [Event.next_of_error outcome, ← same]
  rfl

theorem families_safe (collisionFree : service.CollisionFree) (history : List Event)
    (tokens : DistinctTokens history) (families : DistinctFamilies history) :
    service.FamiliesSafe history := by
  have invariant := service.storeInvariant history
  constructor
  · exact invariant.one_live
  · intro first second now now' draws draws' firstOk secondOk same
    rcases Outcome.exists_of_isOk firstOk with ⟨_, firstOk⟩
    rcases Outcome.exists_of_isOk secondOk with ⟨_, secondOk⟩
    rcases of_refresh_eq_ok firstOk with ⟨firstRow, _, _, firstRefreshes, _⟩
    rcases of_refresh_eq_ok secondOk with ⟨secondRow, _, _, secondRefreshes, _⟩
    unfold refreshFamily at same
    rw [firstRefreshes.found, secondRefreshes.found] at same
    exact refresh_token_unique collisionFree invariant firstRefreshes secondRefreshes
      (Option.some.inj same)
  · intro request row now draws admitted found consumed
    rcases replay_effect invariant admitted found consumed with
      ⟨family, member, same, outcome, next⟩
    refine ⟨⟨_, outcome, rfl⟩, ?_, ?_⟩
    · rw [next]
      exact ⟨_, mem_modifyFamily member same, same, or_some_ne_none family.revokedAt now,
        or_some_ne_none family.compromiseDetectedAt now⟩
    · intro other different
      rw [next]
      exact rowsOf_modifyFamily (recordReplay now) (fun _ => rfl) different
  · intro token now draws
    refine ⟨?_, ?_, ?_⟩
    · intro row found
      rcases service.access_issued history row (Table.mem_of_get found) with
        ⟨issuance, member, issued⟩
      have same : token = issuance.pair.accessToken := by
        apply service.digest_injective collisionFree "access-token".toList
        exact (Table.key_of_get found).symm.trans issued.digest
      have nonempty : token ≠ [] := by
        rw [same]
        exact ne_nil_of_handed (mem_issuances.mp member) (by simp [Handed.rawTokens])
      exact revoke_revokes_access invariant nonempty found
    · intro row found
      rcases service.refresh_issued history row (Table.mem_of_get found) with
        ⟨issuance, member, issued⟩
      have same : token = issuance.pair.refreshToken := by
        apply service.digest_injective collisionFree "refresh-token".toList
        exact (Table.key_of_get found).symm.trans issued.digest
      have nonempty : token ≠ [] := by
        rw [same]
        exact ne_nil_of_handed (mem_issuances.mp member) (by simp [Handed.rawTokens])
      exact revoke_revokes_refresh invariant nonempty found
    · intro other noAccess noRefresh
      refine rowsOf_revoke invariant ?_ ?_
      · intro row found same
        apply noAccess
        rw [OAuthStore.familyOf, found, Option.map_some, same]
      · intro row found same
        apply noRefresh
        rw [refreshFamily, found, Option.map_some, same]
  · rintro before after id rfl revoked issuance member ofFamily
    have marked := revoked_persists families revoked
    constructor
    · intro now
      cases accepted : service.verifyAccessToken (service.machine.run (before ++ after)) now
          issuance.pair.accessToken with
      | none => rfl
      | some view =>
          rcases verifyAccessToken_eq_some_iff.mp accepted with ⟨access, family, verifies, _⟩
          have issued := family_of_access collisionFree tokens member verifies.found
          have same : family.id = id := (Table.key_of_get verifies.familyFound).trans
            (Option.some.inj (issued.family.symm.trans ofFamily))
          exact absurd verifies.familyUnrevoked
            (marked family (Table.mem_of_get verifies.familyFound) same)
    · intro request now draws result presented completed
      rcases of_refresh_eq_ok completed with ⟨stored, family, scopes, refreshes, _⟩
      have found := refreshes.found
      rw [presented] at found
      have issued := family_of_refresh collisionFree tokens member found
      have same : family.id = id := (Table.key_of_get refreshes.familyFound).trans
        (Option.some.inj (issued.family.symm.trans ofFamily))
      exact marked family (Table.mem_of_get refreshes.familyFound) same refreshes.familyUnrevoked

/-- A replayed token revokes the family of a rotated pair. -/
theorem families_safe_replaying :
    (Sample.service.machine.run Sample.replaying).Revoked 7 ∧
      (Sample.service.issuances Sample.replaying).map (·.family) = [some 7, some 7] ∧
      Sample.service.FamiliesSafe Sample.replaying := by
  refine ⟨?_, ?_, families_safe Sample.collisionFree _ ?_ ?_⟩
  · exact ⟨_, List.mem_singleton_self _, by decide +kernel⟩
  · decide +kernel
  · unfold DistinctTokens
    decide +kernel
  · unfold DistinctFamilies
    decide +kernel

end OAuthService

end RollingBudget.OAuth
