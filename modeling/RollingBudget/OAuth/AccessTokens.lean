import RollingBudget.OAuth.Families
import RollingBudget.OAuth.Scopes

namespace RollingBudget.OAuth

/-! The lifetime of access tokens. A token is accepted from the moment it is handed out
until its own expiry, unless its family is revoked before. -/

/-- An access token and its family are still stored, the family with a lifetime that covers
the token's. -/
structure OAuthStore.Retains (store : OAuthStore) (row : OAuthAccessToken)
    (owner : OAuthTokenFamily) : Prop where
  access : ∃ new ∈ store.accessTokens, row.Kept new
  family : ∃ new ∈ store.families, owner.Kept new ∧ row.expiresAt ≤ new.expiresAt

namespace Effect

variable {service : OAuthService} {store store' : OAuthStore} {event : Event} {handed : Handed}
  {row : OAuthAccessToken} {owner : OAuthTokenFamily}

/-- What is retained stays so under a change of families that keeps their lifetime. -/
theorem retains_modifyFamily (retained : store.Retains row owner) (id : Nat)
    (change : OAuthTokenFamily → OAuthTokenFamily)
    (kept : ∀ family : OAuthTokenFamily, family.Kept (change family))
    (lasting : ∀ family ∈ store.families, row.expiresAt ≤ family.expiresAt →
      row.expiresAt ≤ (change family).expiresAt) :
    (store.modifyFamily id change).Retains row owner := by
  refine ⟨retained.access, ?_⟩
  rcases retained.family with ⟨family, member, keeps, covered⟩
  by_cases here : family.id = id
  · exact ⟨change family, Table.mem_modify.mpr (Or.inr ⟨family, member, here, rfl⟩),
      keeps.trans (kept family), lasting family member covered⟩
  · exact ⟨family, Table.mem_modify.mpr (Or.inl ⟨member, here⟩), keeps, covered⟩

theorem retains_modifyAccess (retained : store.Retains row owner) (digest : Text)
    (change : OAuthAccessToken → OAuthAccessToken)
    (kept : ∀ old : OAuthAccessToken, old.Kept (change old)) :
    (store.modifyAccess digest change).Retains row owner := by
  rcases retained.access with ⟨old, member, keeps⟩
  have changed : ∃ new ∈ Table.modify (·.tokenDigest) digest change store.accessTokens,
      old.Kept new :=
    Table.exists_mem_modify OAuthAccessToken.Kept.refl kept member
  rcases changed with ⟨new, newMember, further⟩
  exact ⟨⟨new, newMember, keeps.trans further⟩, retained.family⟩

/-- Cleaning up deletes neither a token before its expiry nor its family. -/
theorem retains_deleteExpired (invariant : StoreInvariant store)
    (retained : store.Retains row owner) (same : owner.id = row.familyId) {now : Instant}
    (unexpired : now ≤ row.expiresAt) : (store.deleteExpired now).Retains row owner := by
  rcases retained with ⟨⟨access, accessMember, accessKept⟩, family, familyMember, familyKept, covered⟩
  refine ⟨⟨access, List.mem_filter.mpr ⟨accessMember, ?_⟩, accessKept⟩,
    family, List.mem_filter.mpr ⟨familyMember, ?_⟩, familyKept, covered⟩
  · rw [decide_eq_true_iff, accessKept.expiry]
    refine ⟨Nat.not_lt.mpr unexpired, ?_⟩
    intro deleted
    rcases List.mem_map.mp deleted with ⟨other, otherExpired, otherId⟩
    rcases List.mem_filter.mp otherExpired with ⟨otherMember, expired⟩
    have sameId : other.id = family.id := by
      rw [otherId, accessKept.family, familyKept.sameId, same]
    have equal : other = family :=
      List.inj_on_of_nodup_map invariant.families_nodup otherMember familyMember sameId
    rw [equal] at expired
    exact absurd (of_decide_eq_true expired) (Nat.not_lt.mpr (unexpired.trans covered))
  · rw [decide_eq_true_iff]
    exact Nat.not_lt.mpr (unexpired.trans covered)

/-- No call deletes a token before its expiry, or the family of one. -/
theorem retains (effect : Effect service store event store' handed)
    (invariant : StoreInvariant store) (retained : store.Retains row owner)
    (same : owner.id = row.familyId) (unexpired : event.now ≤ row.expiresAt)
    (bounded : row.expiresAt ≤ event.now + seconds service.config.refreshTokenTtlSeconds) :
    store'.Retains row owner := by
  cases effect with
  | idle => exact retained
  | issued validated fresh =>
      have cleaned := retains_deleteExpired invariant retained same unexpired
      exact ⟨cleaned.access, cleaned.family⟩
  | exchanged redeems freshFamily fresh =>
      rcases retained with ⟨⟨access, accessMember, accessKept⟩, family, familyMember, kept⟩
      exact ⟨⟨access, List.mem_append_left _ accessMember, accessKept⟩, family,
        List.mem_append_left _ familyMember, kept⟩
  | @refreshed request now draws stored family scopes refreshes fresh =>
      have extended := retains_modifyFamily retained family.id (service.extend now)
        OAuthService.kept_extend fun _ _ _ => bounded
      rcases extended with ⟨⟨access, accessMember, accessKept⟩, keptFamily⟩
      exact ⟨⟨access, List.mem_append_left _ accessMember, accessKept⟩, keptFamily⟩
  | @replayed request now draws stored family replays =>
      exact retains_modifyFamily retained _ (OAuthService.recordReplay now)
        OAuthService.kept_recordReplay fun _ _ covered => covered
  | @revoked token now draws =>
      refine OAuthService.revoke_induction (fun after => after.Retains row owner) retained ?_ ?_
      · intro after found _ earlier
        have marked := retains_modifyAccess earlier found.tokenDigest
          (OAuthService.revokeAccessRow now) OAuthService.kept_revokeAccessRow
        exact retains_modifyFamily marked _ (OAuthService.revokeFamily now)
          OAuthService.kept_revokeFamily fun _ _ covered => covered
      · intro after found _ earlier
        have marked : (after.modifyRefresh found.tokenDigest
            (OAuthService.revokeRefreshRow now)).Retains row owner :=
          ⟨earlier.access, earlier.family⟩
        exact retains_modifyFamily marked _ (OAuthService.revokeFamily now)
          OAuthService.kept_revokeFamily fun _ _ covered => covered

end Effect

namespace OAuthService

variable {service : OAuthService} {history : List Event} {now : Instant}

theorem seconds_le {first second : Nat} (le : first ≤ second) : seconds first ≤ seconds second :=
  Nat.mul_le_mul_left _ le

theorem accessTtl_le (service : OAuthService) :
    seconds service.config.accessTokenTtlSeconds ≤
      seconds service.config.refreshTokenTtlSeconds :=
  seconds_le (service.config.accessTokenTtl_range.2.trans service.config.refreshTokenTtl_range.1)

/-- What is told of a token while it is accepted. -/
def viewOf (service : OAuthService) (issuance : Issuance) : VerifiedToken where
  clientId := issuance.clientId
  scopes := issuance.pair.scopes
  expiresAt := (issuance.issuedAt + seconds service.config.accessTokenTtlSeconds) / seconds 1
  resource := issuance.resource
  subject := subject

/-- The rows of a pair tell what was granted with it. -/
theorem verifiedToken_eq (collisionFree : service.CollisionFree)
    (families : DistinctFamilies history) {issuance : Issuance}
    (member : issuance ∈ service.issuances history) {access : OAuthAccessToken}
    (issued : IssuedAccess service issuance access) {family : OAuthTokenFamily}
    (familyMember : family ∈ (service.machine.run history).families)
    (same : family.id = access.familyId) :
    verifiedToken access family = service.viewOf issuance := by
  have grantable := (derived_of_issued collisionFree families issuance member).grantable
  have recorded := service.family_recorded history family familyMember
  rcases family_bound families family familyMember issuance member
    (issued.family.trans (congrArg some same.symm)) with ⟨client, resource⟩
  unfold verifiedToken viewOf
  rw [client, resource, recorded.subject, issued.expiry, issued.scopes,
    decodeScopes_encodeScopes grantable]

/-- A token and its family are stored until the token expires. -/
theorem retained_until_expiry {before after : List Event} {event : Event}
    (clock : Chronological (before ++ event :: after)) {row : OAuthAccessToken}
    {owner : OAuthTokenFamily} (same : owner.id = row.familyId)
    (retained : (service.machine.run (before ++ [event])).Retains row owner)
    (unexpired : ∀ later ∈ after, later.now ≤ row.expiresAt)
    (bounded : row.expiresAt ≤ event.now + seconds service.config.refreshTokenTtlSeconds) :
    (service.machine.run (before ++ event :: after)).Retains row owner := by
  have split : before ++ event :: after = (before ++ [event]) ++ after := by simp
  rw [split]
  refine service.machine.run_after (fun store => store.Retains row owner) retained ?_
  intro middle later isPrefix kept
  have inside : later ∈ after := isPrefix.subset (by simp)
  have order : event.now ≤ later.now := by
    rw [split, Chronological, List.map_append, List.pairwise_append] at clock
    exact clock.2.2 event.now (by simp) later.now (List.mem_map_of_mem inside)
  have effect := service.effect_run ((before ++ [event]) ++ middle) later
  rw [Machine.run_concat] at effect
  exact effect.retains (service.storeInvariant _) kept same (unexpired later inside)
    (bounded.trans (Nat.add_le_add_right order _))

/-- A token that was handed out is accepted until it expires or its family is revoked. -/
theorem accepted_of_handed (collisionFree : service.CollisionFree)
    {before after : List Event} {event : Event} {issuance : Issuance}
    (families : DistinctFamilies (before ++ event :: after))
    (clock : Chronological (before ++ event :: after))
    (later : ∀ other ∈ before ++ event :: after, other.now ≤ now)
    (handed : event.handed service (service.machine.run before) = .tokens issuance)
    (unexpired : now < issuance.issuedAt + seconds service.config.accessTokenTtlSeconds)
    (unrevoked : ∀ id, issuance.family = some id →
      ¬(service.machine.run (before ++ event :: after)).Revoked id) :
    service.verifyAccessToken (service.machine.run (before ++ event :: after)) now
      issuance.pair.accessToken = some (service.viewOf issuance) := by
  have effect := service.effect_run before event
  rw [handed] at effect
  rcases effect.issuance_access (List.mem_singleton_self issuance) with
    ⟨atEvent, row, rowMember, issued, owner, ownerMember, same, ownerExpiry⟩
  have member : issuance ∈ service.issuances (before ++ event :: after) :=
    mem_issuances.mpr (mem_ledger_iff.mpr ⟨before, event, after, rfl, handed.symm⟩)
  have covered : row.expiresAt ≤ issuance.issuedAt + seconds service.config.refreshTokenTtlSeconds := by
    rw [issued.expiry]
    exact Nat.add_le_add_left service.accessTtl_le _
  have start : (service.machine.run (before ++ [event])).Retains row owner :=
    ⟨⟨row, rowMember, .refl row⟩, owner, ownerMember, .refl owner, ownerExpiry ▸ covered⟩
  have retained := retained_until_expiry clock same start
    (fun other inside => ((later other (by simp [inside])).trans unexpired.le).trans issued.expiry.ge)
    (atEvent ▸ covered)
  rcases retained with ⟨⟨access, accessMember, accessKept⟩, family, familyMember, familyKept, covers⟩
  have invariant := service.storeInvariant (before ++ event :: after)
  have accessIssued := issued.of_kept accessKept
  have sameFamily : family.id = access.familyId := by
    rw [familyKept.sameId, accessKept.family, same]
  have recorded := service.family_recorded _ family familyMember
  have familyUnrevoked : family.revokedAt = none := by
    by_contra revoked
    exact unrevoked _ accessIssued.family ⟨family, familyMember, sameFamily, revoked⟩
  have accessUnrevoked : access.revokedAt = none := by
    by_contra revoked
    exact invariant.access_revoked access accessMember revoked family familyMember sameFamily
      familyUnrevoked
  have live : now < access.expiresAt := accessIssued.expiry ▸ unexpired
  rw [verifyAccessToken_eq_some_iff]
  refine ⟨access, family, ⟨?_, ?_, ?_, accessUnrevoked, familyUnrevoked, live, ?_,
    recorded.generation, recorded.resource⟩, ?_⟩
  · exact ne_nil_of_handed (mem_issuances.mp member) (by simp [Handed.rawTokens])
  · exact (Table.get_eq_some_iff invariant.access_nodup).mpr ⟨accessMember, accessIssued.digest⟩
  · exact (Table.get_eq_some_iff invariant.families_nodup).mpr ⟨familyMember, sameFamily⟩
  · exact live.trans_le (accessKept.expiry ▸ covers)
  · exact (verifiedToken_eq collisionFree families member accessIssued familyMember sameFamily).symm

/-- A token that is accepted was handed out, and its family has not been revoked since. -/
theorem handed_of_accepted (collisionFree : service.CollisionFree)
    (families : DistinctFamilies history) {token : Text} {view : VerifiedToken}
    (accepted : service.verifyAccessToken (service.machine.run history) now token = some view) :
    ∃ before event after issuance, history = before ++ event :: after ∧
      event.handed service (service.machine.run before) = .tokens issuance ∧
      issuance.pair.accessToken = token ∧
      now < issuance.issuedAt + seconds service.config.accessTokenTtlSeconds ∧
      (∀ middle, middle <+: after → ∀ id, issuance.family = some id →
        ¬(service.machine.run (before ++ event :: middle)).Revoked id) ∧
      view = service.viewOf issuance := by
  rcases verifyAccessToken_eq_some_iff.mp accepted with ⟨access, family, verifies, rfl⟩
  have accessMember := Table.mem_of_get verifies.found
  have familyMember := Table.mem_of_get verifies.familyFound
  have sameFamily := Table.key_of_get verifies.familyFound
  rcases service.access_issued history access accessMember with ⟨issuance, member, issued⟩
  rcases mem_ledger_iff.mp (mem_issuances.mp member) with ⟨before, event, after, split, handed⟩
  refine ⟨before, event, after, issuance, split, handed.symm, ?_, ?_, ?_, ?_⟩
  · apply service.digest_injective collisionFree "access-token".toList
    exact issued.digest.symm.trans (Table.key_of_get verifies.found)
  · exact issued.expiry ▸ verifies.unexpired
  · rintro middle ⟨rest, rfl⟩ id ofFamily revoked
    have whole : history = (before ++ event :: middle) ++ rest := by simp [split]
    have sameId : family.id = id :=
      sameFamily.trans (Option.some.inj (issued.family.symm.trans ofFamily))
    rw [whole] at families familyMember
    exact revoked_persists families revoked family familyMember sameId verifies.familyUnrevoked
  · exact verifiedToken_eq collisionFree families member issued familyMember sameFamily

/-- An access token is accepted exactly from the call that hands it out until its lifetime
is over, while its family has not been revoked. No other credential is accepted as one. -/
theorem access_token_lifetime (collisionFree : service.CollisionFree) (history : List Event)
    (tokens : DistinctTokens history) (families : DistinctFamilies history)
    (clock : Chronological history) (now : Instant)
    (later : ∀ event ∈ history, event.now ≤ now) :
    (∀ token view, service.verifyAccessToken (service.machine.run history) now token = some view ↔
      ∃ before event after issuance, history = before ++ event :: after ∧
        event.handed service (service.machine.run before) = .tokens issuance ∧
        issuance.pair.accessToken = token ∧
        now < issuance.issuedAt + seconds service.config.accessTokenTtlSeconds ∧
        (∀ middle, middle <+: after → ∀ id, issuance.family = some id →
          ¬(service.machine.run (before ++ event :: middle)).Revoked id) ∧
        view = service.viewOf issuance) ∧
    (∀ grant ∈ service.codeGrants history,
      service.verifyAccessToken (service.machine.run history) now grant.code = none) ∧
    ∀ issuance ∈ service.issuances history,
      service.verifyAccessToken (service.machine.run history) now issuance.pair.refreshToken =
        none := by
  refine ⟨?_, ?_, ?_⟩
  · intro token view
    constructor
    · exact handed_of_accepted collisionFree families
    · rintro ⟨before, event, after, issuance, rfl, handed, rfl, unexpired, unrevoked, rfl⟩
      exact accepted_of_handed collisionFree families clock later handed unexpired
        (unrevoked after (List.prefix_refl _))
  · intro grant member
    cases accepted : service.verifyAccessToken (service.machine.run history) now grant.code with
    | none => rfl
    | some view =>
        rcases handed_of_accepted collisionFree families accepted with
          ⟨before, event, after, issuance, split, handed, same, _⟩
        have issued := mem_ledger_iff.mpr ⟨before, event, after, split, handed.symm⟩
        have equal := handed_eq_of_token tokens (mem_codeGrants.mp member) issued grant.code
          (by simp [Handed.rawTokens]) (by simp [Handed.rawTokens, same])
        cases equal
  · intro issuance member
    cases accepted : service.verifyAccessToken (service.machine.run history) now
        issuance.pair.refreshToken with
    | none => rfl
    | some view =>
        rcases handed_of_accepted collisionFree families accepted with
          ⟨before, event, after, other, split, handed, same, _⟩
        have issued := mem_ledger_iff.mpr ⟨before, event, after, split, handed.symm⟩
        have equal := handed_eq_of_token tokens (mem_issuances.mp member) issued
          issuance.pair.refreshToken (by simp [Handed.rawTokens]) (by simp [Handed.rawTokens, same])
        cases equal
        exact absurd same (pair_distinct tokens member)

/-- A rotated token in the last microsecond of its lifetime. -/
theorem access_token_lifetime_refreshing :
    (Sample.service.verifyAccessToken (Sample.service.machine.run Sample.refreshing)
        (seconds 920 - 1) (Sample.token 'd').text).isSome ∧
      (∀ view, Sample.service.verifyAccessToken (Sample.service.machine.run Sample.refreshing)
          (seconds 920 - 1) (Sample.token 'd').text = some view ↔
        ∃ before event after issuance, Sample.refreshing = before ++ event :: after ∧
          event.handed Sample.service (Sample.service.machine.run before) = .tokens issuance ∧
          issuance.pair.accessToken = (Sample.token 'd').text ∧
          seconds 920 - 1 <
            issuance.issuedAt + seconds Sample.service.config.accessTokenTtlSeconds ∧
          (∀ middle, middle <+: after → ∀ id, issuance.family = some id →
            ¬(Sample.service.machine.run (before ++ event :: middle)).Revoked id) ∧
          view = Sample.service.viewOf issuance) := by
  refine ⟨by decide +kernel, (access_token_lifetime Sample.collisionFree _ ?_ ?_ ?_ _ ?_).1 _⟩
  · unfold DistinctTokens
    decide +kernel
  · unfold DistinctFamilies
    decide +kernel
  · unfold Chronological
    decide +kernel
  · decide +kernel

end OAuthService

end RollingBudget.OAuth
