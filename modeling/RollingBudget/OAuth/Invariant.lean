import RollingBudget.OAuth.Steps

namespace RollingBudget.OAuth

/-! What holds of the store after every history, for any clock and any draws: the keys are
unique, tokens belong to stored families, a revoked token belongs to a revoked family, and
a family has at most one refresh token that can still be redeemed. -/

structure StoreInvariant (store : OAuthStore) : Prop where
  codes_nodup : (store.codes.map (·.codeDigest)).Nodup
  families_nodup : (store.families.map (·.id)).Nodup
  access_nodup : (store.accessTokens.map (·.tokenDigest)).Nodup
  refresh_nodup : (store.refreshTokens.map (·.tokenDigest)).Nodup
  access_family : ∀ row ∈ store.accessTokens, ∃ family ∈ store.families, family.id = row.familyId
  refresh_family : ∀ row ∈ store.refreshTokens, ∃ family ∈ store.families, family.id = row.familyId
  access_revoked : ∀ row ∈ store.accessTokens, row.revokedAt ≠ none →
    ∀ family ∈ store.families, family.id = row.familyId → family.revokedAt ≠ none
  refresh_revoked : ∀ row ∈ store.refreshTokens, row.revokedAt ≠ none →
    ∀ family ∈ store.families, family.id = row.familyId → family.revokedAt ≠ none
  one_live : ∀ first ∈ store.refreshTokens, ∀ second ∈ store.refreshTokens,
    first.familyId = second.familyId → first.IsLive → second.IsLive → first = second

namespace StoreInvariant

variable {store : OAuthStore}

theorem empty : StoreInvariant OAuthStore.empty := by
  constructor <;> simp [OAuthStore.empty]

/-! ## One row at a time -/

theorem addCode (invariant : StoreInvariant store) (row : OAuthAuthorizationCode)
    (fresh : store.findCode row.codeDigest = none) : StoreInvariant (store.addCode row) :=
  { invariant with
    codes_nodup :=
      Table.nodup_map_concat invariant.codes_nodup (Table.get_eq_none_iff.mp fresh) }

theorem modifyCode (invariant : StoreInvariant store) (digest : Text)
    (change : OAuthAuthorizationCode → OAuthAuthorizationCode)
    (keepsDigest : ∀ row, (change row).codeDigest = row.codeDigest) :
    StoreInvariant (store.modifyCode digest change) :=
  { invariant with codes_nodup := Table.nodup_map_modify keepsDigest invariant.codes_nodup }

theorem addFamily (invariant : StoreInvariant store) (row : OAuthTokenFamily)
    (fresh : store.findFamily row.id = none) : StoreInvariant (store.addFamily row) := by
  have absent : ∀ old ∈ store.families, old.id ≠ row.id := Table.get_eq_none_iff.mp fresh
  -- No stored token can belong to the new family.
  have coupled : ∀ id, (∃ family ∈ store.families, family.id = id) →
      (∀ family ∈ store.families, family.id = id → family.revokedAt ≠ none) →
      ∀ family ∈ store.families ++ [row], family.id = id → family.revokedAt ≠ none := by
    rintro id ⟨owner, ownerMember, rfl⟩ old family member same
    rcases List.mem_append.mp member with before | new
    · exact old family before same
    · rw [List.mem_singleton.mp new] at same
      exact absurd same.symm (absent owner ownerMember)
  have grown : ∀ id, (∃ family ∈ store.families, family.id = id) →
      ∃ family ∈ store.families ++ [row], family.id = id := by
    rintro id ⟨family, member, same⟩
    exact ⟨family, List.mem_append_left _ member, same⟩
  exact
    { invariant with
      families_nodup := Table.nodup_map_concat invariant.families_nodup absent
      access_family := fun token member => grown _ (invariant.access_family token member)
      refresh_family := fun token member => grown _ (invariant.refresh_family token member)
      access_revoked := fun token member revoked =>
        coupled _ (invariant.access_family token member)
          (invariant.access_revoked token member revoked)
      refresh_revoked := fun token member revoked =>
        coupled _ (invariant.refresh_family token member)
          (invariant.refresh_revoked token member revoked) }

theorem modifyFamily (invariant : StoreInvariant store) (id : Nat)
    (change : OAuthTokenFamily → OAuthTokenFamily) (keepsId : ∀ row, (change row).id = row.id)
    (keepsRevoked : ∀ row, row.revokedAt ≠ none → (change row).revokedAt ≠ none) :
    StoreInvariant (store.modifyFamily id change) := by
  have kept : ∀ owner, (∃ family ∈ store.families, family.id = owner) →
      ∃ family ∈ Table.modify (·.id) id change store.families, family.id = owner := by
    rintro owner ⟨family, member, rfl⟩
    by_cases here : family.id = id
    · exact ⟨change family, Table.mem_modify.mpr (Or.inr ⟨family, member, here, rfl⟩),
        keepsId family⟩
    · exact ⟨family, Table.mem_modify.mpr (Or.inl ⟨member, here⟩), rfl⟩
  have coupled : ∀ owner,
      (∀ family ∈ store.families, family.id = owner → family.revokedAt ≠ none) →
      ∀ family ∈ Table.modify (·.id) id change store.families, family.id = owner →
        family.revokedAt ≠ none := by
    intro owner old family member same
    rcases Table.mem_modify.mp member with ⟨before, _⟩ | ⟨before, beforeMember, _, rfl⟩
    · exact old family before same
    · rw [keepsId] at same
      exact keepsRevoked before (old before beforeMember same)
  exact
    { invariant with
      families_nodup := Table.nodup_map_modify keepsId invariant.families_nodup
      access_family := fun token member => kept _ (invariant.access_family token member)
      refresh_family := fun token member => kept _ (invariant.refresh_family token member)
      access_revoked := fun token member revoked =>
        coupled _ (invariant.access_revoked token member revoked)
      refresh_revoked := fun token member revoked =>
        coupled _ (invariant.refresh_revoked token member revoked) }

theorem addAccess (invariant : StoreInvariant store) (row : OAuthAccessToken)
    (fresh : store.findAccess row.tokenDigest = none)
    (owned : ∃ family ∈ store.families, family.id = row.familyId)
    (unrevoked : row.revokedAt = none) : StoreInvariant (store.addAccess row) :=
  { invariant with
    access_nodup :=
      Table.nodup_map_concat invariant.access_nodup (Table.get_eq_none_iff.mp fresh)
    access_family := by
      intro token member
      rcases List.mem_append.mp member with before | new
      · exact invariant.access_family token before
      · rw [List.mem_singleton.mp new]
        exact owned
    access_revoked := by
      intro token member revoked
      rcases List.mem_append.mp member with before | new
      · exact invariant.access_revoked token before revoked
      · rw [List.mem_singleton.mp new] at revoked
        exact absurd unrevoked revoked }

theorem modifyAccess (invariant : StoreInvariant store) (digest : Text)
    (change : OAuthAccessToken → OAuthAccessToken)
    (keepsDigest : ∀ row, (change row).tokenDigest = row.tokenDigest)
    (keepsFamily : ∀ row, (change row).familyId = row.familyId)
    (coupled : ∀ row ∈ store.accessTokens, row.tokenDigest = digest →
      ∀ family ∈ store.families, family.id = row.familyId → family.revokedAt ≠ none) :
    StoreInvariant (store.modifyAccess digest change) :=
  { invariant with
    access_nodup := Table.nodup_map_modify keepsDigest invariant.access_nodup
    access_family := by
      intro token member
      rcases Table.mem_modify.mp member with ⟨before, _⟩ | ⟨before, beforeMember, _, rfl⟩
      · exact invariant.access_family token before
      · rw [keepsFamily]
        exact invariant.access_family before beforeMember
    access_revoked := by
      intro token member revoked
      rcases Table.mem_modify.mp member with ⟨before, _⟩ | ⟨before, beforeMember, here, rfl⟩
      · exact invariant.access_revoked token before revoked
      · rw [keepsFamily]
        exact coupled before beforeMember here }

theorem addRefresh (invariant : StoreInvariant store) (row : OAuthRefreshToken)
    (fresh : store.findRefresh row.tokenDigest = none)
    (owned : ∃ family ∈ store.families, family.id = row.familyId)
    (unrevoked : row.revokedAt = none)
    (spent : ∀ other ∈ store.refreshTokens, other.familyId = row.familyId → ¬other.IsLive) :
    StoreInvariant (store.addRefresh row) :=
  { invariant with
    refresh_nodup :=
      Table.nodup_map_concat invariant.refresh_nodup (Table.get_eq_none_iff.mp fresh)
    refresh_family := by
      intro token member
      rcases List.mem_append.mp member with before | new
      · exact invariant.refresh_family token before
      · rw [List.mem_singleton.mp new]
        exact owned
    refresh_revoked := by
      intro token member revoked
      rcases List.mem_append.mp member with before | new
      · exact invariant.refresh_revoked token before revoked
      · rw [List.mem_singleton.mp new] at revoked
        exact absurd unrevoked revoked
    one_live := by
      intro first firstMember second secondMember same firstLive secondLive
      rcases List.mem_append.mp firstMember with firstOld | firstNew <;>
        rcases List.mem_append.mp secondMember with secondOld | secondNew
      · exact invariant.one_live first firstOld second secondOld same firstLive secondLive
      · rw [List.mem_singleton.mp secondNew] at same
        exact absurd firstLive (spent first firstOld same)
      · rw [List.mem_singleton.mp firstNew] at same
        exact absurd secondLive (spent second secondOld same.symm)
      · rw [List.mem_singleton.mp firstNew, List.mem_singleton.mp secondNew] }

theorem modifyRefresh (invariant : StoreInvariant store) (digest : Text)
    (change : OAuthRefreshToken → OAuthRefreshToken)
    (keepsDigest : ∀ row, (change row).tokenDigest = row.tokenDigest)
    (keepsFamily : ∀ row, (change row).familyId = row.familyId)
    (dead : ∀ row, ¬(change row).IsLive)
    (coupled : ∀ row ∈ store.refreshTokens, row.tokenDigest = digest →
      (change row).revokedAt ≠ none →
      ∀ family ∈ store.families, family.id = row.familyId → family.revokedAt ≠ none) :
    StoreInvariant (store.modifyRefresh digest change) :=
  { invariant with
    refresh_nodup := Table.nodup_map_modify keepsDigest invariant.refresh_nodup
    refresh_family := by
      intro token member
      rcases Table.mem_modify.mp member with ⟨before, _⟩ | ⟨before, beforeMember, _, rfl⟩
      · exact invariant.refresh_family token before
      · rw [keepsFamily]
        exact invariant.refresh_family before beforeMember
    refresh_revoked := by
      intro token member revoked
      rcases Table.mem_modify.mp member with ⟨before, _⟩ | ⟨before, beforeMember, here, rfl⟩
      · exact invariant.refresh_revoked token before revoked
      · rw [keepsFamily]
        exact coupled before beforeMember here revoked
    one_live := by
      have unchanged : ∀ row ∈ Table.modify (·.tokenDigest) digest change store.refreshTokens,
          row.IsLive → row ∈ store.refreshTokens := by
        intro row member live
        rcases Table.mem_modify.mp member with ⟨before, _⟩ | ⟨before, _, _, rfl⟩
        · exact before
        · exact absurd live (dead before)
      intro first firstMember second secondMember same firstLive secondLive
      exact invariant.one_live first (unchanged first firstMember firstLive) second
        (unchanged second secondMember secondLive) same firstLive secondLive }

/-- Deleting a family deletes its tokens, so that no token is left without one. -/
theorem deleteExpired (invariant : StoreInvariant store) (now : Instant) :
    StoreInvariant (store.deleteExpired now) := by
  have remains : ∀ owner, owner ∉ store.expiredFamilies now →
      (∃ family ∈ store.families, family.id = owner) →
      ∃ family ∈ (store.deleteExpired now).families, family.id = owner := by
    rintro owner current ⟨family, member, rfl⟩
    refine ⟨family, List.mem_filter.mpr ⟨member, ?_⟩, rfl⟩
    by_contra expired
    apply current
    refine List.mem_map_of_mem (List.mem_filter.mpr ⟨member, ?_⟩)
    simpa using expired
  constructor
  · exact invariant.codes_nodup.sublist (List.filter_sublist.map _)
  · exact invariant.families_nodup.sublist (List.filter_sublist.map _)
  · exact invariant.access_nodup.sublist (List.filter_sublist.map _)
  · exact invariant.refresh_nodup.sublist (List.filter_sublist.map _)
  · intro row member
    rcases List.mem_filter.mp member with ⟨before, kept⟩
    exact remains _ (of_decide_eq_true kept).2 (invariant.access_family row before)
  · intro row member
    rcases List.mem_filter.mp member with ⟨before, kept⟩
    exact remains _ (of_decide_eq_true kept) (invariant.refresh_family row before)
  · intro row member revoked family familyMember
    exact invariant.access_revoked row (List.mem_filter.mp member).1 revoked family
      (List.mem_filter.mp familyMember).1
  · intro row member revoked family familyMember
    exact invariant.refresh_revoked row (List.mem_filter.mp member).1 revoked family
      (List.mem_filter.mp familyMember).1
  · intro first firstMember second secondMember
    exact invariant.one_live first (List.mem_filter.mp firstMember).1 second
      (List.mem_filter.mp secondMember).1

/-! ## One call at a time -/

variable {service : OAuthService} {now : Instant}

theorem replay (invariant : StoreInvariant store) (id : Nat) :
    StoreInvariant (store.modifyFamily id (OAuthService.recordReplay now)) :=
  invariant.modifyFamily id _ (fun _ => rfl) fun row _ => OAuthService.or_some_ne_none row.revokedAt now

theorem revokeFamily (invariant : StoreInvariant store) (id : Nat) :
    StoreInvariant (store.modifyFamily id (OAuthService.revokeFamily now)) :=
  invariant.modifyFamily id _ (fun _ => rfl) fun row _ => OAuthService.or_some_ne_none row.revokedAt now

/-- Revoking a family leaves it revoked. -/
theorem revoked_of_revokeFamily {id : Nat} {family : OAuthTokenFamily}
    (member : family ∈ (store.modifyFamily id (OAuthService.revokeFamily now)).families)
    (same : family.id = id) : family.revokedAt ≠ none := by
  rcases Table.mem_modify.mp member with ⟨_, elsewhere⟩ | ⟨before, _, _, rfl⟩
  · exact absurd same elsewhere
  · exact OAuthService.or_some_ne_none before.revokedAt now

theorem revoke (invariant : StoreInvariant store) (token : Text) :
    StoreInvariant (service.revoke store now token) := by
  -- The family is revoked first, so that the token's row never contradicts its family's.
  refine OAuthService.revoke_induction StoreInvariant invariant ?_ ?_
  · intro store row found invariant
    refine (invariant.revokeFamily row.familyId).modifyAccess row.tokenDigest _ (fun _ => rfl)
      (fun _ => rfl) ?_
    intro other member sameDigest family familyMember same
    have equal : other = row :=
      List.inj_on_of_nodup_map invariant.access_nodup member (Table.mem_of_get found) sameDigest
    rw [equal] at same
    exact revoked_of_revokeFamily familyMember same
  · intro store row found invariant
    refine (invariant.revokeFamily row.familyId).modifyRefresh row.tokenDigest _ (fun _ => rfl)
      (fun _ => rfl) (fun old live => OAuthService.or_some_ne_none old.revokedAt now live.2) ?_
    intro other member sameDigest _ family familyMember same
    have equal : other = row :=
      List.inj_on_of_nodup_map invariant.refresh_nodup member (Table.mem_of_get found) sameDigest
    rw [equal] at same
    exact revoked_of_revokeFamily familyMember same

theorem exchanged (invariant : StoreInvariant store) {draws : Draws}
    {stored : OAuthAuthorizationCode} (freshFamily : store.findFamily draws.familyId = none)
    (fresh : service.FreshTokens store draws) :
    StoreInvariant (service.exchanged store now draws stored) := by
  let family := service.createdFamily now draws stored
  let scopes := decodeScopes stored.scopes
  have redeemed := invariant.modifyCode stored.codeDigest (OAuthService.consumeCode now)
    fun _ => rfl
  have created := redeemed.addFamily family freshFamily
  have present : family ∈ store.families ++ [family] := by simp
  have withAccess := created.addAccess
    (service.accessToken now draws.familyId scopes draws.firstToken.text) fresh.access
    ⟨family, present, rfl⟩ rfl
  refine withAccess.addRefresh
    (service.refreshToken now draws.familyId scopes draws.secondToken.text) fresh.refresh
    ⟨family, present, rfl⟩ rfl ?_
  intro other member same
  rcases invariant.refresh_family other member with ⟨owner, ownerMember, ownerId⟩
  exact absurd (ownerId.trans same) (Table.get_eq_none_iff.mp freshFamily owner ownerMember)

theorem refreshed (invariant : StoreInvariant store) {draws : Draws} {request : RefreshRequest}
    {stored : OAuthRefreshToken} {family : OAuthTokenFamily} {scopes : List Text}
    (refreshes : service.Refreshes store now request stored family scopes)
    (fresh : service.FreshTokens
      (store.modifyRefresh stored.tokenDigest (OAuthService.consumeRefresh now)) draws) :
    StoreInvariant (service.refreshed store now draws stored family.id scopes) := by
  have storedMember : stored ∈ store.refreshTokens := Table.mem_of_get refreshes.found
  have familyMember : family ∈ store.families := Table.mem_of_get refreshes.familyFound
  have familyId : family.id = stored.familyId := Table.key_of_get refreshes.familyFound
  have dead : ∀ row, ¬(OAuthService.consumeRefresh now row).IsLive := fun _ live => by cases live.1
  have redeemed := invariant.modifyRefresh stored.tokenDigest (OAuthService.consumeRefresh now)
    (fun _ => rfl) (fun _ => rfl) dead
    fun row member _ revoked => invariant.refresh_revoked row member revoked
  have extended := redeemed.modifyFamily family.id (service.extend now) (fun _ => rfl)
    fun _ revoked => revoked
  have present : service.extend now family ∈
      Table.modify (·.id) family.id (service.extend now) store.families :=
    Table.mem_modify.mpr (Or.inr ⟨family, familyMember, rfl, rfl⟩)
  have withAccess := extended.addAccess
    (service.accessToken now family.id scopes draws.firstToken.text) fresh.access
    ⟨_, present, rfl⟩ rfl
  refine withAccess.addRefresh
    (service.refreshToken now family.id scopes draws.secondToken.text) fresh.refresh
    ⟨_, present, rfl⟩ rfl ?_
  -- The token that was redeemed was the only live one of its family.
  intro other member same live
  rcases Table.mem_modify.mp member with ⟨before, elsewhere⟩ | ⟨before, _, _, rfl⟩
  · have equal := invariant.one_live other before stored storedMember (same.trans familyId) live
      ⟨refreshes.unconsumed, refreshes.unrevoked⟩
    exact elsewhere (congrArg (·.tokenDigest) equal)
  · exact dead before live

theorem effect (invariant : StoreInvariant store) {event : Event} {store' : OAuthStore}
    {handed : Handed} (effect : Effect service store event store' handed) :
    StoreInvariant store' := by
  cases effect with
  | idle => exact invariant
  | issued validated fresh => exact (invariant.deleteExpired _).addCode _ fresh
  | exchanged redeems freshFamily fresh => exact invariant.exchanged freshFamily fresh
  | refreshed refreshes fresh => exact invariant.refreshed refreshes fresh
  | replayed replays => exact invariant.replay _
  | revoked => exact invariant.revoke _

end StoreInvariant

/-- Every history leaves a store that satisfies the invariant. -/
theorem OAuthService.storeInvariant (service : OAuthService) (history : List Event) :
    StoreInvariant (service.machine.run history) :=
  service.machine.run_invariant StoreInvariant.empty
    (fun store event invariant => invariant.effect (event.effect service store)) history

end RollingBudget.OAuth
