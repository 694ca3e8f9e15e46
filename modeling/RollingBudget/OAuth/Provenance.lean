import RollingBudget.OAuth.Invariant

namespace RollingBudget.OAuth

/-! Where the rows of a store come from. A call keeps what identifies a row and what it
grants, and may set its marks and delete it; every stored credential is one that was
handed out. -/

/-! ## What a call keeps of a row -/

structure OAuthAuthorizationCode.Kept (old row : OAuthAuthorizationCode) : Prop where
  digest : row.codeDigest = old.codeDigest
  client : row.clientId = old.clientId
  redirect : row.redirectUri = old.redirectUri
  resource : row.resource = old.resource
  scopes : row.scopes = old.scopes
  challenge : row.codeChallenge = old.codeChallenge
  subject : row.subject = old.subject
  generation : row.credentialGeneration = old.credentialGeneration
  expiry : row.expiresAt = old.expiresAt
  consumed : old.consumedAt ≠ none → row.consumedAt ≠ none

structure OAuthTokenFamily.Kept (old row : OAuthTokenFamily) : Prop where
  sameId : row.id = old.id
  client : row.clientId = old.clientId
  resource : row.resource = old.resource
  subject : row.subject = old.subject
  generation : row.credentialGeneration = old.credentialGeneration
  revoked : old.revokedAt ≠ none → row.revokedAt ≠ none

structure OAuthAccessToken.Kept (old row : OAuthAccessToken) : Prop where
  digest : row.tokenDigest = old.tokenDigest
  family : row.familyId = old.familyId
  scopes : row.scopes = old.scopes
  expiry : row.expiresAt = old.expiresAt

structure OAuthRefreshToken.Kept (old row : OAuthRefreshToken) : Prop where
  digest : row.tokenDigest = old.tokenDigest
  family : row.familyId = old.familyId
  scopes : row.scopes = old.scopes
  live : row.IsLive → old.IsLive

theorem OAuthAuthorizationCode.Kept.refl (row : OAuthAuthorizationCode) : row.Kept row :=
  ⟨rfl, rfl, rfl, rfl, rfl, rfl, rfl, rfl, rfl, id⟩

theorem OAuthAuthorizationCode.Kept.trans {first second third : OAuthAuthorizationCode}
    (before : first.Kept second) (after : second.Kept third) : first.Kept third :=
  ⟨after.digest.trans before.digest, after.client.trans before.client,
    after.redirect.trans before.redirect, after.resource.trans before.resource,
    after.scopes.trans before.scopes, after.challenge.trans before.challenge,
    after.subject.trans before.subject, after.generation.trans before.generation,
    after.expiry.trans before.expiry, fun consumed => after.consumed (before.consumed consumed)⟩

theorem OAuthTokenFamily.Kept.refl (row : OAuthTokenFamily) : row.Kept row :=
  ⟨rfl, rfl, rfl, rfl, rfl, fun revoked => revoked⟩

theorem OAuthTokenFamily.Kept.trans {first second third : OAuthTokenFamily}
    (before : first.Kept second) (after : second.Kept third) : first.Kept third :=
  ⟨after.sameId.trans before.sameId, after.client.trans before.client,
    after.resource.trans before.resource, after.subject.trans before.subject,
    after.generation.trans before.generation, fun revoked => after.revoked (before.revoked revoked)⟩

theorem OAuthAccessToken.Kept.refl (row : OAuthAccessToken) : row.Kept row :=
  ⟨rfl, rfl, rfl, rfl⟩

theorem OAuthAccessToken.Kept.trans {first second third : OAuthAccessToken}
    (before : first.Kept second) (after : second.Kept third) : first.Kept third :=
  ⟨after.digest.trans before.digest, after.family.trans before.family,
    after.scopes.trans before.scopes, after.expiry.trans before.expiry⟩

theorem OAuthRefreshToken.Kept.refl (row : OAuthRefreshToken) : row.Kept row :=
  ⟨rfl, rfl, rfl, id⟩

theorem OAuthRefreshToken.Kept.trans {first second third : OAuthRefreshToken}
    (before : first.Kept second) (after : second.Kept third) : first.Kept third :=
  ⟨after.digest.trans before.digest, after.family.trans before.family,
    after.scopes.trans before.scopes, fun live => before.live (after.live live)⟩

namespace OAuthService

variable {service : OAuthService} {now : Instant}

theorem kept_consumeCode (row : OAuthAuthorizationCode) : row.Kept (consumeCode now row) :=
  ⟨rfl, rfl, rfl, rfl, rfl, rfl, rfl, rfl, rfl, fun _ => Option.some_ne_none now⟩

theorem kept_extend (row : OAuthTokenFamily) : row.Kept (service.extend now row) :=
  ⟨rfl, rfl, rfl, rfl, rfl, id⟩

theorem kept_recordReplay (row : OAuthTokenFamily) : row.Kept (recordReplay now row) :=
  ⟨rfl, rfl, rfl, rfl, rfl, fun _ => or_some_ne_none row.revokedAt now⟩

theorem kept_revokeFamily (row : OAuthTokenFamily) : row.Kept (revokeFamily now row) :=
  ⟨rfl, rfl, rfl, rfl, rfl, fun _ => or_some_ne_none row.revokedAt now⟩

theorem kept_revokeAccessRow (row : OAuthAccessToken) : row.Kept (revokeAccessRow now row) :=
  ⟨rfl, rfl, rfl, rfl⟩

theorem kept_consumeRefresh (row : OAuthRefreshToken) : row.Kept (consumeRefresh now row) :=
  ⟨rfl, rfl, rfl, fun live => by cases live.1⟩

theorem kept_revokeRefreshRow (row : OAuthRefreshToken) : row.Kept (revokeRefreshRow now row) :=
  ⟨rfl, rfl, rfl, fun live => absurd live.2 (or_some_ne_none row.revokedAt now)⟩

end OAuthService

/-! ## Where rows come from -/

/-- The row is the access token of the pair. -/
structure IssuedAccess (service : OAuthService) (issuance : Issuance) (row : OAuthAccessToken) :
    Prop where
  family : issuance.family = some row.familyId
  digest : row.tokenDigest = service.accessDigest issuance.pair.accessToken
  scopes : row.scopes = encodeScopes issuance.pair.scopes
  expiry : row.expiresAt = issuance.issuedAt + seconds service.config.accessTokenTtlSeconds

/-- The row is the refresh token of the pair. -/
structure IssuedRefresh (service : OAuthService) (issuance : Issuance) (row : OAuthRefreshToken) :
    Prop where
  family : issuance.family = some row.familyId
  digest : row.tokenDigest = service.refreshDigest issuance.pair.refreshToken
  scopes : row.scopes = encodeScopes issuance.pair.scopes

theorem IssuedAccess.of_kept {service : OAuthService} {issuance : Issuance}
    {old row : OAuthAccessToken} (issued : IssuedAccess service issuance old) (kept : old.Kept row) :
    IssuedAccess service issuance row :=
  ⟨kept.family ▸ issued.family, kept.digest.trans issued.digest, kept.scopes.trans issued.scopes,
    kept.expiry.trans issued.expiry⟩

theorem IssuedRefresh.of_kept {service : OAuthService} {issuance : Issuance}
    {old row : OAuthRefreshToken} (issued : IssuedRefresh service issuance old)
    (kept : old.Kept row) : IssuedRefresh service issuance row :=
  ⟨kept.family ▸ issued.family, kept.digest.trans issued.digest, kept.scopes.trans issued.scopes⟩

/-- The row is the authorization code. -/
def GrantedCode (service : OAuthService) (grant : CodeGrant) (row : OAuthAuthorizationCode) : Prop :=
  (service.authorizationCode grant.issuedAt grant.request grant.code).Kept row

namespace Effect

variable {service : OAuthService} {store store' : OAuthStore} {event : Event} {handed : Handed}

theorem revoke_source (service : OAuthService) (store : OAuthStore) (now : Instant) (token : Text) :
    (service.revoke store now token).codes = store.codes ∧
      (∀ row ∈ (service.revoke store now token).families, ∃ old ∈ store.families, old.Kept row) ∧
      (∀ row ∈ (service.revoke store now token).accessTokens,
        ∃ old ∈ store.accessTokens, old.Kept row) ∧
      ∀ row ∈ (service.revoke store now token).refreshTokens,
        ∃ old ∈ store.refreshTokens, old.Kept row := by
  have families : ∀ {after : OAuthStore} (id : Nat),
      (∀ row ∈ after.families, ∃ old ∈ store.families, old.Kept row) →
      ∀ row ∈ (after.modifyFamily id (OAuthService.revokeFamily now)).families,
        ∃ old ∈ store.families, old.Kept row := by
    intro after id kept row member
    rcases Table.exists_of_mem_modify OAuthTokenFamily.Kept.refl OAuthService.kept_revokeFamily
      member with ⟨middle, middleMember, second⟩
    rcases kept middle middleMember with ⟨old, oldMember, first⟩
    exact ⟨old, oldMember, first.trans second⟩
  refine OAuthService.revoke_induction (fun after => after.codes = store.codes ∧
    (∀ row ∈ after.families, ∃ old ∈ store.families, old.Kept row) ∧
    (∀ row ∈ after.accessTokens, ∃ old ∈ store.accessTokens, old.Kept row) ∧
    ∀ row ∈ after.refreshTokens, ∃ old ∈ store.refreshTokens, old.Kept row) ?_ ?_ ?_
  · exact ⟨rfl, fun row member => ⟨row, member, .refl row⟩, fun row member => ⟨row, member, .refl row⟩,
      fun row member => ⟨row, member, .refl row⟩⟩
  · rintro after found _ ⟨codes, keptFamilies, access, refresh⟩
    refine ⟨codes, families _ keptFamilies, ?_, refresh⟩
    intro row member
    rcases Table.exists_of_mem_modify OAuthAccessToken.Kept.refl OAuthService.kept_revokeAccessRow
      member with ⟨middle, middleMember, second⟩
    rcases access middle middleMember with ⟨old, oldMember, first⟩
    exact ⟨old, oldMember, first.trans second⟩
  · rintro after found _ ⟨codes, keptFamilies, access, refresh⟩
    refine ⟨codes, families _ keptFamilies, access, ?_⟩
    intro row member
    rcases Table.exists_of_mem_modify OAuthRefreshToken.Kept.refl
      OAuthService.kept_revokeRefreshRow member with ⟨middle, middleMember, second⟩
    rcases refresh middle middleMember with ⟨old, oldMember, first⟩
    exact ⟨old, oldMember, first.trans second⟩

/-- A code of the next store is one that was stored or one that the call hands out. -/
theorem code_source (effect : Effect service store event store' handed)
    {row : OAuthAuthorizationCode} (member : row ∈ store'.codes) :
    (∃ old ∈ store.codes, old.Kept row) ∨
      ∃ grant ∈ handed.codeGrants, GrantedCode service grant row := by
  cases effect with
  | idle => exact Or.inl ⟨row, member, .refl row⟩
  | issued validated fresh =>
      rcases List.mem_append.mp member with before | new
      · exact Or.inl ⟨row, (List.mem_filter.mp before).1, .refl row⟩
      · rw [List.mem_singleton.mp new]
        exact Or.inr ⟨_, List.mem_singleton_self _, .refl _⟩
  | exchanged redeems freshFamily fresh =>
      exact Or.inl (Table.exists_of_mem_modify OAuthAuthorizationCode.Kept.refl
        OAuthService.kept_consumeCode member)
  | refreshed refreshes fresh => exact Or.inl ⟨row, member, .refl row⟩
  | replayed replays => exact Or.inl ⟨row, member, .refl row⟩
  | revoked =>
      rw [(revoke_source service store _ _).1] at member
      exact Or.inl ⟨row, member, .refl row⟩

/-- An access token of the next store is one that was stored or one that the call hands out. -/
theorem access_source (effect : Effect service store event store' handed) {row : OAuthAccessToken}
    (member : row ∈ store'.accessTokens) :
    (∃ old ∈ store.accessTokens, old.Kept row) ∨
      ∃ issuance ∈ handed.issuances, IssuedAccess service issuance row := by
  cases effect with
  | idle => exact Or.inl ⟨row, member, .refl row⟩
  | issued validated fresh => exact Or.inl ⟨row, (List.mem_filter.mp member).1, .refl row⟩
  | exchanged redeems freshFamily fresh =>
      rcases List.mem_append.mp member with before | new
      · exact Or.inl ⟨row, before, .refl row⟩
      · rw [List.mem_singleton.mp new]
        exact Or.inr ⟨_, List.mem_singleton_self _, rfl, rfl, rfl, rfl⟩
  | refreshed refreshes fresh =>
      rcases List.mem_append.mp member with before | new
      · exact Or.inl ⟨row, before, .refl row⟩
      · rw [List.mem_singleton.mp new]
        exact Or.inr ⟨_, List.mem_singleton_self _, rfl, rfl, rfl, rfl⟩
  | replayed replays => exact Or.inl ⟨row, member, .refl row⟩
  | revoked => exact Or.inl ((revoke_source service store _ _).2.2.1 row member)

/-- A refresh token of the next store is one that was stored or one that the call hands
out. -/
theorem refresh_source (effect : Effect service store event store' handed)
    {row : OAuthRefreshToken} (member : row ∈ store'.refreshTokens) :
    (∃ old ∈ store.refreshTokens, old.Kept row) ∨
      ∃ issuance ∈ handed.issuances, IssuedRefresh service issuance row := by
  cases effect with
  | idle => exact Or.inl ⟨row, member, .refl row⟩
  | issued validated fresh => exact Or.inl ⟨row, (List.mem_filter.mp member).1, .refl row⟩
  | exchanged redeems freshFamily fresh =>
      rcases List.mem_append.mp member with before | new
      · exact Or.inl ⟨row, before, .refl row⟩
      · rw [List.mem_singleton.mp new]
        exact Or.inr ⟨_, List.mem_singleton_self _, rfl, rfl, rfl⟩
  | refreshed refreshes fresh =>
      rcases List.mem_append.mp member with before | new
      · exact Or.inl (Table.exists_of_mem_modify OAuthRefreshToken.Kept.refl
          OAuthService.kept_consumeRefresh before)
      · rw [List.mem_singleton.mp new]
        exact Or.inr ⟨_, List.mem_singleton_self _, rfl, rfl, rfl⟩
  | replayed replays => exact Or.inl ⟨row, member, .refl row⟩
  | revoked => exact Or.inl ((revoke_source service store _ _).2.2.2 row member)

/-- A family of the next store is one that was stored, or the call creates it for the code
it redeems. -/
theorem family_source (effect : Effect service store event store' handed) {row : OAuthTokenFamily}
    (member : row ∈ store'.families) :
    (∃ old ∈ store.families, old.Kept row) ∨
      ∃ request stored, event.call = .exchangeAuthorizationCode request ∧
        service.Redeems store event.now request stored ∧
        row = service.createdFamily event.now event.draws stored := by
  cases effect with
  | idle => exact Or.inl ⟨row, member, .refl row⟩
  | issued validated fresh => exact Or.inl ⟨row, (List.mem_filter.mp member).1, .refl row⟩
  | exchanged redeems freshFamily fresh =>
      rcases List.mem_append.mp member with before | new
      · exact Or.inl ⟨row, before, .refl row⟩
      · exact Or.inr ⟨_, _, rfl, redeems, List.mem_singleton.mp new⟩
  | refreshed refreshes fresh =>
      exact Or.inl (Table.exists_of_mem_modify OAuthTokenFamily.Kept.refl
        OAuthService.kept_extend member)
  | replayed replays =>
      exact Or.inl (Table.exists_of_mem_modify OAuthTokenFamily.Kept.refl
        OAuthService.kept_recordReplay member)
  | revoked => exact Or.inl ((revoke_source service store _ _).2.1 row member)

/-- A call that hands out a token pair does so for a family that is stored after it. -/
theorem issuance_family (effect : Effect service store event store' handed) {issuance : Issuance}
    (member : issuance ∈ handed.issuances) :
    ∃ family ∈ store'.families, issuance.family = some family.id ∧
      family.clientId = issuance.clientId ∧ family.resource = issuance.resource := by
  cases effect with
  | idle => cases member
  | issued validated fresh => cases member
  | exchanged redeems freshFamily fresh =>
      rw [List.mem_singleton.mp member]
      exact ⟨_, List.mem_append_right _ (List.mem_singleton_self _), rfl, redeems.sameClient,
        redeems.sameResource⟩
  | @refreshed request now draws stored family scopes refreshes fresh =>
      rw [List.mem_singleton.mp member]
      have found : family ∈ store.families := Table.mem_of_get refreshes.familyFound
      exact ⟨service.extend now family, Table.mem_modify.mpr (Or.inr ⟨family, found, rfl, rfl⟩), rfl,
        refreshes.sameClient, refreshes.sameResource⟩
  | replayed replays => cases member
  | revoked => cases member

/-- The refresh token of a pair is stored and can be redeemed. -/
theorem issuance_refresh (effect : Effect service store event store' handed) {issuance : Issuance}
    (member : issuance ∈ handed.issuances) :
    ∃ row ∈ store'.refreshTokens, IssuedRefresh service issuance row ∧ row.IsLive := by
  cases effect with
  | idle => cases member
  | issued validated fresh => cases member
  | exchanged redeems freshFamily fresh =>
      rw [List.mem_singleton.mp member]
      exact ⟨_, List.mem_append_right _ (List.mem_singleton_self _), ⟨rfl, rfl, rfl⟩, rfl, rfl⟩
  | refreshed refreshes fresh =>
      rw [List.mem_singleton.mp member]
      exact ⟨_, List.mem_append_right _ (List.mem_singleton_self _), ⟨rfl, rfl, rfl⟩, rfl, rfl⟩
  | replayed replays => cases member
  | revoked => cases member

/-- The access token of a pair is stored, under a family that outlives it. -/
theorem issuance_access (effect : Effect service store event store' handed) {issuance : Issuance}
    (member : issuance ∈ handed.issuances) :
    event.now = issuance.issuedAt ∧
      ∃ row ∈ store'.accessTokens, IssuedAccess service issuance row ∧
        ∃ family ∈ store'.families, family.id = row.familyId ∧
          family.expiresAt = issuance.issuedAt + seconds service.config.refreshTokenTtlSeconds := by
  cases effect with
  | idle => cases member
  | issued validated fresh => cases member
  | exchanged redeems freshFamily fresh =>
      rw [List.mem_singleton.mp member]
      exact ⟨rfl, _, List.mem_append_right _ (List.mem_singleton_self _), ⟨rfl, rfl, rfl, rfl⟩, _,
        List.mem_append_right _ (List.mem_singleton_self _), rfl, rfl⟩
  | @refreshed request now draws stored family scopes refreshes fresh =>
      rw [List.mem_singleton.mp member]
      have found : family ∈ store.families := Table.mem_of_get refreshes.familyFound
      exact ⟨rfl, _, List.mem_append_right _ (List.mem_singleton_self _), ⟨rfl, rfl, rfl, rfl⟩, _,
        Table.mem_modify.mpr (Or.inr ⟨family, found, rfl, rfl⟩), rfl, rfl⟩
  | replayed replays => cases member
  | revoked => cases member

end Effect

/-! ## Every history -/

namespace OAuthService

variable {service : OAuthService}

theorem effect_run (service : OAuthService) (history : List Event) (event : Event) :
    Effect service (service.machine.run history) event
      (service.machine.run (history ++ [event]))
      (event.handed service (service.machine.run history)) := by
  rw [Machine.run_concat]
  exact event.effect service _

/-- Every stored code was handed out. -/
theorem code_granted (history : List Event) : ∀ row ∈ (service.machine.run history).codes,
    ∃ grant ∈ service.codeGrants history, GrantedCode service grant row := by
  induction history using List.reverseRecOn with
  | nil =>
      intro row member
      cases member
  | append_singleton history event induction =>
      intro row member
      rw [codeGrants_concat]
      rcases (service.effect_run history event).code_source member with
        ⟨old, oldMember, kept⟩ | ⟨grant, new, granted⟩
      · rcases induction old oldMember with ⟨grant, earlier, granted⟩
        exact ⟨grant, List.mem_append_left _ earlier, granted.trans kept⟩
      · exact ⟨grant, List.mem_append_right _ new, granted⟩

/-- Every stored access token was handed out. -/
theorem access_issued (history : List Event) : ∀ row ∈ (service.machine.run history).accessTokens,
    ∃ issuance ∈ service.issuances history, IssuedAccess service issuance row := by
  induction history using List.reverseRecOn with
  | nil =>
      intro row member
      cases member
  | append_singleton history event induction =>
      intro row member
      rw [issuances_concat]
      rcases (service.effect_run history event).access_source member with
        ⟨old, oldMember, kept⟩ | ⟨issuance, new, issued⟩
      · rcases induction old oldMember with ⟨issuance, earlier, issued⟩
        exact ⟨issuance, List.mem_append_left _ earlier, issued.of_kept kept⟩
      · exact ⟨issuance, List.mem_append_right _ new, issued⟩

/-- Every stored refresh token was handed out. -/
theorem refresh_issued (history : List Event) :
    ∀ row ∈ (service.machine.run history).refreshTokens,
      ∃ issuance ∈ service.issuances history, IssuedRefresh service issuance row := by
  induction history using List.reverseRecOn with
  | nil =>
      intro row member
      cases member
  | append_singleton history event induction =>
      intro row member
      rw [issuances_concat]
      rcases (service.effect_run history event).refresh_source member with
        ⟨old, oldMember, kept⟩ | ⟨issuance, new, issued⟩
      · rcases induction old oldMember with ⟨issuance, earlier, issued⟩
        exact ⟨issuance, List.mem_append_left _ earlier, issued.of_kept kept⟩
      · exact ⟨issuance, List.mem_append_right _ new, issued⟩

variable (service) in
/-- What every stored family has from the code it was created for. -/
structure FamilyRecorded (history : List Event) (family : OAuthTokenFamily) : Prop where
  drawn : family.id ∈ history.flatMap (·.drawnFamilies)
  subject : family.subject = subject
  generation : family.credentialGeneration = service.credentialGeneration
  resource : family.resource = service.config.resource

theorem validateTokenClient_resource {clientId resource : Text}
    (admitted : service.validateTokenClient clientId resource = .ok ()) :
    resource = service.config.resource := by
  rcases Outcome.bind_eq_ok.mp admitted with ⟨_, _, checked⟩
  exact Outcome.require_eq_ok.mp checked

theorem family_recorded (history : List Event) : ∀ family ∈ (service.machine.run history).families,
    service.FamilyRecorded history family := by
  induction history using List.reverseRecOn with
  | nil =>
      intro family member
      cases member
  | append_singleton history event induction =>
      intro family member
      rcases (service.effect_run history event).family_source member with
        ⟨old, oldMember, kept⟩ | ⟨request, stored, isExchange, redeems, rfl⟩
      · rcases induction old oldMember with ⟨drawn, subject, generation, resource⟩
        refine ⟨?_, kept.subject.trans subject, kept.generation.trans generation,
          kept.resource.trans resource⟩
        rw [kept.sameId, List.flatMap_append]
        exact List.mem_append_left _ drawn
      · rcases code_granted history stored (Table.mem_of_get redeems.found) with
          ⟨grant, _, granted⟩
        refine ⟨?_, granted.subject, rfl,
          redeems.sameResource.trans (validateTokenClient_resource redeems.admitted)⟩
        rw [List.flatMap_append]
        refine List.mem_append_right _ ?_
        simp [Event.drawnFamilies, isExchange, createdFamily, tokenFamily]

/-- Every pair was handed out for a family that some call drew. -/
theorem issuance_drawn (history : List Event) : ∀ issuance ∈ service.issuances history,
    ∃ id ∈ history.flatMap (·.drawnFamilies), issuance.family = some id := by
  induction history using List.reverseRecOn with
  | nil =>
      intro issuance member
      cases member
  | append_singleton history event induction =>
      intro issuance member
      rw [issuances_concat] at member
      rcases List.mem_append.mp member with earlier | new
      · rcases induction issuance earlier with ⟨id, drawn, same⟩
        rw [List.flatMap_append]
        exact ⟨id, List.mem_append_left _ drawn, same⟩
      · rcases (service.effect_run history event).issuance_family new with
          ⟨family, familyMember, same, _⟩
        exact ⟨family.id, (family_recorded _ family familyMember).drawn, same⟩

/-- A family keeps the client and the resource of every pair handed out for it. -/
theorem family_bound {history : List Event} (distinct : DistinctFamilies history) :
    ∀ family ∈ (service.machine.run history).families, ∀ issuance ∈ service.issuances history,
      issuance.family = some family.id →
      family.clientId = issuance.clientId ∧ family.resource = issuance.resource := by
  induction history using List.reverseRecOn with
  | nil =>
      intro family member
      cases member
  | append_singleton history event induction =>
      intro family member issuance issuanceMember same
      have effect := service.effect_run history event
      have nodup := (service.storeInvariant (history ++ [event])).families_nodup
      rw [issuances_concat] at issuanceMember
      rcases List.mem_append.mp issuanceMember with earlier | new
      · rcases effect.family_source member with
          ⟨old, oldMember, kept⟩ | ⟨request, stored, isExchange, _, rfl⟩
        · rw [kept.client, kept.resource]
          rw [kept.sameId] at same
          exact induction distinct.of_append old oldMember issuance earlier same
        · -- The id of a new family is not that of an earlier pair.
          rcases service.issuance_drawn history issuance earlier with ⟨id, drawn, sameId⟩
          have equal : id = event.draws.familyId := Option.some.inj (sameId.symm.trans same)
          refine absurd drawn (distinct.not_mem ?_)
          simp [Event.drawnFamilies, isExchange, equal]
      · rcases effect.issuance_family new with ⟨owner, ownerMember, sameOwner, client, resource⟩
        have equal : owner = family := List.inj_on_of_nodup_map nodup ownerMember member
          (Option.some.inj (sameOwner.symm.trans same))
        rw [← equal]
        exact ⟨client, resource⟩

/-! ## Credentials are told apart -/

theorem digest_injective (collisionFree : service.CollisionFree) (kind : Text) :
    Function.Injective (service.digest kind) := by
  intro left right equal
  have texts : kind ++ separator :: left = kind ++ separator :: right := collisionFree equal
  exact (List.cons.inj (List.append_cancel_left texts)).2

theorem rawTokens_sublist {store store' : OAuthStore} {event : Event} {handed : Handed}
    (effect : Effect service store event store' handed) :
    handed.rawTokens.Sublist event.drawnTokens := by
  cases effect with
  | idle => exact List.nil_sublist _
  | issued validated fresh => exact List.Sublist.refl _
  | exchanged redeems freshFamily fresh => exact List.Sublist.refl _
  | refreshed refreshes fresh => exact List.Sublist.refl _
  | replayed replays => exact List.nil_sublist _
  | revoked => exact List.nil_sublist _

/-- What is handed out was drawn, in the order in which it was drawn. -/
theorem ledger_tokens_sublist (history : List Event) :
    ((service.ledger history).flatMap Handed.rawTokens).Sublist
      (history.flatMap (·.drawnTokens)) := by
  induction history using List.reverseRecOn with
  | nil => exact List.Sublist.refl _
  | append_singleton history event induction =>
      rw [ledger_concat, List.flatMap_append, List.flatMap_append]
      refine induction.append ?_
      simpa using rawTokens_sublist (event.effect service _)

theorem length_of_drawn {event : Event} {token : Text} (drawn : token ∈ event.drawnTokens) :
    token.length = 43 := by
  unfold Event.drawnTokens at drawn
  split at drawn
  · rw [List.mem_singleton.mp drawn]
    exact event.draws.firstToken.length_eq
  · rcases List.mem_cons.mp drawn with rfl | drawn
    · exact event.draws.firstToken.length_eq
    · rw [List.mem_singleton.mp drawn]
      exact event.draws.secondToken.length_eq
  · rcases List.mem_cons.mp drawn with rfl | drawn
    · exact event.draws.firstToken.length_eq
    · rw [List.mem_singleton.mp drawn]
      exact event.draws.secondToken.length_eq
  · cases drawn

theorem ne_nil_of_handed {history : List Event} {handed : Handed} {token : Text}
    (member : handed ∈ service.ledger history) (inside : token ∈ handed.rawTokens) : token ≠ [] := by
  have drawn := (service.ledger_tokens_sublist history).subset
    (List.mem_flatMap.mpr ⟨handed, member, inside⟩)
  rcases List.mem_flatMap.mp drawn with ⟨event, _, drawnHere⟩
  have length := length_of_drawn drawnHere
  rintro rfl
  cases length

/-- A token is handed out once. -/
theorem handed_eq_of_token {history : List Event} (distinct : DistinctTokens history)
    {first second : Handed} (firstMember : first ∈ service.ledger history)
    (secondMember : second ∈ service.ledger history) (token : Text)
    (inFirst : token ∈ first.rawTokens) (inSecond : token ∈ second.rawTokens) :
    first = second := by
  have nodup := distinct.sublist (service.ledger_tokens_sublist history)
  have disjoint := (List.nodup_flatMap.mp nodup).2
  by_contra different
  have symmetric : Std.Symm (Function.onFun List.Disjoint Handed.rawTokens) :=
    ⟨fun _ _ apart => apart.symm⟩
  exact disjoint.forall firstMember secondMember different inFirst inSecond

/-- The two tokens of a pair differ. -/
theorem pair_distinct {history : List Event} (distinct : DistinctTokens history)
    {issuance : Issuance} (member : issuance ∈ service.issuances history) :
    issuance.pair.accessToken ≠ issuance.pair.refreshToken := by
  have nodup := distinct.sublist (service.ledger_tokens_sublist history)
  have own := (List.nodup_flatMap.mp nodup).1 _ (mem_issuances.mp member)
  simpa [Handed.rawTokens] using own

theorem issuance_eq_of_access {history : List Event} (distinct : DistinctTokens history)
    {first second : Issuance} (firstMember : first ∈ service.issuances history)
    (secondMember : second ∈ service.issuances history)
    (same : first.pair.accessToken = second.pair.accessToken) : first = second := by
  have equal := handed_eq_of_token distinct (mem_issuances.mp firstMember)
    (mem_issuances.mp secondMember) first.pair.accessToken (by simp [Handed.rawTokens])
    (by simp [Handed.rawTokens, same])
  exact Handed.tokens.inj equal

theorem issuance_eq_of_refresh {history : List Event} (distinct : DistinctTokens history)
    {first second : Issuance} (firstMember : first ∈ service.issuances history)
    (secondMember : second ∈ service.issuances history)
    (same : first.pair.refreshToken = second.pair.refreshToken) : first = second := by
  have equal := handed_eq_of_token distinct (mem_issuances.mp firstMember)
    (mem_issuances.mp secondMember) first.pair.refreshToken (by simp [Handed.rawTokens])
    (by simp [Handed.rawTokens, same])
  exact Handed.tokens.inj equal

end OAuthService

end RollingBudget.OAuth
