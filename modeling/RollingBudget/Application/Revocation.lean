import RollingBudget.Application.HonestClient

namespace RollingBudget

open OAuth Outcome

/-! Revoking a token at the endpoint ends the access of everything that came with it. -/

namespace Application

variable (application : Application)

/-- A POST that asks to revoke the token, with whatever other fields. -/
structure Revokes (token : Text) (revocation : Arrival) : Prop where
  sent : ∃ contentType body, revocation.request = .revoke contentType body ∧
    revokeCall application.router.config contentType body = .ok (.revoke token)
  safe : application.requestSafety revocation = none

/-- The token is stored, as an access token or as a refresh token of the family. -/
def Belongs (state : ApplicationState) (token : Text) (id : Nat) : Prop :=
  state.store.familyOf (application.router.accessDigest token) = some id ∨
    application.router.refreshFamily state.store token = some id

variable {application} {before after : List Arrival} {revocation : Arrival}
  {token : Text} {id : Nat}

/-! ## The request -/

theorem events_of_revokes (revokes : application.Revokes token revocation)
    (state : ApplicationState) :
    application.oauthEvents state revocation =
      [⟨.revoke token, revocation.occasion.now, revocation.occasion.draws⟩] := by
  rcases revokes.sent with ⟨contentType, body, sent, read⟩
  unfold oauthEvents
  rw [revokes.safe]
  dsimp only
  rw [sent]
  dsimp only
  rw [read]
  rfl

theorem answer_of_revokes (revokes : application.Revokes token revocation)
    (state : ApplicationState) :
    (application.handle state revocation).2 = .token .revoked := by
  rcases revokes.sent with ⟨contentType, body, sent, read⟩
  rw [handle_answer revokes.safe]
  unfold respond
  rw [sent]
  dsimp only
  unfold Router.revokeToken
  rw [read]
  rfl

theorem oauthHistory_revoked (revokes : application.Revokes token revocation) :
    application.oauthHistory (before ++ [revocation]) = application.oauthHistory before ++
      [⟨.revoke token, revocation.occasion.now, revocation.occasion.draws⟩] := by
  unfold oauthHistory
  rw [Machine.collect_concat, events_of_revokes revokes]

/-! ## What it ends -/

theorem revoked_of_belongs (revokes : application.Revokes token revocation)
    (belongs : application.Belongs (application.machine.run before) token id) :
    (application.router.machine.run (application.oauthHistory (before ++ [revocation]))).Revoked
      id := by
  unfold Belongs at belongs
  rw [run_store] at belongs
  rw [oauthHistory_revoked revokes, Machine.run_concat]
  have invariant := application.router.storeInvariant (application.oauthHistory before)
  rcases revokes.sent with ⟨_, _, _, read⟩
  have filled := ne_nil_of_revokeCall read
  rcases belongs with access | refresh
  · rcases Option.map_eq_some_iff.mp access with ⟨row, found, rfl⟩
    exact OAuthService.revoke_revokes_access invariant filled found
  · rcases Option.map_eq_some_iff.mp refresh with ⟨row, found, rfl⟩
    exact OAuthService.revoke_revokes_refresh invariant filled found

/-- A tool that gets to an operation was given an access token. -/
theorem accessToken_of_operation {state : ApplicationState} {use : Arrival}
    {authorization : Option Text} {tool : Mcp.ToolCall} {operation : Operation}
    (sent : use.request = .tool authorization tool)
    (reached : application.operation state use = some operation) :
    ∃ given, application.accessToken state use.occasion authorization = some given := by
  unfold Application.operation at reached
  cases safe : application.requestSafety use with
  | some refusal =>
      rw [safe] at reached
      cases reached
  | none =>
      rw [safe] at reached
      dsimp only at reached
      unfold routed at reached
      rw [sent] at reached
      rcases Mcp.gate_of_admitted reached with ⟨passed, does⟩
      rcases Mcp.gate_eq_none_iff.mp passed _ (Mcp.ToolCall.scope_operation does) with
        ⟨given, presented, _⟩
      exact ⟨given, presented⟩

/-- A token that the backend lets through is stored, in a family that is not revoked. -/
theorem family_of_accessToken {state : ApplicationState} {occasion : Occasion}
    {authorization : Option Text} {given : Mcp.AccessToken}
    (presented : application.accessToken state occasion authorization = some given) :
    ∃ family ∈ state.store.families, family.revokedAt = none ∧
      state.store.familyOf (application.router.accessDigest given.token) = some family.id := by
  rcases application.backend.verified _ _ _ presented with ⟨text, verified⟩
  rcases Option.map_eq_some_iff.mp verified with ⟨view, accepted, rfl⟩
  rcases OAuthService.verifyAccessToken_eq_some_iff.mp accepted with
    ⟨access, family, verifies, _⟩
  refine ⟨family, Table.mem_of_get verifies.familyFound, verifies.familyUnrevoked, ?_⟩
  rw [OAuthStore.familyOf, verifies.found, Option.map_some]
  exact congrArg some (Table.key_of_get verifies.familyFound).symm

/-- A client that revokes one token of a family ends the whole family for good: whatever comes
later, a tool call that gets to an operation carries a token of another family. -/
theorem revocation_disconnects (application : Application) {before after : List Arrival}
    {revocation : Arrival} {token : Text} {id : Nat}
    (families : DistinctFamilies (application.oauthHistory (before ++ revocation :: after)))
    (revokes : application.Revokes token revocation)
    (belongs : application.Belongs (application.machine.run before) token id) :
    (application.handle (application.machine.run before) revocation).2 = .token .revoked ∧
      ∀ use authorization tool operation, use.request = .tool authorization tool →
        application.operation (application.machine.run (before ++ revocation :: after)) use =
          some operation →
        ∃ given other,
          application.accessToken (application.machine.run (before ++ revocation :: after))
            use.occasion authorization = some given ∧
          (application.machine.run (before ++ revocation :: after)).store.familyOf
            (application.router.accessDigest given.token) = some other ∧
          other ≠ id := by
  refine ⟨answer_of_revokes revokes _, ?_⟩
  intro use authorization tool operation sent reached
  rcases accessToken_of_operation sent reached with ⟨given, presented⟩
  rcases family_of_accessToken presented with ⟨family, member, unrevoked, owner⟩
  refine ⟨given, family.id, presented, owner, ?_⟩
  intro same
  have grows := application.machine.prefix_of_collect application.oauthEvents
    (before ++ [revocation]) after
  rw [List.append_assoc, List.singleton_append] at grows
  rcases grows with ⟨rest, whole⟩
  unfold oauthHistory at families
  rw [← whole] at families
  rw [run_store] at member
  unfold oauthHistory at member
  rw [← whole] at member
  exact OAuthService.revoked_persists families (revoked_of_belongs revokes belongs) family member
    same unrevoked

end Application

/-! ## A small revocation -/

namespace Sample

/-- The client says what kind of token it revokes, and not who it is. -/
def revocationFields : List (Text × Text) :=
  [ ("token".toList, (OAuth.Sample.token 'b').text),
    ("token_type_hint".toList, "access_token".toList) ]

def revoking : Arrival :=
  arrival (.revoke formType (encodeFields revocationFields)) 40 'g' 'h' 0

theorem revokeCall_revocationFields (config : OAuthConfig) :
    revokeCall config formType (encodeFields revocationFields) =
      .ok (.revoke (OAuth.Sample.token 'b').text) := by
  have names : revocationFields.map Prod.fst = ["token".toList, "token_type_hint".toList] := rfl
  have nodup : (revocationFields.map Prod.fst).Nodup := by
    rw [names]
    decide
  have client : formValue revocationFields "client_id".toList = none := by
    apply formValue_of_notMem
    rw [names]
    decide
  have resource : formValue revocationFields "resource".toList = none := by
    apply formValue_of_notMem
    rw [names]
    decide
  have form : readForm formType (encodeFields revocationFields) = .ok revocationFields :=
    readForm_encodeFields nodup (fits_of_drop (by decide +kernel))
  unfold revokeCall
  rw [mapError_eq_ok.mpr form, ok_bind, client, resource,
    required_of_value (formValue_of_mem nodup List.mem_cons_self) (by decide)]
  rfl

theorem revokes : connecting.Revokes (OAuth.Sample.token 'b').text revoking :=
  ⟨⟨_, _, rfl, revokeCall_revocationFields _⟩, rfl⟩

end Sample

namespace Application

theorem revocation_disconnects_reading :
    (Sample.connecting.handle (Sample.connecting.machine.run Sample.connected)
        Sample.revoking).2 = .token .revoked ∧
      ∀ operation, Sample.connecting.operation
          (Sample.connecting.machine.run (Sample.connected ++ [Sample.revoking])) Sample.reading ≠
        some operation := by
  have belongs : Sample.connecting.Belongs
      (Sample.connecting.machine.run Sample.connected) (OAuth.Sample.token 'b').text 7 := by
    unfold Belongs
    rw [run_store, Sample.calls]
    decide +kernel
  have families : DistinctFamilies
      (Sample.connecting.oauthHistory (Sample.connected ++ [Sample.revoking])) := by
    rw [oauthHistory_revoked Sample.revokes, Sample.calls]
    unfold DistinctFamilies
    decide +kernel
  have owner : (Sample.connecting.machine.run
      (Sample.connected ++ [Sample.revoking])).store.familyOf
        (Sample.connecting.router.accessDigest (OAuth.Sample.token 'b').text) = some 7 := by
    rw [run_store, oauthHistory_revoked Sample.revokes, Sample.calls]
    decide +kernel
  rcases revocation_disconnects Sample.connecting families Sample.revokes belongs with
    ⟨answer, disconnected⟩
  refine ⟨answer, fun operation reached => ?_⟩
  rcases disconnected Sample.reading _ _ operation rfl reached with
    ⟨given, other, presented, family, different⟩
  have carried := (Sample.authenticate_bearer _).symm.trans presented
  rcases Option.map_eq_some_iff.mp carried with ⟨view, _, rfl⟩
  exact different (Option.some.inj (family.symm.trans owner))

end Application

end RollingBudget
