import RollingBudget.OAuth.Scopes

namespace RollingBudget.OAuth

/-! Authorization codes. The first attempt that presents everything a code is bound to,
before the code expires, is the one that redeems it. -/

/-- The call is an attempt to redeem the code that meets all its bindings in time. -/
structure Matches (service : OAuthService) (grant : CodeGrant) (event : Event)
    (request : ExchangeRequest) : Prop where
  call : event.call = .exchangeAuthorizationCode request
  code : request.code = grant.code
  client : request.clientId = grant.request.clientId
  redirect : request.redirectUri = grant.request.redirectUri
  resource : request.resource = grant.request.resource
  verifier : OAuthService.IsVerifier request.codeVerifier
  challenge : service.cryptography.s256 request.codeVerifier = grant.request.codeChallenge
  intime : event.now < grant.issuedAt + seconds service.config.authorizationCodeTtlSeconds

/-- Every stored row of the code has been consumed. -/
def OAuthStore.Spent (store : OAuthStore) (digest : Text) : Prop :=
  ∀ row ∈ store.codes, row.codeDigest = digest → row.consumedAt ≠ none

namespace OAuthService

variable {service : OAuthService} {history : List Event} {event : Event} {grant : CodeGrant}

/-! ## Spent for good -/

theorem drawn_of_granted (granted : grant ∈ service.codeGrants history) :
    grant.code ∈ history.flatMap (·.drawnTokens) := by
  apply (service.ledger_tokens_sublist history).subset
  exact List.mem_flatMap.mpr ⟨_, mem_codeGrants.mp granted, by simp [Handed.rawTokens]⟩

/-- A spent code stays spent, for its text is not drawn again. -/
theorem spent_step (collisionFree : service.CollisionFree)
    (tokens : DistinctTokens (history ++ [event])) {code : Text}
    (drawn : code ∈ history.flatMap (·.drawnTokens))
    (spent : (service.machine.run history).Spent (service.codeDigest code)) :
    (service.machine.run (history ++ [event])).Spent (service.codeDigest code) := by
  intro row member sameDigest
  rcases (service.effect_run history event).code_source member with
    ⟨old, oldMember, kept⟩ | ⟨grant, new, granted⟩
  · exact kept.consumed (spent old oldMember (kept.digest.symm.trans sameDigest))
  · have sameCode : grant.code = code := by
      apply service.digest_injective collisionFree "authorization-code".toList
      exact granted.digest.symm.trans sameDigest
    have drawnNow : code ∈ event.drawnTokens := by
      apply (rawTokens_sublist (event.effect service (service.machine.run history))).subset
      rw [← sameCode]
      cases found : event.handed service (service.machine.run history) with
      | code other =>
          rw [found] at new
          rw [List.mem_singleton.mp new]
          exact List.mem_singleton_self _
      | nothing =>
          rw [found] at new
          cases new
      | tokens issuance =>
          rw [found] at new
          cases new
    exact absurd drawn (tokens.not_mem drawnNow)

/-- A code that a pair was handed out for is spent. -/
theorem spent_of_issued (collisionFree : service.CollisionFree)
    (tokens : DistinctTokens history) {code : Text} :
    ∀ issuance ∈ service.issuances history, issuance.grant = .authorizationCode code →
      code ∈ history.flatMap (·.drawnTokens) ∧
        (service.machine.run history).Spent (service.codeDigest code) := by
  induction history using List.reverseRecOn with
  | nil =>
      intro issuance member
      cases member
  | append_singleton history event induction =>
      intro issuance member isExchange
      rw [issuances_concat] at member
      rcases List.mem_append.mp member with earlier | new
      · rcases induction tokens.of_append issuance earlier isExchange with ⟨drawn, spent⟩
        refine ⟨?_, spent_step collisionFree tokens drawn spent⟩
        rw [List.flatMap_append]
        exact List.mem_append_left _ drawn
      · have effect := service.effect_run history event
        generalize service.machine.run (history ++ [event]) = store' at effect ⊢
        generalize event.handed service (service.machine.run history) = handed at effect new
        cases effect with
        | idle => cases new
        | issued validated fresh => cases new
        | @exchanged request now draws stored redeems freshFamily fresh =>
            rw [List.mem_singleton.mp new] at isExchange
            cases isExchange
            rcases service.code_granted history stored (Table.mem_of_get redeems.found) with
              ⟨grant, granted, kept⟩
            have sameCode : grant.code = request.code := by
              apply service.digest_injective collisionFree "authorization-code".toList
              exact kept.digest.symm.trans (Table.key_of_get redeems.found)
            constructor
            · rw [List.flatMap_append, ← sameCode]
              exact List.mem_append_left _ (drawn_of_granted granted)
            · intro row member sameDigest
              rcases Table.mem_modify.mp member with ⟨_, elsewhere⟩ | ⟨_, _, _, rfl⟩
              · exact absurd (sameDigest.trans (Table.key_of_get redeems.found).symm) elsewhere
              · exact Option.some_ne_none now
        | refreshed refreshes fresh =>
            rw [List.mem_singleton.mp new] at isExchange
            cases isExchange
        | replayed replays => cases new
        | revoked => cases new

/-- At most one pair is handed out for a code. -/
theorem one_pair_per_code (collisionFree : service.CollisionFree)
    (tokens : DistinctTokens history) (code : Text) :
    (service.issuances history).Pairwise fun first second =>
      ¬(first.grant = .authorizationCode code ∧ second.grant = .authorizationCode code) := by
  induction history using List.reverseRecOn with
  | nil => exact List.Pairwise.nil
  | append_singleton history event induction =>
      rw [issuances_concat, List.pairwise_append]
      refine ⟨induction tokens.of_append, ?_, ?_⟩
      · cases event.handed service (service.machine.run history) with
        | nothing => exact List.Pairwise.nil
        | code grant => exact List.Pairwise.nil
        | tokens issuance => exact List.pairwise_singleton _ issuance
      · rintro first firstMember second secondMember ⟨firstGrant, secondGrant⟩
        have spent := (spent_of_issued collisionFree tokens.of_append first firstMember firstGrant).2
        have effect := event.effect service (service.machine.run history)
        generalize event.next service (service.machine.run history) = store' at effect
        generalize event.handed service (service.machine.run history) = handed at effect secondMember
        cases effect with
        | idle => cases secondMember
        | issued validated fresh => cases secondMember
        | exchanged redeems freshFamily fresh =>
            rw [List.mem_singleton.mp secondMember] at secondGrant
            cases secondGrant
            exact spent _ (Table.mem_of_get redeems.found) (Table.key_of_get redeems.found)
              redeems.unconsumed
        | refreshed refreshes fresh =>
            rw [List.mem_singleton.mp secondMember] at secondGrant
            cases secondGrant
        | replayed replays => cases secondMember
        | revoked => cases secondMember

/-! ## Usable until redeemed -/

variable (service) in
/-- The row of a code as it was handed out. -/
def issuedRow (grant : CodeGrant) : OAuthAuthorizationCode :=
  service.authorizationCode grant.issuedAt grant.request grant.code

/-- A code stays as it was handed out until it expires or an attempt matches it. -/
theorem usable_step (collisionFree : service.CollisionFree) {store store' : OAuthStore}
    {handed : Handed} (effect : Effect service store event store' handed)
    (invariant : StoreInvariant store) (stored : service.issuedRow grant ∈ store.codes)
    (intime : event.now < grant.issuedAt + seconds service.config.authorizationCodeTtlSeconds)
    (unmatched : ∀ request, ¬Matches service grant event request) :
    service.issuedRow grant ∈ store'.codes := by
  cases effect with
  | idle => exact stored
  | issued validated fresh =>
      refine List.mem_append_left _ (List.mem_filter.mpr ⟨stored, ?_⟩)
      exact decide_eq_true (Nat.not_lt.mpr intime.le)
  | @exchanged request now draws row redeems freshFamily fresh =>
      refine Table.mem_modify.mpr (Or.inl ⟨stored, fun sameDigest => ?_⟩)
      have equal : service.issuedRow grant = row :=
        List.inj_on_of_nodup_map invariant.codes_nodup stored (Table.mem_of_get redeems.found)
          sameDigest
      have digests : service.codeDigest request.code = service.codeDigest grant.code :=
        (Table.key_of_get redeems.found).symm.trans sameDigest.symm
      refine unmatched request ⟨rfl, service.digest_injective collisionFree _ digests, ?_, ?_, ?_,
        redeems.verifier, ?_, intime⟩
      · rw [← redeems.sameClient, ← equal]
        rfl
      · rw [← redeems.sameRedirect, ← equal]
        rfl
      · rw [← redeems.sameResource, ← equal]
        rfl
      · rw [redeems.challenge, ← equal]
        rfl
  | refreshed refreshes fresh => exact stored
  | replayed replays => exact stored
  | revoked =>
      rw [(Effect.revoke_source service store _ _).1]
      exact stored

/-- What a call draws is not among what is stored. -/
theorem fresh_of_distinct (collisionFree : service.CollisionFree)
    (tokens : DistinctTokens (history ++ [event])) (families : DistinctFamilies (history ++ [event]))
    {request : ExchangeRequest} (call : event.call = .exchangeAuthorizationCode request) :
    (service.machine.run history).findFamily event.draws.familyId = none ∧
      service.FreshTokens (service.machine.run history) event.draws := by
  have unseen : ∀ handed ∈ service.ledger history, ∀ token ∈ event.drawnTokens,
      token ∉ handed.rawTokens := by
    intro handed member token drawn inside
    refine tokens.not_mem drawn ((service.ledger_tokens_sublist history).subset ?_)
    exact List.mem_flatMap.mpr ⟨handed, member, inside⟩
  refine ⟨?_, ?_, ?_⟩
  · refine Table.get_eq_none_iff.mpr fun family member same => ?_
    refine families.not_mem ?_ (service.family_recorded history family member).drawn
    simp [Event.drawnFamilies, call, same]
  · refine Table.get_eq_none_iff.mpr fun row member same => ?_
    rcases service.access_issued history row member with ⟨issuance, issued, rowOf⟩
    have sameToken : issuance.pair.accessToken = event.draws.firstToken.text := by
      apply service.digest_injective collisionFree "access-token".toList
      exact rowOf.digest.symm.trans same
    exact unseen _ (mem_issuances.mp issued) event.draws.firstToken.text
      (by simp [Event.drawnTokens, call]) (by simp [Handed.rawTokens, sameToken])
  · refine Table.get_eq_none_iff.mpr fun row member same => ?_
    rcases service.refresh_issued history row member with ⟨issuance, issued, rowOf⟩
    have sameToken : issuance.pair.refreshToken = event.draws.secondToken.text := by
      apply service.digest_injective collisionFree "refresh-token".toList
      exact rowOf.digest.symm.trans same
    exact unseen _ (mem_issuances.mp issued) event.draws.secondToken.text
      (by simp [Event.drawnTokens, call]) (by simp [Handed.rawTokens, sameToken])

theorem redirect_of_validated {request : AuthorizationRequest}
    (validated : service.validateAuthorizationRequest request = .ok ()) :
    validateChatgptClient request.clientId request.redirectUri = .ok () ∧
      request.resource = service.config.resource := by
  rcases Outcome.bind_eq_ok.mp validated with ⟨_, client, validated⟩
  rcases Outcome.bind_eq_ok.mp validated with ⟨_, resource, _⟩
  exact ⟨Outcome.mapError_eq_ok.mp client, Outcome.require_eq_ok.mp resource⟩

/-- An attempt that matches a usable code redeems it. -/
theorem redeems_of_matches (history : List Event)
    (granted : grant ∈ service.codeGrants history) {attempt : Event}
    (stored : service.issuedRow grant ∈ (service.machine.run history).codes)
    {request : ExchangeRequest} (matched : Matches service grant attempt request) :
    service.Redeems (service.machine.run history) attempt.now request
      (service.issuedRow grant) := by
  have invariant := service.storeInvariant history
  rcases redirect_of_validated (service.grant_validated history grant granted) with
    ⟨redirect, resource⟩
  constructor
  · refine Outcome.bind_eq_ok.mpr ⟨(), Outcome.mapError_eq_ok.mpr ?_, ?_⟩
    · rw [matched.client]
      exact validateChatgptClientId_of_client redirect
    · exact Outcome.require_of (matched.resource.trans resource)
  · rw [matched.client, matched.redirect]
    exact redirect
  · exact matched.verifier
  · refine (Table.get_eq_some_iff invariant.codes_nodup).mpr ⟨stored, ?_⟩
    rw [matched.code]
    rfl
  · rfl
  · exact matched.intime
  · rfl
  · exact matched.client.symm
  · exact matched.redirect.symm
  · exact matched.resource.symm
  · exact matched.challenge

theorem exchange_isOk_iff {request : ExchangeRequest} {attempt : Event} {store : OAuthStore}
    (call : attempt.call = .exchangeAuthorizationCode request) :
    (attempt.outcome service store).isOk ↔
      (service.exchangeAuthorizationCode store attempt.now attempt.draws request).isOk := by
  unfold Event.outcome
  rw [call]
  dsimp only
  cases service.exchangeAuthorizationCode store attempt.now attempt.draws request with
  | error raised => exact Iff.rfl
  | ok result => exact Iff.rfl

theorem handed_of_exchange {request : ExchangeRequest} {attempt : Event} {store : OAuthStore}
    (call : attempt.call = .exchangeAuthorizationCode request)
    (succeeded : (attempt.outcome service store).isOk) :
    ∃ issuance, attempt.handed service store = .tokens issuance ∧
      issuance.grant = .authorizationCode request.code := by
  rcases attempt with ⟨_, now, draws⟩
  cases call
  rcases Outcome.exists_of_isOk succeeded with ⟨⟨committed, response⟩, completed⟩
  have answer := Event.response_of_ok completed
  rcases Outcome.bind_eq_ok.mp completed with ⟨⟨after, pair⟩, _, finished⟩
  cases finished
  simp only [Event.handed, answer]
  exact ⟨_, rfl, rfl⟩

/-! ## The first matching attempt -/

/-- What holds of the calls between the hand-out of a code and an attempt on it. -/
structure Attempted (service : OAuthService) (before : List Event) (issue : Event)
    (grant : CodeGrant) (middle : List Event) (attempt : Event) (request : ExchangeRequest) :
    Prop where
  handed : issue.handed service (service.machine.run before) = .code grant
  tokens : DistinctTokens (before ++ issue :: middle ++ [attempt])
  families : DistinctFamilies (before ++ issue :: middle ++ [attempt])
  clock : Chronological (before ++ issue :: middle ++ [attempt])
  call : attempt.call = .exchangeAuthorizationCode request
  code : request.code = grant.code

namespace Attempted

variable {before middle : List Event} {issue attempt : Event} {request : ExchangeRequest}

theorem granted (attempted : Attempted service before issue grant middle attempt request) :
    grant ∈ service.codeGrants (before ++ issue :: middle) :=
  mem_codeGrants.mpr (mem_ledger_iff.mpr ⟨before, issue, middle, rfl, attempted.handed.symm⟩)

/-- The row of the code right after it has been handed out. -/
theorem inserted (attempted : Attempted service before issue grant middle attempt request) :
    service.issuedRow grant ∈ (service.machine.run (before ++ [issue])).codes := by
  have effect := service.effect_run before issue
  rw [attempted.handed] at effect
  generalize service.machine.run (before ++ [issue]) = store' at effect ⊢
  cases effect with
  | issued validated fresh => exact List.mem_append_right _ (List.mem_singleton_self _)

/-- Without an earlier match the code is still usable when a matching attempt is made. -/
theorem usable (collisionFree : service.CollisionFree)
    (attempted : Attempted service before issue grant middle attempt request)
    (intime : attempt.now < grant.issuedAt + seconds service.config.authorizationCodeTtlSeconds)
    (unmatched : ∀ earlier ∈ middle, ∀ other, ¬Matches service grant earlier other) :
    service.issuedRow grant ∈ (service.machine.run (before ++ issue :: middle)).codes := by
  have split : before ++ issue :: middle = (before ++ [issue]) ++ middle := by simp
  rw [split]
  refine service.machine.run_after (fun store => service.issuedRow grant ∈ store.codes)
    attempted.inserted ?_
  intro done event isPrefix stored
  have inside : event ∈ middle := isPrefix.subset (by simp)
  have order : event.now ≤ attempt.now := attempted.clock.le (by simp [inside])
  exact usable_step collisionFree (event.effect service _) (service.storeInvariant _) stored
    (order.trans_lt intime) (unmatched event inside)

/-- The first matching attempt succeeds. -/
theorem succeeds (collisionFree : service.CollisionFree)
    (attempted : Attempted service before issue grant middle attempt request)
    (matched : Matches service grant attempt request)
    (unmatched : ∀ earlier ∈ middle, ∀ other, ¬Matches service grant earlier other) :
    (attempt.outcome service (service.machine.run (before ++ issue :: middle))).isOk := by
  have stored := attempted.usable collisionFree matched.intime unmatched
  rcases fresh_of_distinct collisionFree attempted.tokens attempted.families attempted.call with
    ⟨freshFamily, fresh⟩
  have redeems := redeems_of_matches _ attempted.granted stored matched
  rw [exchange_isOk_iff attempted.call,
    exchangeAuthorizationCode_eq_ok_iff.mpr ⟨_, redeems, freshFamily, fresh, rfl⟩]
  rfl

/-- An attempt that succeeds matches the code. -/
theorem matches_of_isOk (collisionFree : service.CollisionFree)
    (attempted : Attempted service before issue grant middle attempt request)
    (succeeded : (attempt.outcome service (service.machine.run (before ++ issue :: middle))).isOk) :
    Matches service grant attempt request := by
  rw [exchange_isOk_iff attempted.call] at succeeded
  rcases Outcome.exists_of_isOk succeeded with ⟨result, completed⟩
  rcases exchangeAuthorizationCode_eq_ok_iff.mp completed with ⟨stored, redeems, _⟩
  rcases service.code_granted _ stored (Table.mem_of_get redeems.found) with ⟨other, granted, kept⟩
  have sameCode : other.code = grant.code := by
    rw [← attempted.code]
    apply service.digest_injective collisionFree "authorization-code".toList
    exact kept.digest.symm.trans (Table.key_of_get redeems.found)
  have equal := handed_eq_of_token attempted.tokens.of_append (mem_codeGrants.mp granted)
    (mem_codeGrants.mp attempted.granted) grant.code (by simp [Handed.rawTokens, sameCode])
    (by simp [Handed.rawTokens])
  cases equal
  refine ⟨attempted.call, attempted.code, ?_, ?_, ?_, redeems.verifier, ?_, ?_⟩
  · exact redeems.sameClient.symm.trans kept.client
  · exact redeems.sameRedirect.symm.trans kept.redirect
  · exact redeems.sameResource.symm.trans kept.resource
  · exact redeems.challenge.trans kept.challenge
  · exact redeems.unexpired.trans_eq kept.expiry

/-- An attempt that succeeds is not preceded by one that matches. -/
theorem unmatched_of_isOk (collisionFree : service.CollisionFree)
    (attempted : Attempted service before issue grant middle attempt request)
    (succeeded : (attempt.outcome service (service.machine.run (before ++ issue :: middle))).isOk) :
    ∀ earlier ∈ middle, ∀ other, ¬Matches service grant earlier other := by
  classical
  by_contra! matched
  rcases matched with ⟨event, inside, other, matches_⟩
  -- The first of the matching attempts would have redeemed the code.
  have found : (middle.find? fun earlier => ∃ other, Matches service grant earlier other).isSome :=
    List.find?_isSome.mpr ⟨event, inside, decide_eq_true ⟨other, matches_⟩⟩
  rcases Option.isSome_iff_exists.mp found with ⟨first, found⟩
  rcases List.find?_eq_some_iff_append.mp found with ⟨firstMatches, done, rest, rfl, noneEarlier⟩
  rcases of_decide_eq_true firstMatches with ⟨firstRequest, firstMatches⟩
  have whole : before ++ issue :: (done ++ first :: rest) ++ [attempt] =
      (before ++ issue :: done ++ [first]) ++ (rest ++ [attempt]) := by simp
  have firstAttempted : Attempted service before issue grant done first firstRequest :=
    ⟨attempted.handed, (whole ▸ attempted.tokens).of_append, (whole ▸ attempted.families).of_append,
      (whole ▸ attempted.clock).of_append, firstMatches.call, firstMatches.code⟩
  have noneBefore : ∀ earlier ∈ done, ∀ other, ¬Matches service grant earlier other := by
    intro earlier member
    simpa using noneEarlier earlier member
  have redeemed := firstAttempted.succeeds collisionFree firstMatches noneBefore
  rcases handed_of_exchange firstMatches.call redeemed with ⟨issuance, handed, ofCode⟩
  have issued : issuance ∈ service.issuances (before ++ issue :: (done ++ first :: rest)) :=
    mem_issuances.mpr (mem_ledger_iff.mpr
      ⟨before ++ issue :: done, first, rest, by simp, handed.symm⟩)
  rw [firstMatches.code] at ofCode
  have spent := (spent_of_issued collisionFree attempted.tokens.of_append issuance issued ofCode).2
  rw [exchange_isOk_iff attempted.call] at succeeded
  rcases Outcome.exists_of_isOk succeeded with ⟨result, completed⟩
  rcases exchangeAuthorizationCode_eq_ok_iff.mp completed with ⟨stored, redeems, _⟩
  refine spent stored (Table.mem_of_get redeems.found) ?_ redeems.unconsumed
  rw [← attempted.code]
  exact Table.key_of_get redeems.found

end Attempted

/-- Of the attempts on a code exactly the first one that matches it in time succeeds, and
at most one pair is ever handed out for it. -/
theorem codes_single_use (collisionFree : service.CollisionFree) (history : List Event)
    (tokens : DistinctTokens history) (families : DistinctFamilies history)
    (clock : Chronological history) (before after : List Event) (issue : Event) (grant : CodeGrant)
    (split : history = before ++ issue :: after)
    (handed : issue.handed service (service.machine.run before) = .code grant) :
    (∀ middle attempt rest request, after = middle ++ attempt :: rest →
      attempt.call = .exchangeAuthorizationCode request → request.code = grant.code →
        ((attempt.outcome service (service.machine.run (before ++ issue :: middle))).isOk ↔
          Matches service grant attempt request ∧
            ∀ earlier ∈ middle, ∀ other, ¬Matches service grant earlier other)) ∧
    (service.issuances history).Pairwise fun first second =>
      ¬(first.grant = .authorizationCode grant.code ∧
        second.grant = .authorizationCode grant.code) := by
  subst split
  refine ⟨?_, one_pair_per_code collisionFree tokens grant.code⟩
  rintro middle attempt rest request rfl call code
  have whole : before ++ issue :: (middle ++ attempt :: rest) =
      (before ++ issue :: middle ++ [attempt]) ++ rest := by simp
  have attempted : Attempted service before issue grant middle attempt request :=
    ⟨handed, (whole ▸ tokens).of_append, (whole ▸ families).of_append, (whole ▸ clock).of_append,
      call, code⟩
  constructor
  · intro succeeded
    exact ⟨attempted.matches_of_isOk collisionFree succeeded,
      attempted.unmatched_of_isOk collisionFree succeeded⟩
  · rintro ⟨matched, unmatched⟩
    exact attempted.succeeds collisionFree matched unmatched

/-- A code of the small history, with the attempt that redeems it. -/
theorem codes_single_use_refreshing :
    let issue := Sample.event (.issueAuthorizationCode Sample.request) 0 'a' 'a' 0
    let attempt := Sample.event
      (.exchangeAuthorizationCode (Sample.exchange (Sample.token 'a').text)) 10 'b' 'c' 7
    let grant : CodeGrant := ⟨Sample.request, (Sample.token 'a').text, seconds 0⟩
    (attempt.outcome Sample.service (Sample.service.machine.run ([] ++ issue :: []))).isOk ∧
      ((attempt.outcome Sample.service (Sample.service.machine.run ([] ++ issue :: []))).isOk ↔
        Matches Sample.service grant attempt (Sample.exchange (Sample.token 'a').text) ∧
          ∀ earlier ∈ ([] : List Event), ∀ other,
            ¬Matches Sample.service grant earlier other) := by
  intro issue attempt grant
  refine ⟨by decide +kernel, (codes_single_use Sample.collisionFree Sample.refreshing ?_ ?_ ?_ []
    [attempt, _] issue grant rfl ?_).1 [] attempt [_] _ rfl rfl rfl⟩
  · unfold DistinctTokens
    decide +kernel
  · unfold DistinctFamilies
    decide +kernel
  · unfold Chronological
    decide +kernel
  · decide +kernel

end OAuthService

end RollingBudget.OAuth
