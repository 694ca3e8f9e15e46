import RollingBudget.OAuth.Redirects

namespace RollingBudget

open OAuth

/-! Bearer keys and owner secrets. Both are compared in constant time, and that comparison
raises for other than ASCII characters. -/

/-! ## Settings -/

inductive AccessLevel where
  | read
  | write
  | admin
deriving DecidableEq

def AccessLevel.value : AccessLevel → Nat
  | .read => 1
  | .write => 2
  | .admin => 3

/-- The API keys of settings that validate. -/
structure Settings where
  apiKey : Option Text
  budgetReadApiKey : Option Text
  budgetWriteApiKey : Option Text
  budgetAdminApiKey : Option Text
  lengths : ∀ key ∈ [apiKey, budgetReadApiKey, budgetWriteApiKey, budgetAdminApiKey].filterMap id,
    24 ≤ key.length
  configured : apiKey.isSome ∨
    budgetReadApiKey.isSome ∧ budgetWriteApiKey.isSome ∧ budgetAdminApiKey.isSome
  distinct :
    ([apiKey, budgetReadApiKey, budgetWriteApiKey, budgetAdminApiKey].filterMap id).Nodup

namespace Settings

variable (settings : Settings)

/-- The keys that are tried, in order. -/
def candidates : List (Option Text × AccessLevel) :=
  [ (settings.budgetAdminApiKey, .admin),
    (settings.budgetWriteApiKey, .write),
    (settings.budgetReadApiKey, .read),
    (settings.apiKey, .admin) ]

/-- The keys among them that are configured. -/
def keys : List Text := settings.candidates.filterMap Prod.fst

theorem keys_ne_nil : settings.keys ≠ [] := by
  intro none
  rw [keys, List.filterMap_eq_nil_iff] at none
  have admin := none (settings.budgetAdminApiKey, .admin) (by simp [candidates])
  have api := none (settings.apiKey, .admin) (by simp [candidates])
  rcases settings.configured with isSome | ⟨_, _, isSome⟩
  · rw [show settings.apiKey = Option.none from api] at isSome
    cases isSome
  · rw [show settings.budgetAdminApiKey = Option.none from admin] at isSome
    cases isSome

end Settings

/-! ## `require_access` -/

/-- `_provided_level`, one candidate after the other. The result is `none` when a comparison
raises. -/
def providedLevel (token : Text) : List (Option Text × AccessLevel) → Option (Option AccessLevel)
  | [] => some none
  | (none, _) :: candidates => providedLevel token candidates
  | (some configured, level) :: candidates => do
      let equal ← compareDigest token configured
      if equal then some (some level) else providedLevel token candidates

structure HTTPAuthorizationCredentials where
  scheme : Text
  credentials : Text
deriving DecidableEq

/-- How a check ends. -/
inductive AccessAnswer where
  | granted (level : AccessLevel)
  | httpException (statusCode : Nat) (detail : Text)
  | typeError
deriving DecidableEq

/-- The credentials of the bearer scheme, whatever its case. -/
def bearerCredentials (credentials : Option HTTPAuthorizationCredentials) :
    Option HTTPAuthorizationCredentials :=
  credentials.filter fun given => given.scheme.map Char.toLower = "bearer".toList

def requireAccess (minimum : AccessLevel) (credentials : Option HTTPAuthorizationCredentials)
    (settings : Settings) : AccessAnswer :=
  match bearerCredentials credentials with
  | none => .httpException 401 "A bearer API key is required".toList
  | some given =>
      match providedLevel given.credentials settings.candidates with
      | none => .typeError
      | some none => .httpException 401 "Invalid API key".toList
      | some (some level) =>
          if level.value < minimum.value then .httpException 403 "Insufficient access".toList
          else .granted level

/-! ## What a check decides -/

def isAsciiText (text : Text) : Bool := text.all Url.isAscii

theorem compareDigest_ascii {first second : Text} (firstAscii : isAsciiText first = true)
    (secondAscii : isAsciiText second = true) :
    compareDigest first second = some (decide (first = second)) :=
  if_pos ⟨firstAscii, secondAscii⟩

theorem compareDigest_eq_none {first second : Text}
    (outside : isAsciiText first = false ∨ isAsciiText second = false) :
    compareDigest first second = none := by
  apply if_neg
  rintro ⟨firstAscii, secondAscii⟩
  rcases outside with notFirst | notSecond
  · rw [isAsciiText, firstAscii] at notFirst
    cases notFirst
  · rw [isAsciiText, secondAscii] at notSecond
    cases notSecond

/-- A level is that of a key that is equal to the token. -/
theorem mem_of_providedLevel {token : Text} {candidates : List (Option Text × AccessLevel)}
    {level : AccessLevel} (provided : providedLevel token candidates = some (some level)) :
    (some token, level) ∈ candidates := by
  induction candidates with
  | nil => cases provided
  | cons candidate candidates induction =>
      rcases candidate with ⟨configured, own⟩
      cases configured with
      | none => exact List.mem_cons_of_mem _ (induction provided)
      | some configured =>
          rcases Option.bind_eq_some_iff.mp provided with ⟨equal, compared, provided⟩
          cases equal with
          | false => exact List.mem_cons_of_mem _ (induction provided)
          | true =>
              unfold compareDigest at compared
              split at compared
              · rw [Option.some.injEq, decide_eq_true_eq] at compared
                cases provided
                rw [compared]
                exact List.mem_cons_self
              · cases compared

/-- No comparison raises exactly when the token and the keys before the one that is equal to
it are ASCII. -/
theorem providedLevel_ne_none_iff {token : Text} {candidates : List (Option Text × AccessLevel)} :
    providedLevel token candidates ≠ none ↔
      candidates.filterMap Prod.fst = [] ∨ (isAsciiText token = true ∧
        ∀ key ∈ (candidates.filterMap Prod.fst).takeWhile (· ≠ token), isAsciiText key = true) := by
  induction candidates with
  | nil => simp [providedLevel]
  | cons candidate candidates induction =>
      rcases candidate with ⟨configured, level⟩
      cases configured with
      | none => exact induction
      | some configured =>
          have keys : ((some configured, level) :: candidates).filterMap Prod.fst =
              configured :: candidates.filterMap Prod.fst := rfl
          rw [keys, providedLevel]
          by_cases tokenAscii : isAsciiText token = true
          · by_cases configuredAscii : isAsciiText configured = true
            · rw [compareDigest_ascii tokenAscii configuredAscii]
              by_cases equal : configured = token
              · simp [equal, tokenAscii]
              · have different : ¬token = configured := fun same => equal same.symm
                have tried : (configured :: candidates.filterMap Prod.fst).takeWhile (· ≠ token) =
                    configured :: (candidates.filterMap Prod.fst).takeWhile (· ≠ token) := by
                  simp [equal]
                rw [tried, List.forall_mem_cons]
                simp only [different, decide_false, Option.bind_eq_bind, Option.bind_some,
                  Bool.false_eq_true, if_false, reduceCtorEq, false_or]
                rw [induction]
                constructor
                · rintro (none | rest)
                  · rw [none]
                    exact ⟨tokenAscii, configuredAscii, by simp⟩
                  · exact ⟨tokenAscii, configuredAscii, rest.2⟩
                · rintro ⟨_, _, rest⟩
                  exact Or.inr ⟨tokenAscii, rest⟩
            · rw [compareDigest_eq_none (Or.inr (Bool.eq_false_of_not_eq_true configuredAscii))]
              have different : configured ≠ token := by
                rintro rfl
                exact configuredAscii tokenAscii
              simp [different, configuredAscii]
          · rw [compareDigest_eq_none (Or.inl (Bool.eq_false_of_not_eq_true tokenAscii))]
            simp [tokenAscii]

/-- A check ends as it should: access is granted with the level of a key that is equal to the
string, if that level is high enough, or else the answer is 401 or 403. -/
def Decides (minimum : AccessLevel) (credentials : Option HTTPAuthorizationCredentials)
    (settings : Settings) : Prop :=
  (∃ given level, credentials = some given ∧
    requireAccess minimum credentials settings = .granted level ∧
    (some given.credentials, level) ∈ settings.candidates ∧ minimum.value ≤ level.value) ∨
  ∃ statusCode detail, requireAccess minimum credentials settings =
    .httpException statusCode detail ∧ (statusCode = 401 ∨ statusCode = 403)

/-- No comparison of a check meets other than ASCII characters. -/
def Comparable (credentials : Option HTTPAuthorizationCredentials) (settings : Settings) : Prop :=
  ∀ given, bearerCredentials credentials = some given →
    isAsciiText given.credentials = true ∧
      ∀ key ∈ settings.keys.takeWhile (· ≠ given.credentials), isAsciiText key = true

theorem decides_iff (minimum : AccessLevel) (credentials : Option HTTPAuthorizationCredentials)
    (settings : Settings) :
    Decides minimum credentials settings ↔ Comparable credentials settings := by
  unfold Decides Comparable requireAccess
  cases bearer : bearerCredentials credentials with
  | none =>
      constructor
      · intro _ given same
        cases same
      · intro _
        exact Or.inr ⟨401, _, rfl, Or.inl rfl⟩
  | some given =>
      have isGiven : credentials = some given := (Option.filter_eq_some_iff.mp bearer).1
      have comparable := @providedLevel_ne_none_iff given.credentials settings.candidates
      change _ ↔ settings.keys = [] ∨ (_ ∧ ∀ key ∈ settings.keys.takeWhile _, _) at comparable
      rw [or_iff_right settings.keys_ne_nil] at comparable
      dsimp only
      constructor
      · intro decided other same
        cases same
        apply comparable.mp
        intro raises
        rw [raises] at decided
        rcases decided with ⟨_, _, _, granted, _⟩ | ⟨_, _, refused, _⟩
        · cases granted
        · cases refused
      · intro ascii
        have provided := comparable.mpr (ascii given rfl)
        cases found : providedLevel given.credentials settings.candidates with
        | none => exact absurd found provided
        | some result =>
            cases result with
            | none => exact Or.inr ⟨401, _, rfl, Or.inl rfl⟩
            | some level =>
                dsimp only
                split
                · exact Or.inr ⟨403, _, rfl, Or.inr rfl⟩
                · next enough =>
                  exact Or.inl ⟨given, level, isGiven, rfl, mem_of_providedLevel found,
                    Nat.le_of_not_lt enough⟩

/-! ## Owner secrets -/

/-- The consent secrets that a configuration keeps: each once, none of them empty, and each of
at least 24 characters. -/
def acceptedSecrets (secrets : List Text) : Option (List Text) :=
  let unique := (secrets.filter (· ≠ [])).eraseDups
  if unique = [] ∨ ∃ secret ∈ unique, secret.length < 24 then none else some unique

/-- Every secret is compared, also after one that is equal. -/
theorem foldlM_compareDigest {candidate : Text} (candidateAscii : isAsciiText candidate = true)
    {secrets : List Text} (secretsAscii : ∀ secret ∈ secrets, isAsciiText secret = true)
    (found : Bool) :
    secrets.foldlM (fun found configured =>
        (compareDigest candidate configured).map (· || found)) found =
      some (found || decide (candidate ∈ secrets)) := by
  induction secrets generalizing found with
  | nil => simp
  | cons secret secrets induction =>
      rw [List.forall_mem_cons] at secretsAscii
      rw [List.foldlM_cons, compareDigest_ascii candidateAscii secretsAscii.1, Option.map_some,
        Option.bind_eq_bind, Option.bind_some, induction secretsAscii.2, Option.some.injEq]
      by_cases equal : candidate = secret
      · simp [equal]
      · simp [equal]

theorem foldlM_compareDigest_eq_none {candidate : Text} {secrets : List Text}
    (outside : ∃ secret ∈ secrets, isAsciiText candidate = false ∨ isAsciiText secret = false)
    (found : Bool) :
    secrets.foldlM (fun found configured =>
      (compareDigest candidate configured).map (· || found)) found = none := by
  induction secrets generalizing found with
  | nil =>
      rcases outside with ⟨_, member, _⟩
      cases member
  | cons secret secrets induction =>
      rw [List.foldlM_cons]
      cases compared : compareDigest candidate secret with
      | none => rfl
      | some equal =>
          rcases outside with ⟨other, member, notAscii⟩
          rcases List.mem_cons.mp member with rfl | later
          · rw [compareDigest_eq_none notAscii] at compared
            cases compared
          · exact induction ⟨other, later, notAscii⟩ _

theorem ownerSecretMatches_iff (router : Router) (candidate : Text) :
    router.ownerSecretMatches candidate = some (decide (candidate ∈ router.consentSecrets)) ↔
      isAsciiText candidate = true ∧
        ∀ secret ∈ router.consentSecrets, isAsciiText secret = true := by
  unfold Router.ownerSecretMatches
  constructor
  · intro decided
    by_contra outside
    have raises : ∃ secret ∈ router.consentSecrets,
        isAsciiText candidate = false ∨ isAsciiText secret = false := by
      by_cases candidateAscii : isAsciiText candidate = true
      · by_contra all
        apply outside
        refine ⟨candidateAscii, fun secret member => ?_⟩
        by_contra notAscii
        exact all ⟨secret, member, Or.inr (Bool.eq_false_of_not_eq_true notAscii)⟩
      · exact ⟨router.config.consentSecret, List.mem_cons_self,
          Or.inl (Bool.eq_false_of_not_eq_true candidateAscii)⟩
    rw [foldlM_compareDigest_eq_none raises] at decided
    cases decided
  · rintro ⟨candidateAscii, secretsAscii⟩
    rw [foldlM_compareDigest candidateAscii secretsAscii, Bool.false_or]

/-! ## The checks as a whole -/

/-- The checks decide their input exactly when no comparison meets other than ASCII
characters: for a bearer string these are the string and the keys that are tried before one is
equal to it, for an owner secret the submitted text and all the consent secrets. -/
theorem credential_checks_decide_iff (minimum : AccessLevel)
    (credentials : Option HTTPAuthorizationCredentials) (settings : Settings) (router : Router)
    (candidate : Text) :
    (Decides minimum credentials settings ↔ Comparable credentials settings) ∧
      (router.ownerSecretMatches candidate = some (decide (candidate ∈ router.consentSecrets)) ↔
        isAsciiText candidate = true ∧
          ∀ secret ∈ router.consentSecrets, isAsciiText secret = true) :=
  ⟨decides_iff minimum credentials settings, ownerSecretMatches_iff router candidate⟩

/-- Settings with one key. -/
def Sample.settings : Settings where
  apiKey := some (List.replicate 24 'k')
  budgetReadApiKey := none
  budgetWriteApiKey := none
  budgetAdminApiKey := none
  lengths := by decide
  configured := by decide
  distinct := by decide

/-- A letter with an accent makes both checks raise, for secrets that are accepted. -/
theorem credential_checks_raise :
    ¬Decides .read (some ⟨"Bearer".toList, [Char.ofNat 0xE9]⟩) Sample.settings ∧
      acceptedSecrets OAuth.Sample.router.consentSecrets =
        some OAuth.Sample.router.consentSecrets ∧
      OAuth.Sample.router.ownerSecretMatches [Char.ofNat 0xE9] = none := by
  refine ⟨?_, by decide +kernel, by decide +kernel⟩
  have raises : requireAccess .read (some ⟨"Bearer".toList, [Char.ofNat 0xE9]⟩) Sample.settings =
      .typeError := by
    decide +kernel
  unfold Decides
  rw [raises]
  rintro (⟨_, _, _, granted, _⟩ | ⟨_, _, refused, _⟩)
  · cases granted
  · cases refused

end RollingBudget
