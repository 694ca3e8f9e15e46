import RollingBudget.Configuration.Publishing
import RollingBudget.System.Invariant

namespace RollingBudget

open Sorting ConfigService ServiceError

/-! Configuration writes name the snapshot they were made against by its hash. Both
interfaces check it alike, and the hash covers every editable field. -/

variable {environment : Environment} {database committed : Database}

/-! ## Two interfaces, one write -/

/-- Errors that a client cannot tell apart by code and status. -/
def SameFailure (left right : ServiceError) : Prop :=
  left = right ∨ ∃ first second, left = .domain first ∧ right = .domain second ∧
    first.code = second.code ∧ first.statusCode = second.statusCode

/-- Both outcomes succeed alike or fail alike. -/
def SameOutcome {α : Type} (left right : Except ServiceError α) : Prop :=
  (∃ result, left = .ok result ∧ right = .ok result) ∨
    ∃ first second, left = .error first ∧ right = .error second ∧ SameFailure first second

theorem SameOutcome.refl {α : Type} (outcome : Except ServiceError α) :
    SameOutcome outcome outcome := by
  cases outcome with
  | error error => exact Or.inr ⟨error, error, rfl, rfl, Or.inl rfl⟩
  | ok result => exact Or.inl ⟨result, rfl, rfl⟩

theorem SameOutcome.bind {α β : Type} {left right : Except ServiceError α}
    {next next' : α → Except ServiceError β} (same : SameOutcome left right)
    (rest : ∀ value, SameOutcome (next value) (next' value)) :
    SameOutcome (left >>= next) (right >>= next') := by
  rcases same with ⟨result, rfl, rfl⟩ | ⟨first, second, rfl, rfl, failures⟩
  · exact rest result
  · exact Or.inr ⟨first, second, rfl, rfl, failures⟩

theorem checkBase_same (tables : ConfigTables) (token : Option Text) :
    SameOutcome (checkBase environment tables token false none)
      (checkBase environment tables none true token) := by
  unfold checkBase checkIfMatch checkExpectedBase
  simp only [Bool.false_eq_true, if_false, if_true]
  cases tables.pending.or tables.active with
  | none =>
      cases token with
      | none => exact SameOutcome.refl _
      | some text => exact Or.inr ⟨_, _, rfl, rfl, Or.inr ⟨_, _, rfl, rfl, rfl, rfl⟩⟩
  | some base =>
      cases token with
      | none => exact SameOutcome.refl _
      | some text => exact SameOutcome.refl _

theorem putConfig_same (clock : Clock) (database : Database) (raw : ConfigPutRequest)
    (token : Option Text) :
    SameOutcome (Event.outcome environment database ⟨.putConfig raw token, clock⟩)
      (Event.outcome environment database ⟨.putConfigChecked raw token, clock⟩) := by
  refine (SameOutcome.refl _).bind fun request => SameOutcome.bind ?_ fun _ => SameOutcome.refl _
  refine (SameOutcome.refl _).bind fun _ => (SameOutcome.refl _).bind fun _ => ?_
  exact (checkBase_same database.config token).bind fun _ => SameOutcome.refl _

/-! ## What a token stands for -/

/-- The snapshot that clients edit. -/
def InForce (tables : ConfigTables) (snapshot : ConfigPutRequest) : Prop :=
  ∃ base, tables.base = some base ∧ editableSnapshotForConfig tables base = .ok snapshot

theorem checkIfMatch_ok {tables : ConfigTables} {token : Option Text}
    (checked : checkBase environment tables token false none = .ok ()) :
    (tables.base = none ∧ token = none) ∨ ∃ base text, tables.base = some base ∧
      token = some text ∧ editHashForConfig environment tables base = .ok text.stripQuotes := by
  unfold checkBase checkIfMatch at checked
  rw [if_neg (by simp)] at checked
  unfold ConfigTables.base
  cases found : tables.pending.or tables.active with
  | none =>
      rw [found] at checked
      cases token with
      | none => exact Or.inl ⟨rfl, rfl⟩
      | some text => cases checked
  | some base =>
      rw [found] at checked
      cases token with
      | none => cases checked
      | some text =>
          dsimp only at checked
          rcases Outcome.bind_eq_ok.mp checked with ⟨hash, read, same⟩
          rw [Outcome.require_eq_ok] at same
          rw [← same] at read
          exact Or.inr ⟨base, text, rfl, rfl, read⟩

theorem ConfigInvariant.base_eq_none_iff {tables : ConfigTables}
    (invariant : ConfigInvariant environment tables) :
    tables.base = none ↔ tables.configVersions = [] := by
  unfold ConfigTables.base
  rw [Option.or_eq_none_iff]
  constructor
  · rintro ⟨_, noActive⟩
    exact invariant.shape.eq_nil_of_active_eq_none noActive
  · intro empty
    rw [ConfigTables.pending_eq_none_iff, ConfigTables.active_eq_none_iff, empty]
    simp

/-- A token that matches is the hash of the snapshot in force. -/
theorem ConfigInvariant.inForce_of_editHash {tables : ConfigTables}
    (invariant : ConfigInvariant environment tables)
    (injective : Function.Injective environment.sha256) {base : ConfigVersion}
    (found : tables.base = some base) {seen : ConfigPutRequest} (valid : seen.Valid)
    (read : editHashForConfig environment tables base =
      .ok (editHashForRequest environment seen)) :
    ∃ snapshot, InForce tables snapshot ∧ SameSnapshot seen snapshot := by
  have member := ConfigTables.base_mem found
  rw [invariant.wellFormed.editHash_eq member, Except.ok.injEq] at read
  exact ⟨snapshotOf tables base, ⟨base, found, invariant.wellFormed.editableSnapshot_eq member⟩,
    sameSnapshot_of_editHash_eq injective valid (invariant.wellFormed.snapshotOf_valid member)
      read.symm⟩

/-- Both interfaces guard a write alike, it succeeds only with the hash of the snapshot in
force, and so a snapshot a client read earlier is the one it overwrites. -/
theorem optimistic_locking (environment : Environment)
    (injective : Function.Injective environment.sha256) (history : List Event) (clock : Clock)
    (raw : ConfigPutRequest) (token : Option Text) :
    SameOutcome
        (Event.outcome environment ((service environment).run history) ⟨.putConfig raw token, clock⟩)
        (Event.outcome environment ((service environment).run history)
          ⟨.putConfigChecked raw token, clock⟩) ∧
      (∀ event error, Event.outcome environment ((service environment).run history) event =
          .error error →
        (service environment).run (history ++ [event]) = (service environment).run history) ∧
      ∀ committed response, Event.outcome environment ((service environment).run history)
          ⟨.putConfig raw token, clock⟩ = .ok (committed, response) →
        ((((service environment).run history).config.configVersions = [] ∧ token = none) ∨
          ∃ base text, ((service environment).run history).config.base = some base ∧
            token = some text ∧
            editHashForConfig environment ((service environment).run history).config base =
              .ok text.stripQuotes) ∧
        (∀ seen : ConfigPutRequest, seen.Valid →
          token.map Text.stripQuotes = some (editHashForRequest environment seen) →
            ∃ snapshot, InForce ((service environment).run history).config snapshot ∧
              SameSnapshot seen snapshot) ∧
        ∀ earlier later view, history = earlier ++ later →
          getConfig environment ((service environment).run earlier).config
            ((service environment).run earlier).syncState = .ok view →
          view.base.map ConfigVersionView.configHash = token.map Text.stripQuotes →
            (((service environment).run earlier).config.configVersions = [] ∧
              ((service environment).run history).config.configVersions = []) ∨
            ∃ seen snapshot, InForce ((service environment).run earlier).config seen ∧
              InForce ((service environment).run history).config snapshot ∧
              SameSnapshot seen snapshot := by
  have invariant := (invariant_run environment history).config
  refine ⟨putConfig_same clock _ raw token, ?_, ?_⟩
  · intro event error raised
    rw [Machine.run_concat]
    exact Event.next_of_error raised
  intro committed response completed
  cases Event.succeeds invariant completed with
  | putConfig validated result =>
    have checked := checkIfMatch_ok result.base
    have general : ∀ seen : ConfigPutRequest, seen.Valid →
        token.map Text.stripQuotes = some (editHashForRequest environment seen) →
          ∃ snapshot, InForce ((service environment).run history).config snapshot ∧
            SameSnapshot seen snapshot := by
      intro seen valid known
      rcases checked with ⟨_, rfl⟩ | ⟨base, text, found, rfl, read⟩
      · cases known
      · rw [Option.map_some, Option.some.injEq] at known
        rw [known] at read
        exact invariant.inForce_of_editHash injective found valid read
    refine ⟨?_, general, ?_⟩
    · rcases checked with ⟨none, rfl⟩ | matched
      · exact Or.inl ⟨invariant.base_eq_none_iff.mp none, rfl⟩
      · exact Or.inr matched
    · intro earlier later view _ read same
      have before := (invariant_run environment earlier).config
      rcases before.wellFormed.getConfig_ok ((service environment).run earlier).syncState with
        ⟨view', read', hashes⟩
      rw [read, Except.ok.injEq] at read'
      rw [← read', same] at hashes
      cases found : ((service environment).run earlier).config.base with
      | none =>
          rw [found, Option.map_none, Option.map_eq_none_iff] at hashes
          rcases checked with ⟨none, _⟩ | ⟨_, text, _, known, _⟩
          · exact Or.inl ⟨before.base_eq_none_iff.mp found, invariant.base_eq_none_iff.mp none⟩
          · rw [hashes] at known
            cases known
      | some base =>
          have member := ConfigTables.base_mem found
          rw [found, Option.map_some] at hashes
          rcases general _ (before.wellFormed.snapshotOf_valid member) hashes with
            ⟨snapshot, inForce, sameFields⟩
          exact Or.inr ⟨_, snapshot, ⟨base, found, before.wellFormed.editableSnapshot_eq member⟩,
            inForce, sameFields⟩

theorem optimistic_locking_weekly :
    ∃ snapshot, InForce ((service .transparent).run Sample.configured).config snapshot ∧
      SameSnapshot Sample.weekly snapshot := by
  have succeeds : (Event.outcome .transparent ((service .transparent).run Sample.configured)
      ⟨.putConfig Sample.weekly (some (editHashForRequest .transparent Sample.weekly)),
        Sample.clock⟩).isOk = true := by decide +kernel
  have valid : Sample.weekly.Valid := by decide +kernel
  rcases Outcome.exists_of_isOk succeeds with ⟨⟨committed, response⟩, completed⟩
  have locked := (optimistic_locking .transparent Function.injective_id Sample.configured
    Sample.clock Sample.weekly (some (editHashForRequest .transparent Sample.weekly))).2.2
      committed response completed
  exact locked.2.1 Sample.weekly valid (by decide +kernel)

/-! ## The hash a write returns -/

def returnedHash (view : ConfigView) : Option Text := view.base.map ConfigVersionView.configHash

/-- The hash of the editing base in a fresh session. -/
def freshHash (environment : Environment) (database : Database) :
    Except ServiceError (Option Text) := do
  let view ← getConfig environment database.config database.syncState
  pure (returnedHash view)

def NegativeZero (budget : Decimal) : Prop := budget.negative = true ∧ budget.coefficient = 0

/-- A write publishes at once unless its semantics differ from the active version's. -/
def StaysPending (environment : Environment) (tables : ConfigTables) (request : ConfigPutRequest) :
    Prop :=
  ∃ active, tables.active = some active ∧
    semanticHashForConfig environment tables active ≠ configHash environment request

theorem WellFormed.returnedHash_eq {tables : ConfigTables}
    (wellFormed : WellFormed environment tables) {syncState : Option SyncState}
    {view : ConfigView} (read : getConfig environment tables syncState = .ok view) :
    returnedHash view =
      tables.base.map fun config => editHashForRequest environment (snapshotOf tables config) := by
  rcases wellFormed.getConfig_ok syncState with ⟨view', read', hashes⟩
  rw [read, Except.ok.injEq] at read'
  rw [returnedHash, read', hashes]

theorem WellFormed.freshHash_eq (wellFormed : WellFormed environment database.config) :
    freshHash environment database = .ok (database.config.base.map fun config =>
      editHashForRequest environment (snapshotOf database.config config)) := by
  rcases wellFormed.getConfig_ok database.syncState with ⟨view, read, hashes⟩
  rw [freshHash, read, Outcome.ok_bind, returnedHash, hashes]
  rfl

/-- Whether the hash of the editing base survives the commit of the writing session. -/
theorem WriteCase.hash_survives_iff {clock : Clock} {tables session : ConfigTables}
    {request : ConfigPutRequest} (invariant : ConfigInvariant environment tables)
    (injective : Function.Injective environment.sha256) (accepted : Accepted environment request)
    (written : WriteCase environment clock tables request session) :
    ((commit environment session).base.map fun config =>
        editHashForRequest environment (snapshotOf (commit environment session) config)) =
      (session.base.map fun config =>
        editHashForRequest environment (snapshotOf session config)) ↔
      StaysPending environment tables request ∨
        ∀ item ∈ request.categories, ¬ NegativeZero item.budgetLimit := by
  have wellFormed := (written.keeps invariant accepted).wellFormed
  have sameBase : (commit environment session).base = session.base := rfl
  have semantic : ∀ active, tables.active = some active →
      semanticHashForConfig environment tables active = active.configHash := fun active found =>
    (invariant.wellFormed.sound active (ConfigTables.active_mem found).1).semanticHashForConfig_eq
  rcases written.published_or_pending invariant injective accepted with
    ⟨config, published⟩ | leftPending
  · have base : session.base = some config := by
      rw [ConfigTables.base, published.pending, published.active]
      rfl
    rcases ConfigTables.active_mem published.active with ⟨member, isActive⟩
    have notPending : config.status ≠ .pending := by simp [isActive]
    have nodup : (assembled session config).keys.Nodup :=
      (wellFormed.assembled_valid member).uniqueKeys
    have stored : editHashForRequest environment (assembled (commit environment session) config) =
        editHashForRequest environment (assembled session config) ↔ _ :=
      editHash_reloaded_iff injective nodup rfl rfl rfl (perm_assembled_commit session config)
    rw [sameBase, base, Option.map_some, Option.map_some, Option.some.injEq, snapshotOf, snapshotOf,
      if_neg notPending, if_neg notPending, stored]
    constructor
    · intro same
      refine Or.inr fun item itemMember negativeZero => ?_
      have admitted := (accepted.valid.categories item itemMember).budgetLimit
      have positive := (Money.quantize_reload_eq_iff environment.dialect admitted).mp
        (same item (published.snapshot.mem_iff.mpr itemMember))
      exact absurd (positive.symm.trans negativeZero.1) Bool.false_ne_true
    · rintro (⟨active, found, different⟩ | noNegativeZero) item itemMember
      · rw [semantic active found] at different
        exact absurd (published.same active found) different
      · have requested := published.snapshot.mem_iff.mp itemMember
        have admitted := (accepted.valid.categories item requested).budgetLimit
        refine (Money.quantize_reload_eq_iff environment.dialect admitted).mpr ?_
        rw [← Bool.not_eq_true]
        exact fun negative => noNegativeZero item requested ⟨negative, admitted.1 negative⟩
  · rcases leftPending.pending with ⟨pending, found⟩
    rcases leftPending.active with ⟨active, activeFound, _, different⟩
    have base : session.base = some pending := by
      rw [ConfigTables.base, found]
      rfl
    have isPending := (ConfigTables.pending_mem found).2
    rw [sameBase, base, Option.map_some, Option.map_some, snapshotOf, snapshotOf, if_pos isPending,
      if_pos isPending]
    refine iff_of_true rfl (Or.inl ⟨active, activeFound, ?_⟩)
    rw [semantic active activeFound]
    exact different

/-- The hash a successful write returns is what a fresh session reads, unless the write
publishes a negative zero: the writing session keeps its sign and the column drops it. -/
theorem returned_hash_iff (environment : Environment)
    (injective : Function.Injective environment.sha256) (history : List Event) (clock : Clock)
    (raw request : ConfigPutRequest) (token : Option Text) (call : Call)
    (isWrite : call = .putConfig raw token ∨ call = .putConfigChecked raw token)
    (validated : raw.validate = some request) (committed : Database) (view : ConfigView)
    (completed : Event.outcome environment ((service environment).run history) ⟨call, clock⟩ =
      .ok (committed, .config view)) :
    freshHash environment committed = .ok (returnedHash view) ↔
      StaysPending environment ((service environment).run history).config request ∨
        ∀ item ∈ request.categories, ¬ NegativeZero item.budgetLimit := by
  have invariant := (invariant_run environment history).config
  rcases Event.put_result invariant isWrite validated completed with
    ⟨_, _, _, written, session, sameView, result⟩
  cases sameView
  have wellFormed := (result.written.keeps invariant result.accepted).wellFormed
  have committedConfig : committed.config = commit environment session := by
    rw [result.committed]
  have fresh : WellFormed environment committed.config := by
    rw [committedConfig]
    exact wellFormed.commit
  rw [fresh.freshHash_eq, wellFormed.returnedHash_eq result.view, committedConfig,
    Except.ok.injEq]
  exact result.written.hash_survives_iff invariant injective result.accepted

theorem returned_hash_iff_weekly : ∃ committed view,
    Event.outcome .transparent ((service .transparent).run [])
        ⟨.putConfig Sample.weekly none, Sample.clock⟩ = .ok (committed, .config view) ∧
      freshHash .transparent committed = .ok (returnedHash view) := by
  have succeeds : (Event.outcome .transparent ((service .transparent).run [])
      ⟨.putConfig Sample.weekly none, Sample.clock⟩).isOk = true := by decide +kernel
  rcases Outcome.exists_of_isOk succeeds with ⟨⟨committed, response⟩, completed⟩
  cases Event.succeeds (invariant_run .transparent []).config completed with
  | putConfig validated result =>
    refine ⟨_, _, completed, (returned_hash_iff .transparent Function.injective_id []
      Sample.clock Sample.weekly Sample.weekly none _ (Or.inl rfl) (by decide +kernel) _ _
      completed).mpr (Or.inr ?_)⟩
    intro item member negativeZero
    rw [List.mem_singleton.mp member] at negativeZero
    cases negativeZero.1

/-- A first configuration with a budget of negative zero. -/
theorem returned_hash_negative_zero : ∃ committed view,
    Event.outcome .transparent Database.empty
        ⟨.putConfig (Sample.request ⟨true, 0, 0⟩ 7) none, Sample.clock⟩ =
      .ok (committed, .config view) ∧
      freshHash .transparent committed ≠ .ok (returnedHash view) := by
  have differs : (match Event.outcome .transparent Database.empty
        ⟨.putConfig (Sample.request ⟨true, 0, 0⟩ 7) none, Sample.clock⟩ with
      | .ok (committed, .config view) =>
          decide (freshHash .transparent committed ≠ .ok (returnedHash view))
      | _ => false) = true := by decide +kernel
  split at differs
  · next committed view completed =>
    exact ⟨committed, view, completed, of_decide_eq_true differs⟩
  · cases differs

end RollingBudget
