import RollingBudget.System.Invariant

namespace RollingBudget

open Sorting ServiceError RefreshService

/-! The three-step protocol over whole histories: what an open run has received and what
a committed run published, and that every step can be repeated. -/

variable {environment : Environment} {database committed : Database} {event : Event}

/-! ## Uploads and commits -/

/-- The checksum of a committed run is the chain of its batch checksums in index order,
however the batches are listed. -/
theorem CommittedRun.checksum_of_perm {run : RefreshRun} {rows : RunRows}
    (intact : CommittedRun environment run rows) {ordered : List RefreshBatch}
    (perm : ordered.Perm rows.batches)
    (indices : ordered.map RefreshBatch.batchIndex = List.range run.receivedBatchCount) :
    run.computedChecksum =
      some (environment.checksumChain (ordered.map RefreshBatch.checksum)) := by
  have increasing : ordered.Pairwise fun left right => left.batchIndex ≤ right.batchIndex := by
    rw [← List.pairwise_map (f := RefreshBatch.batchIndex), indices]
    exact List.pairwise_le_range
  have nodup : (ordered.map RefreshBatch.batchIndex).Nodup := by
    rw [indices]
    exact List.nodup_range
  have sortedBatches : sortedOn RefreshBatch.batchIndex rows.batches = ordered := by
    rw [← sortedOn_eq_of_perm RefreshBatch.batchIndex perm nodup]
    exact increasing.insertionSort_eq
  rw [intact.checksum, sortedBatches]

/-- In every reachable state the counters, batches and staged rows of an open run agree,
and a committed run is complete. -/
theorem runs_intact (environment : Environment) (history : List Event) :
    ∀ run ∈ ((service environment).run history).refresh.refreshRuns,
      (run.state = .created ∨ run.state = .uploaded ∨ run.state = .committed) ∧
        ∃ target, ((service environment).run history).config.configVersion run.configVersionId =
            some target ∧
          (run.state ≠ .committed → OpenRun ((service environment).run history).config run target
            (((service environment).run history).refresh.rowsOf run.id)) ∧
          (run.state = .committed →
            CommittedRun environment run
                (((service environment).run history).refresh.rowsOf run.id) ∧
              (∀ ordered : List RefreshBatch,
                ordered.Perm (((service environment).run history).refresh.batchesOf run.id) →
                ordered.map RefreshBatch.batchIndex = List.range run.receivedBatchCount →
                  run.computedChecksum =
                    some (environment.checksumChain (ordered.map RefreshBatch.checksum))) ∧
              (run.mode = .full →
                ∀ row ∈ enabledRules ((service environment).run history).config target.id,
                  run.sourceFromDate.ordinal + (row.rule.lookbackDays - 1) ≤
                    run.sourceToDate.ordinal)) := by
  intro run member
  have sound := (invariant_run environment history).refresh.runs run member
  rcases sound.bound with ⟨target, bound, opened⟩
  refine ⟨sound.state, target, bound.found, opened, fun isCommitted => ?_⟩
  have intact := sound.committed isCommitted
  exact ⟨intact, fun ordered perm indices => intact.checksum_of_perm perm indices, bound.window⟩

/-- One run is committed and the next one uploaded, each with one batch. -/
theorem runs_intact_rebuilding : ∃ first second target,
    let database := (service .transparent).run
      (Sample.rebuilding Sample.purchase Sample.purchase)
    database.refresh.run 1 = some first ∧ first.receivedBatchCount = 1 ∧
      CommittedRun .transparent first (database.refresh.rowsOf first.id) ∧
      database.refresh.run 2 = some second ∧ second.receivedBatchCount = 1 ∧
      OpenRun database.config second target (database.refresh.rowsOf second.id) := by
  have states : (((service .transparent).run
        (Sample.rebuilding Sample.purchase Sample.purchase)).refresh.run 1).map
        (fun run => (run.state, run.receivedBatchCount)) = some (.committed, 1) ∧
      (((service .transparent).run
        (Sample.rebuilding Sample.purchase Sample.purchase)).refresh.run 2).map
        (fun run => (run.state, run.receivedBatchCount)) = some (.uploaded, 1) := by
    decide +kernel
  rcases Option.map_eq_some_iff.mp states.1 with ⟨first, firstFound, isCommitted⟩
  rcases Option.map_eq_some_iff.mp states.2 with ⟨second, secondFound, isUploaded⟩
  rw [Prod.mk.injEq] at isCommitted isUploaded
  rcases runs_intact .transparent (Sample.rebuilding Sample.purchase Sample.purchase) first
    (Table.mem_of_get firstFound) with ⟨_, _, _, _, committed⟩
  rcases runs_intact .transparent (Sample.rebuilding Sample.purchase Sample.purchase) second
    (Table.mem_of_get secondFound) with ⟨_, target, _, opened, _⟩
  exact ⟨first, second, target, firstFound, isCommitted.2, (committed isCommitted.1).1,
    secondFound, isUploaded.2, opened (by simp [isUploaded.1])⟩

/-! ## Retries -/

/-- A call raises a `DomainError`. -/
def Refused {α : Type} (outcome : Except ServiceError α) : Prop :=
  ∃ error, outcome = .error (.domain error)

theorem refused_domain {α : Type} (error : DomainError) :
    Refused (.error (.domain error) : Except ServiceError α) :=
  ⟨error, rfl⟩

theorem Refused.bind {α β : Type} {first : Except ServiceError α}
    {next : α → Except ServiceError β} (refused : Refused first) : Refused (first >>= next) := by
  rcases refused with ⟨error, raised⟩
  rw [raised]
  exact ⟨error, rfl⟩

theorem refused_require {α : Type} {condition : Prop} [Decidable condition] {error : DomainError}
    {next : Unit → Except ServiceError α} (passed : condition → Refused (next ())) :
    Refused (require condition (.domain error) >>= next) := by
  by_cases holds : condition
  · rw [Outcome.require_of holds, Outcome.ok_bind]
    exact passed holds
  · unfold require
    rw [if_neg holds]
    exact (refused_domain error).bind

/-- A call that succeeded may be repeated at any later state: with an equal request it
changes nothing and answers the same, with a different one it is refused. -/
def RetrySafe {Request : Type} (environment : Environment) (history : List Event)
    (call : Request → Call) (validate : Request → Option Request)
    (same : Response → Response → Prop) : Prop :=
  ∀ (clock : Clock) (raw request : Request) (committed : Database) (response : Response),
    validate raw = some request →
    Event.outcome environment ((service environment).run history) ⟨call raw, clock⟩ =
      .ok (committed, response) →
    ∀ (continuation : List Event) (clock' : Clock) (raw' request' : Request),
      validate raw' = some request' →
      (request' = request → ∃ again,
        Event.outcome environment
            ((service environment).run (history ++ ⟨call raw, clock⟩ :: continuation))
            ⟨call raw', clock'⟩ =
          .ok ((service environment).run (history ++ ⟨call raw, clock⟩ :: continuation), again) ∧
        same response again) ∧
      (request' ≠ request → Refused (Event.outcome environment
        ((service environment).run (history ++ ⟨call raw, clock⟩ :: continuation))
        ⟨call raw', clock'⟩))

/-- The run and the config version of a begin. -/
def SameBegin : Response → Response → Prop
  | .begun first, .begun again =>
      again.runId = first.runId ∧ again.mode = first.mode ∧
        again.configVersionId = first.configVersionId ∧ again.configVersion = first.configVersion
  | _, _ => False

/-- The batch of an upload, marked as replayed. -/
def SameBatch : Response → Response → Prop
  | .batch first, .batch again =>
      again.runId = first.runId ∧ again.batchIndex = first.batchIndex ∧
        again.itemCount = first.itemCount ∧ again.replayed = true
  | _, _ => False

/-- The counts, the time and the receipt of a commit. -/
def SameCommit : Response → Response → Prop
  | .run first, .run again =>
      again.batchCount = first.batchCount ∧ again.itemCount = first.itemCount ∧
        again.committedAt = first.committedAt ∧ again.receipt = first.receipt
  | _, _ => False

theorem grows_after {history : List Event} {response : Response}
    (completed : event.outcome environment ((service environment).run history) =
      .ok (committed, response)) (continuation : List Event) :
    committed.Extends ((service environment).run (history ++ event :: continuation)) := by
  have grows := extends_run environment (history ++ [event]) continuation
  rw [Machine.run_concat, List.append_assoc, List.singleton_append] at grows
  have reached : (service environment).step ((service environment).run history) event = committed :=
    Event.next_of_ok completed
  rw [reached] at grows
  exact grows

/-! ### `begin_refresh` -/

section Begin

variable {clock : Clock} {request : RefreshBeginRequest} {idempotencyKey : Text}
  {maxBatchItems maxRequestBytes : Nat} {response : RefreshBeginResponse}

/-- Whether it was new or not, a begin leaves its run under its key. -/
theorem BeginCase.found (wellFormed : WellFormed environment database.config)
    (begun : BeginCase environment clock database request idempotencyKey maxBatchItems
      maxRequestBytes committed response) :
    ∃ run config,
      Table.get RefreshRun.idempotencyKey committed.refresh.refreshRuns idempotencyKey = some run ∧
        run.requestHash = environment.sha256Hex request.toJson ∧
        committed.config.configVersion run.configVersionId = some config ∧
        response = beginResponse committed.config run config maxBatchItems maxRequestBytes := by
  cases begun with
  | replay existing config found hash configFound result answer =>
      rw [result]
      exact ⟨existing, config, found, hash, configFound, answer⟩
  | new target missing begun result answer =>
      rw [result]
      refine ⟨newRun environment clock database request idempotencyKey target, target, ?_, rfl,
        wellFormed.find_version begun.mem_target, answer⟩
      refine (Table.get_append_of_none _ missing).trans ?_
      simp [Table.get, newRun]

theorem retrySafe_begin (injective : Function.Injective environment.sha256)
    (history : List Event) (idempotencyKey : Text) (maxBatchItems maxRequestBytes : Nat) :
    RetrySafe environment history
      (fun raw => .beginRefresh raw idempotencyKey maxBatchItems maxRequestBytes)
      RefreshBeginRequest.validate SameBegin := by
  intro clock raw request committed response validated completed continuation clock' raw' request'
    validated'
  have invariant := invariant_run environment history
  have succeeds := Event.succeeds invariant.config completed
  have grows := grows_after completed continuation
  cases succeeds with
  | beginRefresh sameValidated begun =>
    rw [validated] at sameValidated
    cases sameValidated
    rcases begun.found invariant.config.wellFormed with ⟨run, config, found, hash, configFound, answer⟩
    rcases grows.refresh.runByKey found with ⟨run', found', same⟩
    rcases grows.config.configVersion configFound with ⟨config', configFound', sameConfig⟩
    rw [← RefreshRun.configVersionId_of_frozen same] at configFound'
    rw [← RefreshRun.requestHash_of_frozen same] at hash
    unfold Event.outcome
    dsimp only
    rw [validated', Outcome.orRaise_some, Outcome.ok_bind]
    unfold beginRefresh
    rw [found']
    dsimp only
    refine ⟨?_, ?_⟩
    · rintro rfl
      rw [Outcome.require_of hash, Outcome.ok_bind, configFound', Outcome.orRaise_some,
        Outcome.ok_bind]
      refine ⟨_, rfl, ?_⟩
      rw [answer]
      exact ⟨RefreshRun.id_of_frozen same, (congrArg RefreshRun.mode same :),
        ConfigVersion.id_of_frozen sameConfig, ConfigVersion.version_of_frozen sameConfig⟩
    · intro different
      refine Refused.bind (refused_require fun sameHash => absurd ?_ different)
      rw [hash] at sameHash
      exact (RefreshBeginRequest.eq_of_dumps_eq
        (Environment.dumps_eq_of_sha256Hex_eq injective sameHash)).symm

end Begin

/-! ### `upload_batch` -/

section Upload

variable {clock : Clock} {request : RefreshBatchRequest} {runId index : Nat}
  {response : RefreshBatchResponse}

/-- Whether it was new or not, an upload leaves its batch at its index. -/
theorem UploadCase.found
    (uploaded : UploadCase environment clock database runId index request committed response) :
    ∃ run batch, committed.refresh.run runId = some run ∧
      committed.refresh.batch runId index = some batch ∧
      batch.requestHash = environment.sha256Hex request.toJson ∧
      batch.checksum = itemsChecksum environment request ∧
      response.runId = batch.runId ∧ response.batchIndex = batch.batchIndex ∧
      response.itemCount = batch.itemCount := by
  have grows := uploaded.grows
  cases uploaded with
  | replay run existing runFound found hash checksum result answer =>
      rw [result, answer]
      exact ⟨run, existing, runFound, found, hash, checksum, rfl, rfl, rfl⟩
  | new run config runId_eq uploaded result answer =>
      rcases grows.run uploaded.runFound with ⟨run', found', _, _⟩
      rw [← runId_eq, answer]
      refine ⟨run', newBatch environment run index request, found', ?_, rfl, rfl, rfl, rfl, rfl⟩
      rw [result]
      refine (Table.get_append_of_none _ uploaded.free).trans ?_
      simp [Table.get, newBatch]

theorem retrySafe_upload (injective : Function.Injective environment.sha256)
    (history : List Event) (runId : Nat) (batchIndex : Int)
    (maxBatchItems maxRequestBytes : Nat) :
    RetrySafe environment history
      (fun raw => .uploadBatch runId batchIndex raw maxBatchItems maxRequestBytes)
      RefreshBatchRequest.validate SameBatch := by
  intro clock raw request committed response validated completed continuation clock' raw' request'
    validated'
  have invariant := invariant_run environment history
  have succeeds := Event.succeeds invariant.config completed
  have grows := grows_after completed continuation
  cases succeeds with
  | uploadBatch sameValidated limits uploaded =>
    rw [validated] at sameValidated
    cases sameValidated
    rcases uploaded.found with ⟨run, batch, runFound, found, hash, checksum, answer⟩
    rcases grows.refresh.run runFound with ⟨run', runFound', _, _⟩
    have found' := grows.refresh.batch found
    unfold Event.outcome
    dsimp only
    rw [validated', Outcome.orRaise_some, Outcome.ok_bind]
    unfold uploadBatch
    refine ⟨?_, ?_⟩
    · rintro rfl
      rw [Outcome.require_of limits.index, Outcome.ok_bind, Outcome.require_of limits.items,
        Outcome.ok_bind, Outcome.require_of limits.bytes, Outcome.ok_bind, runFound',
        Outcome.orRaise_some, Outcome.ok_bind, found']
      dsimp only
      rw [Outcome.require_of ⟨hash, checksum⟩, Outcome.ok_bind]
      exact ⟨_, rfl, answer.1.symm, answer.2.1.symm, answer.2.2.symm, rfl⟩
    · intro different
      refine Refused.bind (refused_require fun _ => refused_require fun _ =>
        refused_require fun _ => ?_)
      rw [runFound', Outcome.orRaise_some, Outcome.ok_bind, found']
      dsimp only
      refine refused_require fun sameContent => absurd ?_ different
      have sameHash := sameContent.1
      rw [hash] at sameHash
      exact (RefreshBatchRequest.eq_of_dumps_eq
        (Environment.dumps_eq_of_sha256Hex_eq injective sameHash)).symm

end Upload

/-! ### `commit_refresh` -/

section Commit

variable {clock : Clock} {request : RefreshCommitRequest} {runId : Nat} {view : RefreshRunView}

/-- Whether it was new or not, a commit leaves its run committed with its completion data. -/
theorem CommitCase.found (valid : request.Valid)
    (commitCase : CommitCase environment clock database runId request committed view) :
    ∃ run, committed.refresh.run runId = some run ∧ run.state = .committed ∧
      run.expectedBatchCount = some request.expectedBatchCount ∧
      sorted (run.completedAccounts.getD []) = request.completedAccounts ∧
      view = runView environment run := by
  cases commitCase with
  | replay run found state count accounts result answer =>
      rw [result]
      exact ⟨run, found, state, count, accounts, answer⟩
  | new run config tables ledger runId_eq published answer =>
      rw [← runId_eq]
      exact ⟨_, published.runAfter, rfl, rfl, valid.sorted_accounts, answer⟩

theorem retrySafe_commit (environment : Environment) (history : List Event) (runId : Nat) :
    RetrySafe environment history (.commitRefresh runId) RefreshCommitRequest.validate
      SameCommit := by
  intro clock raw request committed response validated completed continuation clock' raw' request'
    validated'
  have invariant := invariant_run environment history
  have succeeds := Event.succeeds invariant.config completed
  have grows := grows_after completed continuation
  cases succeeds with
  | commitRefresh sameValidated commitCase =>
    rw [validated] at sameValidated
    cases sameValidated
    have valid := RefreshCommitRequest.valid_of_validate validated
    rcases commitCase.found valid with ⟨run, found, state, count, accounts, answer⟩
    rcases grows.refresh.run found with ⟨run', found', _, kept⟩
    rw [kept state] at found'
    unfold Event.outcome
    dsimp only
    rw [validated', Outcome.orRaise_some, Outcome.ok_bind]
    unfold commitRefresh
    rw [found', Outcome.orRaise_some, Outcome.ok_bind, if_pos state]
    refine ⟨?_, ?_⟩
    · rintro rfl
      rw [Outcome.require_of ⟨count, accounts⟩, Outcome.ok_bind]
      refine ⟨_, rfl, ?_⟩
      rw [answer]
      exact ⟨rfl, rfl, rfl, rfl⟩
    · intro different
      refine Refused.bind (refused_require fun same => absurd ?_ different)
      rw [count, accounts, Option.some.injEq] at same
      cases request
      cases request'
      rw [RefreshCommitRequest.mk.injEq]
      exact ⟨same.1.symm, same.2.symm⟩

end Commit

/-- Every step of the protocol can be repeated in every later state. -/
theorem retry_safe (environment : Environment) (injective : Function.Injective environment.sha256)
    (history : List Event) :
    (∀ idempotencyKey maxBatchItems maxRequestBytes, RetrySafe environment history
        (fun raw => .beginRefresh raw idempotencyKey maxBatchItems maxRequestBytes)
        RefreshBeginRequest.validate SameBegin) ∧
      (∀ runId batchIndex maxBatchItems maxRequestBytes, RetrySafe environment history
        (fun raw => .uploadBatch runId batchIndex raw maxBatchItems maxRequestBytes)
        RefreshBatchRequest.validate SameBatch) ∧
      ∀ runId, RetrySafe environment history (.commitRefresh runId)
        RefreshCommitRequest.validate SameCommit :=
  ⟨retrySafe_begin injective history, retrySafe_upload injective history,
    retrySafe_commit environment history⟩

/-- After the run of the month and one incremental run, the upload and the commit of the month
are repeated, and the upload once more with another transaction. -/
theorem retry_safe_resumed :
    let begun := Sample.configured ++ [Sample.monthBegin]
    let rest := Sample.incremental 2 "second" [Sample.posted]
    let database := (service .transparent).run
      (begun ++ Sample.publish 1 [Sample.authorized] ++ rest)
    ∀ upload commit, Sample.publish 1 [Sample.authorized] = [upload, commit] →
      (∃ first again, SameBatch first again ∧
        Event.outcome .transparent database upload = .ok (database, again)) ∧
      (∃ first again, SameCommit first again ∧
        Event.outcome .transparent database commit = .ok (database, again)) ∧
      Refused (Event.outcome .transparent database
        ⟨.uploadBatch 1 0 ⟨"batch-00".toList, [Sample.posted]⟩ 10 1000000, Sample.clock⟩) := by
  intro begun rest database upload commit same
  cases same
  have safe := fun history => retry_safe .transparent Function.injective_id history
  have uploads : (Event.outcome .transparent ((service .transparent).run begun)
      ⟨.uploadBatch 1 0 ⟨"batch-00".toList, [Sample.authorized]⟩ 10 1000000,
        Sample.clock⟩).isOk = true := by decide +kernel
  have commits : (Event.outcome .transparent ((service .transparent).run (begun ++
      [⟨.uploadBatch 1 0 ⟨"batch-00".toList, [Sample.authorized]⟩ 10 1000000, Sample.clock⟩]))
      ⟨.commitRefresh 1 ⟨1, ["checking".toList]⟩, Sample.clock⟩).isOk = true := by
    decide +kernel
  have valid : (⟨"batch-00".toList, [Sample.authorized]⟩ : RefreshBatchRequest).validate =
      some ⟨"batch-00".toList, [Sample.authorized]⟩ := by decide +kernel
  have valid' : (⟨"batch-00".toList, [Sample.posted]⟩ : RefreshBatchRequest).validate =
      some ⟨"batch-00".toList, [Sample.posted]⟩ := by decide +kernel
  have validCommit : (⟨1, ["checking".toList]⟩ : RefreshCommitRequest).validate =
      some ⟨1, ["checking".toList]⟩ := by decide +kernel
  rcases Outcome.exists_of_isOk uploads with ⟨⟨_, uploaded⟩, uploadCompleted⟩
  rcases Outcome.exists_of_isOk commits with ⟨⟨_, committed⟩, commitCompleted⟩
  have retried := (safe begun).2.1 _ _ _ _ _ _ _ _ _ valid uploadCompleted
    (⟨.commitRefresh 1 ⟨1, ["checking".toList]⟩, Sample.clock⟩ :: rest) Sample.clock
  have recommitted := ((safe _).2.2 _ _ _ _ _ _ validCommit commitCompleted rest Sample.clock _ _
    validCommit).1 rfl
  have whole : database = (service .transparent).run (begun ++
      ⟨.uploadBatch 1 0 ⟨"batch-00".toList, [Sample.authorized]⟩ 10 1000000, Sample.clock⟩ ::
        ⟨.commitRefresh 1 ⟨1, ["checking".toList]⟩, Sample.clock⟩ :: rest) := by
    show (service .transparent).run (_ ++ _ ++ _) = _
    rw [List.append_assoc]
    rfl
  rw [List.append_assoc, List.singleton_append, ← whole] at recommitted
  rw [← whole] at retried
  rcases (retried _ _ valid).1 rfl with ⟨again, repeated, same⟩
  rcases recommitted with ⟨againCommitted, repeatedCommit, sameCommit⟩
  exact ⟨⟨uploaded, again, same, repeated⟩, ⟨committed, againCommitted, sameCommit, repeatedCommit⟩,
    (retried _ _ valid').2 (by decide +kernel)⟩

end RollingBudget
