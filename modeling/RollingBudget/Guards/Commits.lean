import RollingBudget.Guards.Activation
import RollingBudget.Guards.Publishing
import RollingBudget.System.Invariant

namespace RollingBudget

open SingleUser Sorting ServiceError ConfigService RefreshService Flushes

/-! Every write of `commit_refresh` passes its guards, and the database ends up as the call
commits it. -/

variable {environment : Environment} {clock : Clock} {database : Database}
  {run : RefreshRun} {config : ConfigVersion} {request : RefreshCommitRequest}

/-! ## Staged rows go -/

/-- The refresh tables with only some of the staged rows, and their links. -/
private def withStagedRows (tables : RefreshTables) (rows : List StagedTransaction) :
    RefreshTables :=
  { tables with
    stagedTransactions := rows
    stagedTransactionCategories := tables.stagedTransactionCategories.filter fun link =>
      link.ownerKey ∈ rows.map StagedTransaction.configKey }

private theorem withStagedRows_self {tables : RefreshTables}
    (owners : Refers tables.stagedTransactionCategories StagedTransactionCategory.ownerKey
      tables.stagedTransactions StagedTransaction.configKey) :
    withStagedRows tables tables.stagedTransactions = tables := by
  have all : tables.stagedTransactionCategories.filter (fun link =>
      link.ownerKey ∈ tables.stagedTransactions.map StagedTransaction.configKey) =
        tables.stagedTransactionCategories :=
    List.filter_eq_self.mpr fun link member => decide_eq_true (owners link member)
  unfold withStagedRows
  rw [all]

theorem StagedTransaction.key_of_configKey {left right : StagedTransaction}
    (same : left.configKey = right.configKey) : left.key = right.key :=
  congrArg (fun key : Nat × Text × Text × Nat => (key.1, key.2.1, key.2.2.1)) same

/-- The links of a row go with it. -/
private theorem links_of_delete (links : List StagedTransactionCategory)
    {rows rest : List StagedTransaction} {old : StagedTransaction}
    (nodup : (rows.map StagedTransaction.key).Nodup) (part : rest ⊆ rows) (member : old ∈ rest) :
    (links.filter fun link => link.ownerKey ∈ rest.map StagedTransaction.configKey).filter
        (fun link => link.ownerKey ≠ old.configKey) =
      links.filter fun link => link.ownerKey ∈
        (rest.filter fun row => row.key ≠ old.key).map StagedTransaction.configKey := by
  rw [List.filter_filter]
  apply List.filter_congr
  intro link _
  rw [← Bool.decide_and, decide_eq_decide]
  constructor
  · rintro ⟨different, owned⟩
    rcases List.mem_map.mp owned with ⟨owner, ownerMember, same⟩
    apply List.mem_map.mpr
    refine ⟨owner, List.mem_filter.mpr ⟨ownerMember, decide_eq_true ?_⟩, same⟩
    intro sameKey
    apply different
    rw [← same, List.inj_on_of_nodup_map nodup (part ownerMember) (part member) sameKey]
  · intro owned
    rcases List.mem_map.mp owned with ⟨owner, ownerMember, same⟩
    rcases List.mem_filter.mp ownerMember with ⟨inRest, kept⟩
    refine ⟨?_, List.mem_map.mpr ⟨owner, inRest, same⟩⟩
    intro sameKey
    exact of_decide_eq_true kept (StagedTransaction.key_of_configKey (same.trans sameKey))

theorem admits_clearStaging (runId : Nat) (constraints : database.Constraints) :
    guardedDatabase.Admits database ((database.refresh.stagedOf runId).map fun staged =>
        .delete (.stagedTransaction staged)) ∧
      guardedDatabase.after database ((database.refresh.stagedOf runId).map fun staged =>
          .delete (.stagedTransaction staged)) =
        database.withRefresh (clearStaging database.refresh runId) := by
  have nodup := constraints.refresh.staged.2
  have start : database.withRefresh
      (withStagedRows database.refresh database.refresh.stagedTransactions) = database := by
    rw [withStagedRows_self constraints.refresh.stagedOwners]
    rfl
  have deletes := admits_deletes .stagedTransaction StagedTransaction.key
    (fun rows => database.withRefresh (withStagedRows database.refresh rows))
    database.refresh.stagedTransactions (fun staged => staged.runId = runId) nodup
    (by
      intro rest part old member _
      have links := links_of_delete database.refresh.stagedTransactionCategories nodup part
        member
      unfold withStagedRows
      rw [← links]
      rfl)
    (by
      intro rest _ old member _ here
      exact ⟨trivial, here.deleteStagedTransaction old member, trivial⟩)
    (by rw [start]; exact constraints)
  rw [start] at deletes
  have rows : (database.refresh.stagedTransactions.filter fun staged =>
      !decide (staged.runId = runId)) =
        database.refresh.stagedTransactions.filter fun staged => staged.runId ≠ runId := by
    simp only [ne_eq, decide_not]
  have links : database.refresh.stagedTransactionCategories.filter (fun link =>
      link.ownerKey ∈ (database.refresh.stagedTransactions.filter fun staged =>
        staged.runId ≠ runId).map StagedTransaction.configKey) =
          database.refresh.stagedTransactionCategories.filter fun link => link.runId ≠ runId := by
    apply List.filter_congr
    intro link member
    rw [decide_eq_decide]
    constructor
    · intro owned
      rcases List.mem_map.mp owned with ⟨owner, ownerMember, same⟩
      have kept := of_decide_eq_true (List.mem_filter.mp ownerMember).2
      have sameRun : owner.runId = link.runId := congrArg Prod.fst same
      rw [← sameRun]
      exact kept
    · intro other
      rcases List.mem_map.mp (constraints.refresh.stagedOwners link member) with
        ⟨owner, ownerMember, same⟩
      have sameRun : owner.runId = link.runId := congrArg Prod.fst same
      rw [← sameRun] at other
      exact List.mem_map.mpr
        ⟨owner, List.mem_filter.mpr ⟨ownerMember, decide_eq_true other⟩, same⟩
  refine ⟨deletes.1, deletes.2.trans ?_⟩
  unfold withStagedRows clearStaging
  rw [rows, links]

/-! ## The run advances -/

/-- The database with one run changed. -/
abbrev Database.withRun (database : Database) (row : RefreshRun) : Database :=
  database.withRefresh
    { database.refresh with refreshRuns := replace RefreshRun.id row database.refresh.refreshRuns }

section Advance

variable {batches : List RefreshBatch}

theorem validatedRun_sameManifest (environment : Environment) (now : Datetime)
    (run : RefreshRun) (request : RefreshCommitRequest) (batches : List RefreshBatch) :
    run.SameManifest (validatedRun environment now run request batches) := by
  constructor <;> rfl

theorem committedRun_sameManifest (now : Datetime) (run : RefreshRun) :
    run.SameManifest (committedRun now run) := by
  constructor <;> rfl

theorem RefreshRun.SameManifest.update {old new : RefreshRun} (same : old.SameManifest new)
    (checks : old.Checks) (checksum : ∀ checksum ∈ new.computedChecksum, IsSha256 checksum)
    (failed : new.state ≠ .failed) (committed : new.state = .committed → new.Complete) :
    new.Checks where
  dates := by
    rw [same.sourceFromDate, same.sourceToDate]
    exact checks.dates
  requestHash := by
    rw [same.requestHash]
    exact checks.requestHash
  computedChecksum := checksum
  failed := failed
  committed := committed

/-- An update of a run that is there, found under its number alone. -/
theorem guarded_updateRun {new : RefreshRun} (constraints : database.Constraints)
    (member : run ∈ database.refresh.refreshRuns) (same : run.SameManifest new)
    (sameId : new.id = run.id) (isOpen : run.state ≠ .committed ∧ run.state ≠ .failed)
    (mayBecome : run.MayBecome new) (advances : run.Advances new) (checks : new.Checks) :
    database.Guarded (.update (.refreshRun new)) := by
  have unique : ∀ old ∈ database.refresh.refreshRuns, old.id = new.id → old = run :=
    fun old oldMember here => List.inj_on_of_nodup_map constraints.refresh.runs.2 oldMember member
      (here.trans sameId)
  constructor
  · exact ⟨run, member, sameId.symm, same, isOpen, mayBecome⟩
  · apply constraints.updateRefreshRun checks
    intro old oldMember here
    rw [unique old oldMember here]
    exact same
  · intro old oldMember here
    rw [unique old oldMember here]
    exact advances

theorem Committable.length_batches (committable : Committable database run config request) :
    (orderedBatches database.refresh run.id).length = request.expectedBatchCount := by
  have lengths := congrArg List.length committable.indices
  rwa [List.length_map, List.length_range] at lengths

theorem Committable.withoutBatches (committable : Committable database run config request)
    (now : Datetime) (none : request.expectedBatchCount = 0) :
    (validatedRun environment now run request
      (orderedBatches database.refresh run.id)).WithoutBatches := by
  have empty : orderedBatches database.refresh run.id = [] :=
    List.length_eq_zero_iff.mp (committable.length_batches.trans none)
  rw [empty]
  exact ⟨congrArg some none, rfl, rfl⟩

theorem guarded_validatedRun (clock : Clock) (digests : environment.HexDigests)
    (constraints : database.Constraints) (committable : Committable database run config request) :
    database.Guarded (.update (.refreshRun (validatedRun environment clock.now run request
      (orderedBatches database.refresh run.id)))) := by
  have member : run ∈ database.refresh.refreshRuns := Table.mem_of_get committable.runFound
  have same := validatedRun_sameManifest environment clock.now run request
    (orderedBatches database.refresh run.id)
  apply guarded_updateRun constraints member same rfl
  · rcases committable.state with uploaded | ⟨created, _⟩
    · rw [uploaded]
      decide
    · rw [created]
      decide
  · rcases committable.state with uploaded | ⟨created, none⟩
    · exact Or.inr (Or.inr (Or.inr (Or.inl ⟨uploaded, Or.inl rfl⟩)))
    · exact Or.inr (Or.inr (Or.inl ⟨created, rfl, committable.withoutBatches clock.now none⟩))
  · rcases committable.state with uploaded | ⟨created, none⟩
    · exact Or.inr (Or.inr (Or.inr (Or.inl ⟨uploaded, rfl⟩)))
    · exact Or.inr (Or.inr (Or.inl ⟨created, rfl, committable.withoutBatches clock.now none⟩))
  · apply same.update (constraints.refresh.runs.1 run member)
    · intro checksum isChecksum
      rw [← Option.mem_some.mp isChecksum]
      exact digests _
    · intro failed
      cases failed
    · intro committed
      cases committed

theorem guarded_committedRun (now : Datetime) (digests : environment.HexDigests)
    (committable : Committable database run config request) {before : Database}
    (beforeConstraints : before.Constraints)
    (member : validatedRun environment now run request (orderedBatches database.refresh run.id) ∈
      before.refresh.refreshRuns) :
    before.Guarded (.update (.refreshRun (completeRun environment now request
      (orderedBatches database.refresh run.id) run))) := by
  have same := committedRun_sameManifest now (validatedRun environment now run request
    (orderedBatches database.refresh run.id))
  apply guarded_updateRun beforeConstraints member same rfl
  · constructor
    · intro committed
      cases committed
    · intro failed
      cases failed
  · exact Or.inr (Or.inr (Or.inr (Or.inr ⟨rfl, Or.inl rfl⟩)))
  · exact Or.inr (Or.inr (Or.inr (Or.inr ⟨rfl, rfl⟩)))
  · apply same.update (beforeConstraints.refresh.runs.1 _ member)
    · intro checksum isChecksum
      rw [← Option.mem_some.mp isChecksum]
      exact digests _
    · intro failed
      cases failed
    · intro _
      constructor
      · exact congrArg some committable.length_batches.symm
      · rfl
      · rfl
      · right
        show (run.uploadedAt.or (some now)).isSome
        cases run.uploadedAt <;> rfl
      · rfl
      · rfl

end Advance

/-! ## The whole call -/

theorem guarded_syncWrite {state : Database} (constraints : state.Constraints)
    (next : SyncState) (synced : state.Synced next) :
    state.Guarded (syncWrite state.syncState next) := by
  have kept := constraints.setSyncState synced
  unfold syncWrite
  cases found : state.syncState with
  | none => exact ⟨⟨found, synced⟩, kept, trivial⟩
  | some previous => exact ⟨⟨by rw [found]; rfl, synced⟩, kept, trivial⟩

theorem runs_publishRun (clock : Clock) (digests : environment.HexDigests)
    (invariant : ConfigInvariant environment database.config)
    (constraints : database.Constraints)
    (committable : Committable database run config request) :
    guardedDatabase.Runs database
      (Flushes.publishRun environment clock database run config request
        (orderedBatches database.refresh run.id)) fun value state => state = value.1 := by
  let batches := orderedBatches database.refresh run.id
  let validated := validatedRun environment clock.now run request batches
  let committed := completeRun environment clock.now request batches run
  have member : run ∈ database.refresh.refreshRuns := Table.mem_of_get committable.runFound
  have validates := guarded_validatedRun clock digests constraints committable
  have validatedMember : validated ∈ (database.withRun validated).refresh.refreshRuns :=
    mem_replace_self member rfl
  have runKey : validated.configKey ∈
      (database.withRun validated).refresh.refreshRuns.map RefreshRun.configKey :=
    List.mem_map_of_mem validatedMember
  have first : guardedDatabase.Admits database [.update (.refreshRun validated)] :=
    ⟨validates, trivial⟩
  apply GuardedStore.Runs.emitThen first rfl
  have publishes : guardedDatabase.Runs (database.withRun validated)
      (Flushes.publishedLedger clock.now database validated)
      fun progress reached => ∃ stored,
        Waiting (database.withRun validated) stored progress reached :=
    runs_publishedLedger clock.now validates.constraints runKey
  apply GuardedStore.Runs.bind _ publishes
  rintro published reached ⟨stored, session⟩
  apply GuardedStore.Runs.bind _ (session.runs_pruneOutsideWindows database.config validated)
  rintro ledger _ ⟨pruned, rfl, prunedConstraints⟩
  have commits := guarded_committedRun clock.now digests committable prunedConstraints
    validatedMember
  have deletes : guardedDatabase.Admits
        (((database.withRun validated).withRun committed).withLedger
          ⟨published.1.transactions, ledger.transactionCategories⟩) _ ∧ _ :=
    admits_prunedRows pruned commits.constraints
  have cleaned := Database.constraints_after deletes.1 commits.constraints
  rw [deletes.2] at cleaned
  let base := ((database.withRun validated).withRun committed).withLedger ledger
  have written : guardedDatabase.Admits _ (.update (.refreshRun committed) ::
      (published.1.transactions.filter fun row => row ∉ ledger.transactions).map fun row =>
        .delete (.transaction row)) := ⟨commits, deletes.1⟩
  apply GuardedStore.Runs.emitThen written deletes.2
  have start : base = base.flushed environment database.config := by
    unfold Database.flushed
    rw [invariant.commit_eq]
    rfl
  have committedMember : committed ∈ base.refresh.refreshRuns :=
    mem_replace_self validatedMember rfl
  have boundTo : run.configVersionId = config.id :=
    (Table.key_of_get committable.configFound).symm
  have rebuilt : config.status = .pending → base.Rebuilt config.id := by
    intro pending
    refine ⟨committed, committedMember, boundTo, ?_, rfl⟩
    rcases committable.targetCase with ⟨_, active, _⟩ | ⟨full, _⟩
    · rw [pending] at active
      cases active
    · exact full
  have activates : RunsConfig environment base database.config
      (Flushes.activate environment clock.now database.config config) id fun _ => True :=
    runs_activate clock.now invariant (Table.mem_of_get committable.configFound) rebuilt
      (by rw [← start]; exact cleaned)
  unfold RunsConfig at activates
  rw [← start] at activates
  apply GuardedStore.Runs.bind _ activates
  rintro tables _ ⟨_, rfl, activatedConstraints⟩
  let next := nextSyncState clock config committed database.syncState
  have synced : (base.flushed environment tables).Synced next := by
    refine ⟨committed, committedMember, ?_, ?_, rfl⟩
    · show run.id = (nextSyncState clock config committed database.syncState).lastRefreshRunId
      cases database.syncState <;> rfl
    · show run.configVersionId =
        (nextSyncState clock config committed database.syncState).configVersionId
      rw [boundTo]
      cases database.syncState <;> rfl
  have synchronizes := guarded_syncWrite activatedConstraints next synced
  have reached : (base.flushed environment tables).write (syncWrite database.syncState next) =
      { base.flushed environment tables with syncState := some next } := by
    unfold syncWrite
    cases database.syncState <;> rfl
  have syncConstraints := synchronizes.constraints
  have sends : guardedDatabase.Admits (base.flushed environment tables)
      [syncWrite database.syncState next] := ⟨synchronizes, trivial⟩
  apply GuardedStore.Runs.emitThen sends reached
  have kept : Database.Constraints { base.flushed environment tables with
      syncState := some next } := reached ▸ syncConstraints
  have clears := admits_clearStaging run.id kept
  apply GuardedStore.Runs.emitThen clears.1 clears.2
  apply GuardedStore.Runs.pure
  have runs : replace RefreshRun.id committed
      (replace RefreshRun.id validated database.refresh.refreshRuns) =
        Table.modify RefreshRun.id run.id (completeRun environment clock.now request batches)
          database.refresh.refreshRuns := by
    have last : replace RefreshRun.id committed
        (replace RefreshRun.id validated database.refresh.refreshRuns) =
          replace RefreshRun.id committed database.refresh.refreshRuns := replace_replace rfl
    exact last.trans (modify_eq_replace _ constraints.refresh.runs.2 member rfl).symm
  show Database.mk (ConfigService.commit environment tables)
    (clearStaging { database.refresh with
      refreshRuns := replace RefreshRun.id committed
        (replace RefreshRun.id validated database.refresh.refreshRuns) } run.id)
    ledger (some next) = _
  rw [runs]

theorem runs_commitRefresh (clock : Clock) (digests : environment.HexDigests)
    (invariant : ConfigInvariant environment database.config)
    (constraints : database.Constraints) (runId : Nat) (request : RefreshCommitRequest) :
    guardedDatabase.Runs database
      (Flushes.commitRefresh environment clock database runId request)
      fun value state => state = value.1 := by
  apply GuardedStore.Runs.liftThen
  intro run found
  rw [Outcome.orRaise_eq_ok] at found
  by_cases isCommitted : run.state = .committed
  · rw [if_pos isCommitted]
    apply GuardedStore.Runs.lift
    rintro ⟨committed, view⟩ completed
    cases commitRefresh_cases completed with
    | replay other otherFound state count accounts result answer => exact result.symm
    | new other config tables ledger runId_eq published answer =>
        have otherFound := published.committable.runFound
        rw [runId_eq, found, Option.some.injEq] at otherFound
        rcases published.committable.state with uploaded | ⟨created, _⟩
        · rw [← otherFound, isCommitted] at uploaded
          cases uploaded
        · rw [← otherFound, isCommitted] at created
          cases created
  · rw [if_neg isCommitted]
    apply GuardedStore.Runs.liftThen
    rintro ⟨config, batches⟩ checked
    have runId_eq : run.id = runId := Table.key_of_get found
    rw [← runId_eq] at found
    rcases (commitChecks_eq_ok_iff found).mp checked with ⟨committable, rfl⟩
    apply GuardedStore.Runs.bind _ (runs_publishRun clock digests invariant constraints committable)
    rintro published _ rfl
    exact GuardedStore.Runs.pure rfl

end RollingBudget
