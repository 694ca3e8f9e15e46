import RollingBudget.Guards.LiveWrites

namespace RollingBudget

open SingleUser Sorting ConfigService RefreshService Flushes

/-! The loops that publish the staged rows of a run, and the pruning after them, write nothing
that a guard refuses. -/

variable {database state : Database} {run : RefreshRun} {now : Datetime}
  {stored : List Identity} {progress : Progress} {staged : StagedTransaction}

/-! ## One staged row -/

theorem Waiting.runs_storeStaged (session : Waiting database stored progress state)
    (now : Datetime)
    (runKey : run.configKey ∈ database.refresh.refreshRuns.map RefreshRun.configKey)
    (row : staged ∈ database.refresh.stagedTransactions) (other : staged.identity ∉ stored)
    {existing : Option Transaction}
    (found : progress.1.transaction staged.identity = existing) :
    guardedDatabase.Runs state
      (Flushes.storeStaged now database.refresh run progress staged existing)
      fun next reached => Waiting database (stored ++ [staged.identity]) next reached ∧
        next.1 = withStaged now database.refresh run
          (if existing.isSome then RefreshService.deleteLiveIdentity progress.1 staged.identity
            else progress.1) staged existing := by
  cases existing with
  | none =>
      have storable : Storable database run progress.1 staged none :=
        ⟨runKey, row, Table.get_eq_none_iff.mp found, fun old impossible => by cases impossible⟩
      have writes := (session.insertRow storable now).1
      apply GuardedStore.Runs.emitThen writes.1 rfl
      apply GuardedStore.Runs.liftThen
      intro ledger completed
      have result := storeStaged_eq completed
      refine GuardedStore.Runs.pure ⟨?_, result⟩
      rw [result]
      exact writes.2
  | some old =>
      have oldMember : old ∈ progress.1.transactions := Table.mem_of_get found
      have deletions := session.deleteLiveIdentity other
      have storable : Storable database run
          (RefreshService.deleteLiveIdentity progress.1 staged.identity) staged (some old) := by
        refine ⟨runKey, row, ?_, ?_⟩
        · intro live member
          exact (mem_deleteLiveIdentity_transactions.mp member).2
        · intro live same
          rw [← Option.mem_some.mp same]
          exact session.constraints.ledger.firstRuns old oldMember
      have writes := (deletions.2.insertRow storable now).2
      apply GuardedStore.Runs.emitThen (GuardedStore.admits_append.mpr ⟨deletions.1, writes.1⟩) rfl
      apply GuardedStore.Runs.liftThen
      intro ledger completed
      have result := storeStaged_eq completed
      refine GuardedStore.Runs.pure ⟨?_, result⟩
      rw [result, GuardedStore.after_append]
      exact writes.2

theorem Waiting.runs_clearPending (session : Waiting database stored progress state)
    (staged : StagedTransaction)
    (other : ∀ target, namedTarget staged = some target → target ∉ stored) :
    guardedDatabase.Runs state (Flushes.clearPending progress staged)
      fun next reached => Waiting database stored next reached ∧
        next = (clearTarget progress.1 staged, progress.2) := by
  unfold Flushes.clearPending clearTarget
  cases named : namedTarget staged with
  | none =>
      apply GuardedStore.Runs.emitThen GuardedStore.admits_nil rfl
      exact GuardedStore.Runs.pure ⟨session, rfl⟩
  | some target =>
      have deletions := session.deleteLiveIdentity (other target named)
      apply GuardedStore.Runs.emitThen deletions.1 rfl
      exact GuardedStore.Runs.pure ⟨deletions.2, rfl⟩

/-! ## All staged rows -/

section Loops

variable {targets : List Identity}

theorem nodup_stagedOf (constraints : database.Constraints) (runId : Nat) :
    ((database.refresh.stagedOf runId).map StagedTransaction.identity).Nodup := by
  have keys := nodup_filter constraints.refresh.staged.2 fun row => row.runId = runId
  apply List.Nodup.of_map fun identity : Identity => (runId, identity.1, identity.2)
  rw [List.map_map]
  have same : (database.refresh.stagedOf runId).map StagedTransaction.key =
      (database.refresh.stagedOf runId).map
        ((fun identity : Identity => (runId, identity.1, identity.2)) ∘
          StagedTransaction.identity) := by
    apply List.map_congr_left
    intro row member
    have sameRun : row.runId = runId := of_decide_eq_true (List.mem_filter.mp member).2
    exact Prod.ext sameRun rfl
  rw [← same]
  exact keys

/-- The identities stored so far. -/
def storedIdentities (targets : List Identity) (done : List StagedTransaction) : List Identity :=
  (keptRows targets done).map StagedTransaction.identity

theorem storedIdentities_concat_of_mem {done : List StagedTransaction}
    (skipped : staged.identity ∈ targets) :
    storedIdentities targets (done ++ [staged]) = storedIdentities targets done := by
  unfold storedIdentities keptRows
  rw [List.filter_append, List.filter_singleton, List.map_append]
  simp [skipped]

theorem storedIdentities_concat_of_notMem {done : List StagedTransaction}
    (kept : staged.identity ∉ targets) :
    storedIdentities targets (done ++ [staged]) =
      storedIdentities targets done ++ [staged.identity] := by
  unfold storedIdentities keptRows
  rw [List.filter_append, List.filter_singleton, List.map_append]
  simp [kept]

/-- A row of the run that has its turn has not been stored. -/
theorem notMem_storedIdentities (targets : List Identity)
    {done rest items : List StagedTransaction}
    (nodup : (items.map StagedTransaction.identity).Nodup)
    (whole : done ++ staged :: rest = items) :
    staged.identity ∉ storedIdentities targets done := by
  intro earlier
  rcases List.mem_map.mp earlier with ⟨row, member, same⟩
  rw [← whole, List.map_append, List.map_cons, List.nodup_append] at nodup
  exact nodup.2.2 _ (List.mem_map_of_mem (List.mem_of_mem_filter member)) _ List.mem_cons_self
    same

/-- Nothing is deleted that a link waits for: replaced rows are not stored. -/
theorem target_notMem_storedIdentities {done rest items : List StagedTransaction}
    (whole : done ++ staged :: rest = items) {target : Identity}
    (named : namedTarget staged = some target) :
    target ∉ storedIdentities (items.filterMap namedTarget) done := by
  intro earlier
  rcases List.mem_map.mp earlier with ⟨row, member, same⟩
  have kept := of_decide_eq_true (List.mem_filter.mp member).2
  apply kept
  rw [same]
  exact List.mem_filterMap.mpr
    ⟨staged, whole ▸ List.mem_append_right _ List.mem_cons_self, named⟩

theorem runs_replaceAllTransactions (now : Datetime) (targets : List Identity)
    (constraints : database.Constraints)
    (runKey : run.configKey ∈ database.refresh.refreshRuns.map RefreshRun.configKey) :
    guardedDatabase.Runs database
      (Flushes.replaceAllTransactions now database.ledger database.refresh run targets)
      (Waiting database (storedIdentities targets (database.refresh.stagedOf run.id))) := by
  have nodup := nodup_stagedOf constraints run.id
  have all : ∀ {α : Type} (rows : List α), rows.filter (fun _ => true) = rows := fun rows =>
    List.filter_eq_self.mpr fun _ _ => rfl
  have none : ∀ {α : Type} (rows : List α), rows.filter (fun _ => !true) = [] := fun rows =>
    List.filter_eq_nil_iff.mpr fun _ _ => by decide
  have start : (database.withLedger ⟨database.ledger.transactions,
      database.ledger.transactionCategories⟩).Constraints := constraints
  have links := admits_linkDeletes (fun _ => true) start
  have cleared := Database.constraints_after links.1 start
  rw [links.2] at cleared
  have rows := admits_rowDeletes (fun _ => true) (by
    intro old _ _ link member
    rw [none] at member
    cases member) cleared
  have empty := Database.constraints_after rows.1 cleared
  rw [rows.2, none, none] at empty
  rw [all] at links rows
  rw [none] at links
  rw [none, none] at rows
  rw [← links.2] at rows
  have emptied : guardedDatabase.after database
      (liveDeletions database.ledger.transactionCategories database.ledger.transactions) =
        database.withLedger ⟨[], []⟩ :=
    (GuardedStore.after_append _ _).trans rows.2
  apply GuardedStore.Runs.emitThen (GuardedStore.admits_append.mpr ⟨links.1, rows.1⟩) emptied
  apply GuardedStore.Runs.mono (GuardedStore.Runs.foldlM
    (fun done rest progress state => done ++ rest = database.refresh.stagedOf run.id ∧
      Waiting database (storedIdentities targets done) progress state ∧
        ∀ transaction ∈ progress.1.transactions,
          transaction.identity ∈ storedIdentities targets done) _ _)
  · rintro progress reached ⟨_, session, _⟩
    exact session
  · rintro done staged rest progress reached ⟨whole, session, onlyStored⟩
    by_cases skipped : staged.identity ∈ targets
    · rw [if_pos skipped]
      refine GuardedStore.Runs.pure ⟨by simpa using whole, ?_, ?_⟩
      · rw [storedIdentities_concat_of_mem skipped]
        exact session
      · rw [storedIdentities_concat_of_mem skipped]
        exact onlyStored
    · rw [if_neg skipped]
      have other := notMem_storedIdentities targets nodup whole
      have member : staged ∈ database.refresh.stagedOf run.id :=
        whole ▸ List.mem_append_right _ List.mem_cons_self
      have absent : progress.1.transaction staged.identity = Option.none := by
        apply Table.get_eq_none_iff.mpr
        intro live liveMember same
        exact other (same ▸ onlyStored live liveMember)
      apply (session.runs_storeStaged now runKey (List.mem_of_mem_filter member) other
        absent).mono
      rintro next reached ⟨later, result⟩
      refine ⟨by simpa using whole, ?_, ?_⟩
      · rw [storedIdentities_concat_of_notMem skipped]
        exact later
      · rw [storedIdentities_concat_of_notMem skipped, result]
        intro transaction transactionMember
        rcases List.mem_append.mp transactionMember with old | new
        · exact List.mem_append_left _ (onlyStored transaction old)
        · rw [List.mem_singleton.mp new]
          exact List.mem_append_right _ List.mem_cons_self
  · refine ⟨rfl, Waiting.start empty, ?_⟩
    intro transaction member
    cases member

theorem runs_mergeIncremental (now : Datetime) (constraints : database.Constraints)
    (runKey : run.configKey ∈ database.refresh.refreshRuns.map RefreshRun.configKey)
    (replaced : targets = (database.refresh.stagedOf run.id).filterMap namedTarget) :
    guardedDatabase.Runs database
      (Flushes.mergeIncremental now database.refresh run targets database.ledger)
      (Waiting database (storedIdentities targets (database.refresh.stagedOf run.id))) := by
  have nodup := nodup_stagedOf constraints run.id
  apply GuardedStore.Runs.mono (GuardedStore.Runs.foldlM
    (fun done rest progress state => done ++ rest = database.refresh.stagedOf run.id ∧
      Waiting database (storedIdentities targets done) progress state) _ _)
  · rintro progress reached ⟨_, session⟩
    exact session
  · rintro done staged rest progress reached ⟨whole, session⟩
    by_cases skipped : staged.identity ∈ targets
    · rw [if_pos skipped]
      refine GuardedStore.Runs.pure ⟨by simpa using whole, ?_⟩
      rw [storedIdentities_concat_of_mem skipped]
      exact session
    · rw [if_neg skipped]
      have other := notMem_storedIdentities targets nodup whole
      have member : staged ∈ database.refresh.stagedOf run.id :=
        whole ▸ List.mem_append_right _ List.mem_cons_self
      have clears := session.runs_clearPending staged fun target named => by
        rw [replaced]
        exact target_notMem_storedIdentities whole named
      apply GuardedStore.Runs.bind _ clears
      rintro cleared reached ⟨clearedSession, _⟩
      apply (clearedSession.runs_storeStaged now runKey (List.mem_of_mem_filter member) other
        rfl).mono
      rintro next reached ⟨later, _⟩
      refine ⟨by simpa using whole, ?_⟩
      rw [storedIdentities_concat_of_notMem skipped]
      exact later
  · exact ⟨rfl, Waiting.start constraints⟩

end Loops

/-! ## The whole publication -/

theorem runs_publishedLedger (now : Datetime) (constraints : database.Constraints)
    (runKey : run.configKey ∈ database.refresh.refreshRuns.map RefreshRun.configKey) :
    guardedDatabase.Runs database (Flushes.publishedLedger now database run)
      fun progress reached => ∃ stored, Waiting database stored progress reached := by
  apply GuardedStore.Runs.liftThen
  intro targets checked
  cases run.mode with
  | full =>
      apply (runs_replaceAllTransactions now targets constraints runKey).mono
      intro progress reached session
      exact ⟨_, session⟩
  | incremental =>
      have replaced := (validatePendingReplacements_spec checked).1
      apply (runs_mergeIncremental now constraints runKey replaced).mono
      intro progress reached session
      exact ⟨_, session⟩

/-- What is left without the rows that are not kept. -/
private theorem filter_kept {α : Type} [DecidableEq α] (rows : List α) (keep : α → Bool) :
    rows.filter (fun row => !decide (row ∉ rows.filter keep)) = rows.filter keep := by
  apply List.filter_congr
  intro row member
  simp [List.mem_filter, member]

/-- Pruning takes links away, and then the rows that have none left. -/
theorem pruneOutsideWindows_filter {tables : ConfigTables} {ledger after : LedgerTables}
    (completed : RefreshService.pruneOutsideWindows tables run ledger = .ok after) :
    (∃ keep : TransactionCategory → Bool,
      after.transactionCategories = ledger.transactionCategories.filter keep) ∧
      after.transactions = ledger.transactions.filter fun transaction =>
        transaction.identity ∈ after.transactionCategories.map TransactionCategory.identity := by
  rcases Outcome.bind_eq_ok.mp completed with ⟨pruned, looped, finished⟩
  have loop := Outcome.foldlM_induction
    (motive := fun _ current => current.transactions = ledger.transactions ∧
      ∃ keep : TransactionCategory → Bool,
        current.transactionCategories = ledger.transactionCategories.filter keep) looped
    ⟨rfl, fun _ => true, by simp⟩
    (by
      rintro done row current next _ ⟨transactions, keep, links⟩ stepped
      rcases Outcome.bind_eq_ok.mp stepped with ⟨cutoff, _, reached⟩
      rw [Outcome.pure_eq_ok] at reached
      rw [← reached]
      refine ⟨transactions, ?_⟩
      rw [links, List.filter_filter]
      exact ⟨_, rfl⟩)
  rw [Outcome.pure_eq_ok] at finished
  rw [← finished]
  refine ⟨loop.2, ?_⟩
  rw [← loop.1]

theorem Waiting.runs_pruneOutsideWindows (session : Waiting database stored progress state)
    (tables : ConfigTables) (run : RefreshRun) :
    guardedDatabase.Runs state (Flushes.pruneOutsideWindows tables run progress)
      fun ledger reached =>
        RefreshService.pruneOutsideWindows tables run progress.1 = .ok ledger ∧
          reached = database.withLedger
            ⟨progress.1.transactions, ledger.transactionCategories⟩ ∧
          reached.Constraints := by
  rcases progress with ⟨⟨transactions, links⟩, waiting⟩
  rcases session with ⟨constraints, ⟨flushed, whole, rfl⟩, _⟩
  change links = flushed ++ waiting at whole
  subst whole
  have sends := admits_linkInserts constraints
  apply GuardedStore.Runs.emitThen sends.1 sends.2
  apply GuardedStore.Runs.liftThen
  intro ledger completed
  rcases (pruneOutsideWindows_filter completed).1 with ⟨keep, kept⟩
  have remain : (flushed ++ waiting).filter (fun link =>
      !decide (link ∉ ledger.transactionCategories)) = ledger.transactionCategories := by
    rw [kept]
    exact filter_kept _ keep
  have deletes := admits_linkDeletes (fun link => link ∉ ledger.transactionCategories) constraints
  rw [remain] at deletes
  have cleared := Database.constraints_after deletes.1 constraints
  rw [deletes.2] at cleared
  apply GuardedStore.Runs.emitThen deletes.1 deletes.2
  exact GuardedStore.Runs.pure ⟨completed, rfl, cleared⟩

/-- The rows that pruning leaves without links can be deleted. -/
theorem admits_prunedRows {tables : ConfigTables} {ledger after : LedgerTables}
    (completed : RefreshService.pruneOutsideWindows tables run ledger = .ok after)
    (constraints : (database.withLedger
      ⟨ledger.transactions, after.transactionCategories⟩).Constraints) :
    guardedDatabase.Admits
        (database.withLedger ⟨ledger.transactions, after.transactionCategories⟩)
        ((ledger.transactions.filter fun row => row ∉ after.transactions).map fun row =>
          .delete (.transaction row)) ∧
      guardedDatabase.after
          (database.withLedger ⟨ledger.transactions, after.transactionCategories⟩)
          ((ledger.transactions.filter fun row => row ∉ after.transactions).map fun row =>
            .delete (.transaction row)) =
        database.withLedger after := by
  have kept := (pruneOutsideWindows_filter completed).2
  have remain : ledger.transactions.filter (fun row => !decide (row ∉ after.transactions)) =
      after.transactions := by
    rw [kept]
    exact filter_kept _ _
  have deletes := admits_rowDeletes (fun row => row ∉ after.transactions) (by
    intro old member goes link linkMember same
    rw [decide_eq_true_eq] at goes
    apply goes
    rw [kept]
    apply List.mem_filter.mpr
    refine ⟨member, decide_eq_true ?_⟩
    rw [← same]
    exact List.mem_map_of_mem linkMember) constraints
  rw [remain] at deletes
  exact deletes

end RollingBudget
