import RollingBudget.Migrations.RepairedDatabase
import RollingBudget.System.Revisions

namespace RollingBudget

open ConfigService RefreshService MoneyScaleRepair

/-! Runs that were open when the repair dropped the sync state. The counter begins again at
one, and a commit compares it with the number that its run froze before the repair. -/

variable {environment : Environment} {conversions : Conversions} {database before after : Database}

/-! ## The repair -/

section Loop

variable {Row : Type} {columns : BudgetColumns Row} {budgets : List (Text × Nat)}

/-- A loop that repairs nothing leaves the rows as they were. -/
theorem foldl_repairRow_unchanged {rows : List Row} {state : List Row × Bool}
    (untouched : (rows.foldl (repairRow columns budgets) state).2 = false) :
    rows.foldl (repairRow columns budgets) state = state := by
  have flagged : ∀ rows : List Row, ∀ state : List Row × Bool, state.2 = true →
      (rows.foldl (repairRow columns budgets) state).2 = true := by
    intro rows
    induction rows with
    | nil => exact fun state flag => flag
    | cons row rows induction =>
        intro state flag
        apply induction
        rw [repairRow_eq]
        split
        · exact flag
        · rfl
  induction rows generalizing state with
  | nil => rfl
  | cons row rows induction =>
      rw [List.foldl_cons] at untouched ⊢
      cases found : target columns budgets row with
      | none =>
          have same : repairRow columns budgets state row = state := by
            rw [repairRow_eq, found]
          rw [same] at untouched ⊢
          exact induction untouched
      | some budget =>
          rw [flagged rows _ (by rw [repairRow_eq, found])] at untouched
          cases untouched

theorem MoneyScaleRepair.repairSqliteBudgets_frame {tables tables' : MoneyScaleRepair.Tables Row}
    (completed : MoneyScaleRepair.repairSqliteBudgets conversions columns tables = .ok tables') :
    tables' = tables ∨ (tables'.ledger = ⟨[], []⟩ ∧ tables'.syncState = none) := by
  unfold MoneyScaleRepair.repairSqliteBudgets at completed
  rcases Outcome.bind_eq_ok.mp completed with ⟨budgets, _, completed⟩
  split at completed
  · rw [Outcome.pure_eq_ok] at completed
    exact Or.inl completed.symm
  · dsimp only at completed
    split at completed
    · rw [Outcome.pure_eq_ok] at completed
      rw [← completed]
      exact Or.inr ⟨rfl, rfl⟩
    · next untouched =>
      rw [Outcome.pure_eq_ok, foldl_repairRow_unchanged (Bool.eq_false_of_not_eq_true untouched)]
        at completed
      exact Or.inl completed.symm

end Loop

/-- On any database at all, a repair that changes something drops the sync state, and it
leaves the runs alone. -/
theorem Database.repairSqliteBudgets_frame
    (completed : before.repairSqliteBudgets conversions = .ok after) :
    after.refresh = before.refresh ∧
      (after ≠ before → after.ledger = ⟨[], []⟩ ∧ after.syncState = none) := by
  unfold Database.repairSqliteBudgets at completed
  cases computed : MoneyScaleRepair.repairSqliteBudgets conversions budgetColumns
      before.repairTables with
  | error raised =>
      rw [computed] at completed
      cases completed
  | ok tables =>
      rw [computed] at completed
      cases completed
      refine ⟨rfl, fun changed => ?_⟩
      rcases MoneyScaleRepair.repairSqliteBudgets_frame computed with same | emptied
      · rw [same] at changed
        exact absurd rfl changed
      · exact emptied

/-! ## One step -/

/-- What a call does to the counter and to the runs. -/
inductive RunStep (database next : Database) (event : Event) : Prop where
  | kept (syncState : next.syncState = database.syncState)
      (runs : next.refresh.refreshRuns = database.refresh.refreshRuns)
  | begun (run : RefreshRun) (syncState : next.syncState = database.syncState)
      (runs : next.refresh.refreshRuns = database.refresh.refreshRuns ++ [run])
      (fresh : ∀ old ∈ database.refresh.refreshRuns, old.id ≠ run.id)
      (state : run.state = .created)
  | received (id : Nat) (now : Datetime) (itemCount : Nat)
      (syncState : next.syncState = database.syncState)
      (runs : next.refresh.refreshRuns =
        Table.modify RefreshRun.id id (receiveBatch now itemCount) database.refresh.refreshRuns)
  | committed (run : RefreshRun) (raw : RefreshCommitRequest)
      (complete : RefreshRun → RefreshRun) (call : event.call = .commitRefresh run.id raw)
      (found : database.refresh.run run.id = some run) (isOpen : run.state ≠ .committed)
      (revision : database.syncState.map SyncState.revision = run.syncRevisionBefore)
      (continues : run.mode = .incremental → database.syncState ≠ none)
      (syncState : next.syncState ≠ none)
      (completes : ∀ row, (complete row).id = row.id ∧ (complete row).mode = row.mode ∧
        (complete row).state = .committed)
      (runs : next.refresh.refreshRuns =
        Table.modify RefreshRun.id run.id complete database.refresh.refreshRuns)

theorem putConfigLocked_keeps {clock : Clock} {request : ConfigPutRequest} {ifMatch : Option Text}
    {checkExpected : Bool} {expectedBaseHash : Option Text} {view : ConfigView}
    (completed : putConfigLocked environment clock database request ifMatch checkExpected
      expectedBaseHash = .ok (after, view)) :
    after.syncState = database.syncState ∧ after.refresh = database.refresh := by
  unfold putConfigLocked at completed
  rcases Outcome.bind_eq_ok.mp completed with ⟨_, _, completed⟩
  rcases Outcome.bind_eq_ok.mp completed with ⟨_, _, completed⟩
  rcases Outcome.bind_eq_ok.mp completed with ⟨_, _, completed⟩
  rcases Outcome.bind_eq_ok.mp completed with ⟨session, _, completed⟩
  rcases Outcome.bind_eq_ok.mp completed with ⟨_, _, finished⟩
  rw [Outcome.pure_eq_ok, Prod.mk.injEq] at finished
  rw [← finished.1]
  exact ⟨rfl, rfl⟩

/-- No assumption about the database is needed. -/
theorem Event.runStep (environment : Environment) (database : Database) (event : Event) :
    RunStep database (event.next environment database) event := by
  cases outcome : event.outcome environment database with
  | error error =>
      rw [Event.next_of_error outcome]
      exact RunStep.kept rfl rfl
  | ok result =>
      rcases result with ⟨after, response⟩
      rw [Event.next_of_ok outcome]
      rcases event with ⟨call, clock⟩
      cases call with
      | putConfig raw ifMatch =>
          rcases Outcome.bind_eq_ok.mp outcome with ⟨request, _, completed⟩
          rcases Outcome.bind_eq_ok.mp completed with ⟨⟨committed, view⟩, written, finished⟩
          cases finished
          have keeps := putConfigLocked_keeps written
          exact RunStep.kept keeps.1 (congrArg RefreshTables.refreshRuns keeps.2)
      | putConfigChecked raw expectedConfigHash =>
          rcases Outcome.bind_eq_ok.mp outcome with ⟨request, _, completed⟩
          rcases Outcome.bind_eq_ok.mp completed with ⟨⟨committed, view⟩, written, finished⟩
          cases finished
          have keeps := putConfigLocked_keeps written
          exact RunStep.kept keeps.1 (congrArg RefreshTables.refreshRuns keeps.2)
      | beginRefresh raw idempotencyKey maxBatchItems maxRequestBytes =>
          rcases Outcome.bind_eq_ok.mp outcome with ⟨request, _, completed⟩
          rcases Outcome.bind_eq_ok.mp completed with ⟨⟨committed, answer⟩, begun, finished⟩
          cases finished
          cases beginRefresh_cases begun with
          | replay existing config found hash configFound result answer =>
              rw [result]
              exact RunStep.kept rfl rfl
          | new target missing begun result answer =>
              rw [result]
              exact RunStep.begun _ rfl rfl (fun old member => Table.ne_freshId_map member) rfl
      | uploadBatch runId batchIndex raw maxBatchItems maxRequestBytes =>
          rcases Outcome.bind_eq_ok.mp outcome with ⟨request, _, completed⟩
          rcases Outcome.bind_eq_ok.mp completed with ⟨⟨committed, answer⟩, uploaded, finished⟩
          cases finished
          cases (uploadBatch_cases uploaded).2 with
          | replay run existing runFound found hash checksum result answer =>
              rw [result]
              exact RunStep.kept rfl rfl
          | new run config runId_eq uploaded result answer =>
              rw [result]
              exact RunStep.received run.id _ _ rfl rfl
      | commitRefresh runId raw =>
          rcases Outcome.bind_eq_ok.mp outcome with ⟨request, _, completed⟩
          rcases Outcome.bind_eq_ok.mp completed with ⟨⟨committed, view⟩, published, finished⟩
          cases finished
          cases commitRefresh_cases published with
          | replay run found state count accounts result answer =>
              rw [result]
              exact RunStep.kept rfl rfl
          | new run config tables ledger runId_eq published answer =>
              have committable := published.committable
              refine RunStep.committed run raw _ (by rw [runId_eq]) committable.runFound
                committable.isOpen committable.revision ?_ ?_ ?_
                (congrArg RefreshTables.refreshRuns published.refreshEq)
              · intro incremental none
                rcases committable.continues incremental with ⟨syncState, _, present, _⟩
                rw [none] at present
                cases present
              · rw [published.syncStateEq]
                exact Option.some_ne_none _
              · exact fun row => ⟨rfl, rfl, rfl⟩

/-- Run ids stay unique. -/
theorem RunStep.nodup {next : Database} {event : Event} (step : RunStep database next event)
    (nodup : (database.refresh.refreshRuns.map RefreshRun.id).Nodup) :
    (next.refresh.refreshRuns.map RefreshRun.id).Nodup := by
  cases step with
  | kept syncState runs => rwa [runs]
  | begun run syncState runs fresh state =>
      rw [runs]
      exact Table.nodup_map_concat nodup fresh
  | received id now itemCount syncState runs =>
      rw [runs]
      exact Table.nodup_map_modify (fun _ => rfl) nodup
  | committed run raw complete call found isOpen revision continues syncState completes runs =>
      rw [runs]
      exact Table.nodup_map_modify (fun row => (completes row).1) nodup

/-! ## The first commit -/

/-- A run that a step commits is complete and was not committed before. -/
theorem mem_commits_iff {event : Event} {row : RefreshRun} :
    row ∈ commits environment database event ↔
      row ∈ (event.next environment database).refresh.refreshRuns ∧ row.state = .committed ∧
        ∀ old ∈ database.refresh.refreshRuns, old.state = .committed → old.id ≠ row.id := by
  unfold commits RefreshTables.committedRuns
  simp only [List.mem_filter, List.mem_map, decide_eq_true_eq, not_exists, not_and,
    and_assoc]

/-- A step without a sync state commits nothing and leaves it missing, or it commits a full
run. -/
theorem RunStep.first (nodup : (database.refresh.refreshRuns.map RefreshRun.id).Nodup)
    {event : Event} (step : RunStep database (event.next environment database) event)
    (missing : database.syncState = none) :
    (commits environment database event = [] ∧
        (event.next environment database).syncState = none) ∨
      (commits environment database event ≠ [] ∧
        ∀ row ∈ commits environment database event, row.mode = .full) := by
  have nothing : (∀ row ∈ (event.next environment database).refresh.refreshRuns,
      row.state = .committed → row ∈ database.refresh.refreshRuns) →
      commits environment database event = [] := by
    intro old
    rw [List.eq_nil_iff_forall_not_mem]
    intro row member
    rcases mem_commits_iff.mp member with ⟨inNext, isCommitted, fresh⟩
    exact fresh row (old row inNext isCommitted) isCommitted rfl
  cases step with
  | kept syncState runs =>
      refine Or.inl ⟨nothing ?_, syncState.trans missing⟩
      intro row member _
      rwa [runs] at member
  | begun run syncState runs fresh state =>
      refine Or.inl ⟨nothing ?_, syncState.trans missing⟩
      intro row member isCommitted
      rw [runs] at member
      rcases List.mem_append.mp member with old | new
      · exact old
      · rw [List.mem_singleton.mp new, state] at isCommitted
        cases isCommitted
  | received id now itemCount syncState runs =>
      refine Or.inl ⟨nothing ?_, syncState.trans missing⟩
      intro row member isCommitted
      rw [runs] at member
      rcases Table.mem_modify.mp member with ⟨old, _⟩ | ⟨old, _, _, rfl⟩
      · exact old
      · cases isCommitted
  | committed run raw complete call found isOpen revision continues syncState completes runs =>
      have member := Table.mem_of_get found
      have full : run.mode = .full := by
        cases mode : run.mode with
        | full => rfl
        | incremental => exact absurd missing (continues mode)
      refine Or.inr ⟨?_, ?_⟩
      · refine @List.ne_nil_of_mem _ (complete run) _ (mem_commits_iff.mpr ⟨?_, ?_, ?_⟩)
        · rw [runs]
          exact Table.mem_modify.mpr (Or.inr ⟨run, member, rfl, rfl⟩)
        · exact (completes run).2.2
        · intro old oldMember isCommitted same
          rw [(completes run).1] at same
          rw [List.inj_on_of_nodup_map nodup oldMember member same] at isCommitted
          exact isOpen isCommitted
      · intro row rowMember
        rcases mem_commits_iff.mp rowMember with ⟨inNext, isCommitted, fresh⟩
        rw [runs] at inNext
        rcases Table.mem_modify.mp inNext with ⟨old, _⟩ | ⟨old, oldMember, same, rfl⟩
        · exact absurd rfl (fresh row old isCommitted)
        · rw [(completes old).2.1, List.inj_on_of_nodup_map nodup oldMember member same]
          exact full

/-- The service from any database on. -/
def serviceFrom (environment : Environment) (database : Database) : Machine Database Event where
  initial := database
  step := Event.next environment

theorem nodup_runFrom (nodup : (after.refresh.refreshRuns.map RefreshRun.id).Nodup)
    (continuation : List Event) :
    (((serviceFrom environment after).run continuation).refresh.refreshRuns.map
      RefreshRun.id).Nodup := by
  induction continuation using List.reverseRecOn with
  | nil => exact nodup
  | append_singleton continuation event induction =>
      rw [Machine.run_concat]
      exact (event.runStep environment _).nodup induction

/-- Nothing has been committed and the sync state is missing, or the first run that was
committed is a full one. -/
theorem first_commit_runFrom (nodup : (after.refresh.refreshRuns.map RefreshRun.id).Nodup)
    (missing : after.syncState = none) (continuation : List Event) :
    ((serviceFrom environment after).collect (commits environment) continuation = [] ∧
        ((serviceFrom environment after).run continuation).syncState = none) ∨
      ∃ first rest, (serviceFrom environment after).collect (commits environment) continuation =
        first :: rest ∧ first.mode = .full := by
  induction continuation using List.reverseRecOn with
  | nil => exact Or.inl ⟨rfl, missing⟩
  | append_singleton continuation event induction =>
      rw [Machine.collect_concat, Machine.run_concat]
      rcases induction with ⟨none, stillMissing⟩ | ⟨first, rest, collected, full⟩
      · rw [none, List.nil_append]
        rcases (event.runStep environment _).first (nodup_runFrom nodup continuation) stillMissing
          with ⟨nothing, dropped⟩ | ⟨something, full⟩
        · exact Or.inl ⟨nothing, dropped⟩
        · rcases List.exists_cons_of_ne_nil something with ⟨first, rest, listed⟩
          exact Or.inr ⟨first, rest, listed, full first (by rw [listed]; exact List.mem_cons_self)⟩
      · rw [collected]
        exact Or.inr ⟨first, _, rfl, full⟩

/-! ## Stale runs -/

/-- A run that the repair finds open, and that began at some revision. -/
def StaleRun (before : Database) (runId : Nat) (old : RefreshRun) : Prop :=
  before.refresh.run runId = some old ∧ old.state ≠ .committed ∧ old.syncRevisionBefore ≠ none

/-- A call that does not commit a stale run when the counter is back at the number that the run
froze. -/
def Event.AvoidsStale (before database : Database) (event : Event) : Prop :=
  ∀ runId raw old, event.call = .commitRefresh runId raw → StaleRun before runId old →
    database.syncState.map SyncState.revision ≠ old.syncRevisionBefore

/-- The run is open and has kept the revision that it began at. -/
def StillOpen (database : Database) (runId : Nat) (old : RefreshRun) : Prop :=
  ∃ row, database.refresh.run runId = some row ∧ row.state ≠ .committed ∧
    row.syncRevisionBefore = old.syncRevisionBefore

theorem RunStep.stillOpen {next : Database} {event : Event} (step : RunStep database next event)
    {runId : Nat} {old : RefreshRun} (stale : StaleRun before runId old)
    (avoids : event.AvoidsStale before database) (stillOpen : StillOpen database runId old) :
    StillOpen next runId old := by
  rcases stillOpen with ⟨row, rowFound, rowOpen, rowRevision⟩
  unfold StillOpen RefreshTables.run at *
  cases step with
  | kept syncState runs =>
      rw [runs]
      exact ⟨row, rowFound, rowOpen, rowRevision⟩
  | begun run syncState runs fresh state =>
      rw [runs]
      exact ⟨row, Table.get_append_of_some _ rowFound, rowOpen, rowRevision⟩
  | received id now itemCount syncState runs =>
      have keepsId : ∀ row, (receiveBatch now itemCount row).id = row.id := fun _ => rfl
      rw [runs, Table.get_modify keepsId, rowFound]
      refine ⟨_, rfl, ?_⟩
      split
      · exact ⟨by simp [receiveBatch], rowRevision⟩
      · exact ⟨rowOpen, rowRevision⟩
  | committed run raw complete call found isOpen revision continues syncState completes runs =>
      have other : runId ≠ run.id := by
        rintro rfl
        rw [show Table.get RefreshRun.id database.refresh.refreshRuns run.id = some run from found,
          Option.some.injEq] at rowFound
        subst rowFound
        exact avoids run.id raw old call stale (revision.trans rowRevision)
      rw [runs, Table.get_modify_other (fun row => (completes row).1) other]
      exact ⟨row, rowFound, rowOpen, rowRevision⟩

/-- Every step of a continuation avoids the stale runs. -/
def ContinuationAvoids (environment : Environment) (before after : Database)
    (continuation : List Event) : Prop :=
  ∀ middle event rest, continuation = middle ++ event :: rest →
    event.AvoidsStale before ((serviceFrom environment after).run middle)

theorem stillOpen_runFrom {runId : Nat} {old : RefreshRun} (stale : StaleRun before runId old)
    (start : StillOpen after runId old) {continuation : List Event}
    (avoids : ContinuationAvoids environment before after continuation) :
    StillOpen ((serviceFrom environment after).run continuation) runId old := by
  induction continuation using List.reverseRecOn with
  | nil => exact start
  | append_singleton continuation event induction =>
      have earlier : ContinuationAvoids environment before after continuation := by
        intro middle other rest split
        exact avoids middle other (rest ++ [event]) (by simp [split])
      rw [Machine.run_concat]
      exact (event.runStep environment _).stillOpen stale (avoids continuation event [] rfl)
        (induction earlier)

/-- After a repair that changed something the first run that is committed is a full one, and
no stale run is committed as long as none is tried when the counter is back at its number. -/
theorem stale_runs_open (environment : Environment) (conversions : Conversions)
    (before after : Database) (unique : (before.refresh.refreshRuns.map RefreshRun.id).Nodup)
    (completed : before.repairSqliteBudgets conversions = .ok after) (repaired : after ≠ before)
    (continuation : List Event) :
    (∀ first, ((serviceFrom environment after).collect (commits environment)
        continuation).head? = some first → first.mode = .full) ∧
      (ContinuationAvoids environment before after continuation →
        ∀ runId old, StaleRun before runId old → ∃ row,
          ((serviceFrom environment after).run continuation).refresh.run runId = some row ∧
            row.state ≠ .committed) := by
  rcases Database.repairSqliteBudgets_frame completed with ⟨refresh, emptied⟩
  have nodup : (after.refresh.refreshRuns.map RefreshRun.id).Nodup := by
    rw [refresh]
    exact unique
  constructor
  · intro first head
    rcases first_commit_runFrom nodup (emptied repaired).2 continuation with
      ⟨none, _⟩ | ⟨run, rest, listed, full⟩
    · rw [none] at head
      cases head
    · rw [listed, List.head?_cons, Option.some.injEq] at head
      rw [← head]
      exact full
  · intro avoids runId old stale
    have start : StillOpen after runId old := by
      unfold StillOpen
      rw [refresh]
      exact ⟨old, stale.1, stale.2.1, rfl⟩
    rcases stillOpen_runFrom stale start avoids with ⟨row, found, stillOpen, _⟩
    exact ⟨row, found, stillOpen⟩

/-- A budget edit that the repair takes for damage, and a run that is open when it does. -/
def Sample.leftOpen : List Event :=
  [⟨.putConfig (Sample.request (Decimal.ofNat 1) 7) none, Sample.clock⟩,
    ⟨.putConfig (Sample.request (Decimal.ofNat 10000) 7)
      (some (editHashForRequest .transparent (Sample.request (Decimal.ofNat 1) 7))), Sample.clock⟩,
    Sample.monthBegin, Sample.emptyCommit 1,
    ⟨.beginRefresh Sample.month "second".toList 10 1000, Sample.clock⟩]

/-- The rebuild that the repair asks for, and then the commit of the old run. -/
def Sample.resumed : List Event :=
  [⟨.beginRefresh Sample.month "third".toList 10 1000, Sample.clock⟩, Sample.emptyCommit 3,
    Sample.emptyCommit 2]

private theorem Sample.exists_repaired : ∃ after,
    ((service .transparent).run Sample.leftOpen).repairSqliteBudgets
        MoneyScaleRepair.Sample.ascii = .ok after ∧
      after ≠ (service .transparent).run Sample.leftOpen ∧
      (((serviceFrom .transparent after).run Sample.resumed).refresh.run 2).map
        RefreshRun.state = some .committed := by
  have live : ((service .transparent).run Sample.leftOpen).syncState.isSome = true := by
    decide +kernel
  have resumed : (((service .transparent).run Sample.leftOpen).repairSqliteBudgets
      MoneyScaleRepair.Sample.ascii).map (fun after => (after.syncState,
        (((serviceFrom .transparent after).run Sample.resumed).refresh.run 2).map
          RefreshRun.state)) = .ok (none, some .committed) := by
    decide +kernel
  cases computed : ((service .transparent).run Sample.leftOpen).repairSqliteBudgets
      MoneyScaleRepair.Sample.ascii with
  | error raised =>
      rw [computed] at resumed
      cases resumed
  | ok after =>
      rw [computed] at resumed
      simp only [Except.map, Except.ok.injEq, Prod.mk.injEq] at resumed
      refine ⟨after, rfl, ?_, resumed.2⟩
      intro same
      rw [← same, resumed.1] at live
      cases live

/-- The old run is tried before anything else is committed, and then the rebuild is. -/
def Sample.restarted : List Event :=
  [Sample.emptyCommit 2, ⟨.beginRefresh Sample.month "third".toList 10 1000, Sample.clock⟩,
    Sample.emptyCommit 3]

/-- When the old run is tried, there is no counter that could be back at its number. -/
theorem stale_runs_open_left : ∃ after,
    ((service .transparent).run Sample.leftOpen).repairSqliteBudgets
        MoneyScaleRepair.Sample.ascii = .ok after ∧
      (∀ first, ((serviceFrom .transparent after).collect (commits .transparent)
        Sample.restarted).head? = some first → first.mode = .full) ∧
      ∃ row, ((serviceFrom .transparent after).run Sample.restarted).refresh.run 2 = some row ∧
        row.state ≠ .committed := by
  rcases Sample.exists_repaired with ⟨after, computed, changed, _⟩
  have dropped : after.syncState = none :=
    ((Database.repairSqliteBudgets_frame computed).2 changed).2
  have open_ : (((service .transparent).run Sample.leftOpen).refresh.run 2).map
      (fun run => (run.state, run.syncRevisionBefore)) = some (.created, some 1) := by
    decide +kernel
  rcases Option.map_eq_some_iff.mp open_ with ⟨old, found, frozen⟩
  rw [Prod.mk.injEq] at frozen
  have third : (((service .transparent).run Sample.leftOpen).refresh.run 3).isSome = false := by
    decide +kernel
  rcases stale_runs_open .transparent MoneyScaleRepair.Sample.ascii _ after
    (by decide +kernel) computed changed Sample.restarted with ⟨full, stale⟩
  refine ⟨after, computed, full, stale ?_ 2 old ⟨found, by simp [frozen.1], by simp [frozen.2]⟩⟩
  intro earlier event later split runId raw old call isStale same
  rcases List.cons_eq_append_iff.mp split with ⟨rfl, rest⟩ | ⟨earlier, rfl, rest⟩
  · rw [Machine.run_nil, show (serviceFrom .transparent after).initial = after from rfl,
      dropped] at same
    exact isStale.2.2 same.symm
  · rcases List.cons_eq_append_iff.mp rest with ⟨rfl, here⟩ | ⟨earlier, rfl, others⟩
    · cases here
      cases call
    · rcases List.cons_eq_append_iff.mp others with ⟨rfl, here⟩ | ⟨earlier, rfl, none⟩
      · cases here
        cases call
        rw [isStale.1] at third
        cases third
      · simp at none

/-- The old run is committed once the counter is back at its number. -/
theorem stale_run_committed :
    ¬∀ history after, ((service .transparent).run history).repairSqliteBudgets
        MoneyScaleRepair.Sample.ascii = .ok after → after ≠ (service .transparent).run history →
      ∀ continuation runId old, StaleRun ((service .transparent).run history) runId old →
        ∃ row, ((serviceFrom .transparent after).run continuation).refresh.run runId = some row ∧
          row.state ≠ .committed := by
  intro never
  have created : (((service .transparent).run Sample.leftOpen).refresh.run 2).map
      (fun run => (run.state, run.syncRevisionBefore)) = some (.created, some 1) := by
    decide +kernel
  rcases Option.map_eq_some_iff.mp created with ⟨old, found, frozen⟩
  rw [Prod.mk.injEq] at frozen
  rcases Sample.exists_repaired with ⟨after, computed, changed, committed⟩
  rcases never Sample.leftOpen after computed changed Sample.resumed 2 old
    ⟨found, by simp [frozen.1], by simp [frozen.2]⟩ with ⟨row, rowFound, notCommitted⟩
  rw [rowFound, Option.map_some, Option.some.injEq] at committed
  exact notCommitted committed

end RollingBudget
