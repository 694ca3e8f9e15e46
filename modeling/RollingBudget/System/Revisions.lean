import RollingBudget.System.Invariant

namespace RollingBudget

open RefreshService

/-! No run overwrites what another one published: the revision counts the commits, and a
run commits only at the revision it began at. -/

variable {environment : Environment} {database committed : Database} {event : Event}

/-- The runs a step adds. -/
def begins (environment : Environment) (database : Database) (event : Event) : List RefreshRun :=
  (event.next environment database).refresh.refreshRuns.filter fun run =>
    run.id ∉ database.refresh.refreshRuns.map RefreshRun.id

/-- The runs a step commits. -/
def commits (environment : Environment) (database : Database) (event : Event) : List RefreshRun :=
  (event.next environment database).refresh.committedRuns.filter fun run =>
    run.id ∉ database.refresh.committedRuns.map RefreshRun.id

/-! ## One step -/

/-- A step that publishes nothing, or the publication of one open run. -/
theorem SystemInvariant.commit_cases (invariant : SystemInvariant environment database)
    (event : Event) :
    (event.next environment database).refresh.committedRuns = database.refresh.committedRuns ∨
      ∃ request run config tables ledger, Published environment event.clock database run config
        request (event.next environment database) tables ledger := by
  cases invariant.liveStep event with
  | put result => exact Or.inl (by rw [result.committed])
  | staging config ledger syncState committedRuns grows => exact Or.inl committedRuns
  | commit published => exact Or.inr ⟨_, _, _, _, _, published⟩

theorem commits_of_eq (same : (event.next environment database).refresh.committedRuns =
      database.refresh.committedRuns) : commits environment database event = [] := by
  unfold commits
  rw [same, List.filter_eq_nil_iff]
  intro run member fresh
  exact of_decide_eq_true fresh (List.mem_map_of_mem member)

/-- A publication commits its run and no other. -/
theorem Published.commits_eq {request : RefreshCommitRequest} {run : RefreshRun}
    {config : ConfigVersion} {tables : ConfigTables} {ledger : LedgerTables}
    (invariant : SystemInvariant environment database)
    (published : Published environment event.clock database run config request
      (event.next environment database) tables ledger) :
    commits environment database event =
      [finalRun environment event.clock database run request] := by
  have perm := published.committedRuns invariant.refresh
  have runMember := Table.mem_of_get published.committable.runFound
  have fresh : (finalRun environment event.clock database run request).id ∉
      database.refresh.committedRuns.map RefreshRun.id := by
    intro member
    rcases List.mem_map.mp member with ⟨other, otherMember, same⟩
    rcases List.mem_filter.mp otherMember with ⟨inRuns, isCommitted⟩
    have equal := List.inj_on_of_nodup_map invariant.refresh.runIds inRuns runMember same
    rw [equal] at isCommitted
    exact published.committable.isOpen (of_decide_eq_true isCommitted)
  have filtered := perm.filter fun row =>
    decide (row.id ∉ database.refresh.committedRuns.map RefreshRun.id)
  have old : database.refresh.committedRuns.filter (fun row =>
      decide (row.id ∉ database.refresh.committedRuns.map RefreshRun.id)) = [] := by
    rw [List.filter_eq_nil_iff]
    intro row member isFresh
    exact of_decide_eq_true isFresh (List.mem_map_of_mem member)
  rw [List.filter_cons, if_pos (decide_eq_true fresh), old] at filtered
  exact List.perm_singleton.mp filtered

/-- A step that adds no run, or the beginning of one. -/
theorem Succeeds.begin_cases {response : Response}
    (succeeds : Succeeds environment database event committed response) :
    committed.refresh.refreshRuns.map RefreshRun.id =
        database.refresh.refreshRuns.map RefreshRun.id ∨
      ∃ request idempotencyKey target, committed = insertRun database
        (newRun environment event.clock database request idempotencyKey target) := by
  cases succeeds with
  | putConfig validated result => exact Or.inl (by rw [result.committed])
  | putConfigChecked validated result => exact Or.inl (by rw [result.committed])
  | beginRefresh validated result =>
      cases result with
      | replay existing config found hash configFound result answer => exact Or.inl (by rw [result])
      | new target missing begun result answer => exact Or.inr ⟨_, _, target, result⟩
  | uploadBatch validated limits result =>
      cases result with
      | replay run existing runFound found hash checksum result answer =>
          exact Or.inl (by rw [result])
      | new run config runId_eq uploaded result answer =>
          rw [result]
          exact Or.inl (Table.map_modify RefreshRun.id fun _ => rfl)
  | commitRefresh validated result =>
      cases result with
      | replay run found state count accounts result answer => exact Or.inl (by rw [result])
      | new run config tables ledger runId_eq published answer =>
          rw [published.refreshEq]
          exact Or.inl (Table.map_modify RefreshRun.id fun _ => rfl)

/-- A run begins at the revision of its moment, and has not committed. -/
theorem SystemInvariant.mem_begins (invariant : SystemInvariant environment database)
    {run : RefreshRun} (member : run ∈ begins environment database event) :
    run.syncRevisionBefore = database.syncState.map SyncState.revision ∧
      run ∈ (event.next environment database).refresh.refreshRuns := by
  rcases List.mem_filter.mp member with ⟨inRuns, isNew⟩
  have fresh : run.id ∉ database.refresh.refreshRuns.map RefreshRun.id := of_decide_eq_true isNew
  refine ⟨?_, inRuns⟩
  rcases event.next_cases invariant.config with unchanged | ⟨response, succeeds⟩
  · rw [unchanged] at inRuns
    exact absurd (List.mem_map_of_mem inRuns) fresh
  · rcases succeeds.begin_cases with sameIds | ⟨request, idempotencyKey, target, result⟩
    · rw [← sameIds] at fresh
      exact absurd (List.mem_map_of_mem inRuns) fresh
    · rw [result] at inRuns
      rcases List.mem_append.mp inRuns with old | new
      · exact absurd (List.mem_map_of_mem old) fresh
      · rw [List.mem_singleton.mp new]
        rfl

/-! ## Histories -/

theorem revisionAfter_eq_none_iff {count : Nat} : revisionAfter count = none ↔ count = 0 := by
  simp [revisionAfter]

theorem revisionAfter_eq_some_iff {count revision : Nat} :
    revisionAfter count = some revision ↔ count ≠ 0 ∧ count = revision := by
  simp [revisionAfter]

theorem revisionAfter_injective : Function.Injective revisionAfter := by
  intro first second equal
  unfold revisionAfter at equal
  split at equal <;> split at equal <;> simp_all

/-- The commits of a history are its committed runs, each at the next revision. -/
theorem commits_run (environment : Environment) (history : List Event) :
    ((service environment).collect (commits environment) history).Perm
        ((service environment).run history).refresh.committedRuns ∧
      ((service environment).collect (commits environment) history).map
          RefreshRun.syncRevisionBefore =
        (List.range ((service environment).collect (commits environment) history).length).map
          revisionAfter := by
  induction history using List.reverseRecOn with
  | nil => exact ⟨List.Perm.refl _, rfl⟩
  | append_singleton history event induction =>
      rcases induction with ⟨perm, revisions⟩
      have invariant := invariant_run environment history
      rw [Machine.collect_concat, Machine.run_concat]
      rcases invariant.commit_cases event with same | ⟨request, run, config, tables, ledger, published⟩
      · rw [commits_of_eq same, List.append_nil]
        exact ⟨perm.trans (List.Perm.of_eq same.symm), revisions⟩
      · rw [published.commits_eq invariant]
        have next := published.committedRuns invariant.refresh
        refine ⟨?_, ?_⟩
        · exact ((perm.append_right _).trans (List.perm_append_singleton _ _)).trans next.symm
        · have before : (finalRun environment event.clock ((service environment).run history) run
              request).syncRevisionBefore = revisionAfter
                ((service environment).collect (commits environment) history).length := by
            rw [perm.length_eq]
            exact published.committable.revision.symm.trans invariant.revision
          rw [List.map_append, revisions, List.map_singleton, before, List.length_append,
            List.length_singleton, List.range_succ, List.map_append, List.map_singleton]

/-- Between the begin and the commit of a run no run commits. -/
theorem collect_commits_between (environment : Environment) (history middle : List Event)
    (beginning ending : Event) {run final : RefreshRun}
    (begun : run ∈ begins environment ((service environment).run history) beginning)
    (finished : final ∈ commits environment
      ((service environment).run (history ++ beginning :: middle)) ending)
    (same : final.id = run.id) :
    (service environment).collect (commits environment) (history ++ beginning :: middle) =
      (service environment).collect (commits environment) history := by
  have before := invariant_run environment history
  have after := invariant_run environment (history ++ beginning :: middle)
  rcases before.mem_begins begun with ⟨revision, inRuns⟩
  -- The run keeps the revision it began at until it commits.
  have began := invariant_run environment (history ++ [beginning])
  have reached : (service environment).run (history ++ [beginning]) =
      beginning.next environment ((service environment).run history) :=
    Machine.run_concat _ history beginning
  rw [← reached] at inRuns
  have grows := extends_run environment (history ++ [beginning]) middle
  rw [List.append_assoc, List.singleton_append] at grows
  rcases grows.refresh.run (began.refresh.find_run inRuns) with ⟨later, laterFound, frozen, _⟩
  rcases after.commit_cases ending with unchanged | ⟨request, open_, config, tables, ledger, published⟩
  · rw [commits_of_eq unchanged] at finished
    cases finished
  · rw [published.commits_eq after, List.mem_singleton] at finished
    have openFound := published.committable.runFound
    have openId : open_.id = run.id := (congrArg RefreshRun.id finished).symm.trans same
    rw [openId, laterFound, Option.some.injEq] at openFound
    have atCommit := published.committable.revision
    rw [← openFound, RefreshRun.syncRevisionBefore_of_frozen frozen, revision,
      before.revision, after.revision] at atCommit
    have counts := revisionAfter_injective atCommit
    rw [← (commits_run environment history).1.length_eq,
      ← (commits_run environment _).1.length_eq] at counts
    exact ((service environment).prefix_of_collect (commits environment) history
      (beginning :: middle)).eq_of_length counts.symm |>.symm

/-- The revision is the number of committed runs, and each run committed at the revision
it began at: no update of another run is lost. -/
theorem no_lost_update (environment : Environment) (history : List Event) :
    (((service environment).run history).syncState = none ↔
        ∀ run ∈ ((service environment).run history).refresh.refreshRuns, run.state ≠ .committed) ∧
      (∀ syncState, ((service environment).run history).syncState = some syncState →
        syncState.revision = ((service environment).run history).refresh.committedRuns.length) ∧
      ((service environment).collect (commits environment) history).Perm
        ((service environment).run history).refresh.committedRuns ∧
      (∀ position run,
        ((service environment).collect (commits environment) history)[position]? = some run →
          run.syncRevisionBefore = if position = 0 then none else some position) ∧
      (∀ event, ∀ run ∈ begins environment ((service environment).run history) event,
        run.syncRevisionBefore =
          ((service environment).run history).syncState.map SyncState.revision) ∧
      (∀ (beginning : Event) (middle : List Event) (ending : Event),
        ∀ run ∈ begins environment ((service environment).run history) beginning,
        ∀ final ∈ commits environment
          ((service environment).run (history ++ beginning :: middle)) ending,
        final.id = run.id →
          (service environment).collect (commits environment) (history ++ beginning :: middle) =
            (service environment).collect (commits environment) history) ∧
      ∀ left ∈ ((service environment).run history).refresh.committedRuns,
        ∀ right ∈ ((service environment).run history).refresh.committedRuns,
          left.syncRevisionBefore = right.syncRevisionBefore → left = right := by
  have invariant := invariant_run environment history
  have revision := invariant.revision
  rcases commits_run environment history with ⟨perm, revisions⟩
  refine ⟨?_, ?_, perm, ?_, fun event run member => (invariant.mem_begins member).1, ?_, ?_⟩
  · rw [← Option.map_eq_none_iff, revision, revisionAfter_eq_none_iff, List.length_eq_zero_iff,
      RefreshTables.committedRuns, List.filter_eq_nil_iff]
    simp only [decide_eq_true_eq, ne_eq]
  · intro syncState found
    rw [found, Option.map_some] at revision
    exact (revisionAfter_eq_some_iff.mp revision.symm).2.symm
  · intro position run found
    have atPosition := congrArg (fun values => values[position]?) revisions
    rw [List.getElem?_map, found, List.getElem?_map, List.getElem?_range, Option.map_some,
      Option.map_some, Option.some.injEq] at atPosition
    · exact atPosition
    · exact (List.getElem?_eq_some_iff.mp found).1
  · intro beginning middle ending run begun final finished same
    exact collect_commits_between environment history middle beginning ending begun finished same
  · intro left leftMember right rightMember same
    have nodup : (((service environment).collect (commits environment) history).map
        RefreshRun.syncRevisionBefore).Nodup := by
      rw [revisions]
      exact List.nodup_range.map revisionAfter_injective
    exact List.inj_on_of_nodup_map ((perm.map _).nodup_iff.mp nodup) leftMember rightMember same

end RollingBudget
