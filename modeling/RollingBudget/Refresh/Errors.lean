import RollingBudget.Refresh.Steps

namespace RollingBudget

open ConfigService RefreshService Outcome

/-! What `begin_refresh` and `commit_refresh` can raise: a `DomainError`, or what the
subtraction of a window raises. -/

variable {environment : Environment} {clock : Clock} {database : Database}
  {bad : ServiceError → Prop}

/-! ## Windows -/

/-- Every window that ends on the day starts on 0001-01-01 or later. -/
def WindowsFit (rules : List LinkedRule) (lastDay : Date) : Prop :=
  ∀ row ∈ rules, row.rule.lookbackDays ≤ lastDay.ordinal

instance (rules : List LinkedRule) (lastDay : Date) : Decidable (WindowsFit rules lastDay) :=
  inferInstanceAs (Decidable (∀ row ∈ rules, _))

/-- The windows of a run, those of disabled rules included. -/
def RunFits (tables : ConfigTables) (run : RefreshRun) : Prop :=
  WindowsFit (rulesForConfig tables run.configVersionId) run.sourceToDate

theorem exists_minusDays_of_le {date : Date} {days : Nat} (fits : days ≤ date.ordinal) :
    ∃ start, date.minusDays (days - 1) = some start := by
  have valid := date.valid
  have inRange : days - 1 < date.ordinal := by omega
  unfold Date.minusDays
  rw [dif_pos inRange]
  exact ⟨_, rfl⟩

theorem le_of_minusDays {date start : Date} {days : Nat}
    (subtracted : date.minusDays (days - 1) = some start) : days ≤ date.ordinal := by
  rw [Date.minusDays_eq_some_iff] at subtracted
  have valid := start.valid
  omega

theorem exists_prune_of_fits {tables : ConfigTables} {run : RefreshRun} (fits : RunFits tables run)
    (ledger : LedgerTables) : ∃ pruned, pruneOutsideWindows tables run ledger = .ok pruned := by
  have passes : Avoids (fun _ => True) (pruneOutsideWindows tables run ledger) := by
    apply avoids_bind ?_ fun _ _ => avoids_pure _
    apply avoids_foldlM_of_mem
    intro current row member
    rcases exists_minusDays_of_le (fits row member) with ⟨cutoff, subtracted⟩
    unfold pruneCategory
    rw [subtracted, orRaise_some, ok_bind]
    exact avoids_pure _
  cases outcome : pruneOutsideWindows tables run ledger with
  | error error => exact absurd trivial (passes error outcome)
  | ok pruned => exact ⟨pruned, rfl⟩

/-- A commit prunes with every rule of its version. -/
theorem fits_of_prune {tables : ConfigTables} {run : RefreshRun} {ledger pruned : LedgerTables}
    (completed : pruneOutsideWindows tables run ledger = .ok pruned) : RunFits tables run := by
  rcases bind_eq_ok.mp completed with ⟨current, folded, -⟩
  clear completed
  unfold RunFits
  generalize rulesForConfig tables run.configVersionId = rules at folded ⊢
  induction rules generalizing ledger with
  | nil => simp [WindowsFit]
  | cons head tail induction =>
      rw [List.foldlM_cons, bind_eq_ok] at folded
      rcases folded with ⟨next, first, rest⟩
      rcases bind_eq_ok.mp first with ⟨cutoff, subtracted, -⟩
      rw [orRaise_eq_ok] at subtracted
      intro row member
      rcases List.mem_cons.mp member with rfl | inTail
      · exact le_of_minusDays subtracted
      · exact induction rest row inTail

/-- Nothing else goes wrong when the live rows are pruned. -/
theorem prune_error_of_not_fits {tables : ConfigTables} {run : RefreshRun}
    (outside : ¬RunFits tables run) (ledger : LedgerTables) :
    pruneOutsideWindows tables run ledger = .error .overflowError := by
  have onlyOverflow : Avoids (· ≠ ServiceError.overflowError)
      (pruneOutsideWindows tables run ledger) := by
    apply avoids_bind ?_ fun _ _ => avoids_pure _
    apply avoids_foldlM
    intro _ _
    exact avoids_bind (avoids_orRaise (fun different => different rfl) _) fun _ _ => avoids_pure _
  cases outcome : pruneOutsideWindows tables run ledger with
  | error error =>
      have overflow := not_not.mp (onlyOverflow error outcome)
      rw [overflow]
  | ok pruned => exact absurd (fits_of_prune outcome) outside

/-! ## Errors -/

theorem avoids_applyPresentation (domain : ∀ error, ¬bad (.domain error)) {tables : ConfigTables}
    {config : ConfigVersion} (snapshot : Avoids bad (editableSnapshotForConfig tables config)) :
    Avoids bad (applyConfigPresentation tables config) := by
  apply avoids_bind snapshot
  intro request _
  apply avoids_foldlM
  intro _ _
  exact avoids_bind (avoids_orRaise (domain _) _) fun _ _ => avoids_pure _

theorem avoids_beginTarget (domain : ∀ error, ¬bad (.domain error)) (tables : ConfigTables)
    (request : RefreshBeginRequest) : Avoids bad (beginTarget tables request) := by
  apply avoids_bind (avoids_orRaise (domain _) _)
  intro active _
  exact avoids_bind (avoids_require (domain _)) fun _ _ => avoids_pure _

theorem avoids_beginRefresh {request : RefreshBeginRequest} {idempotencyKey : Text}
    {maxBatchItems maxRequestBytes : Nat} (domain : ∀ error, ¬bad (.domain error))
    (window : Table.get RefreshRun.idempotencyKey database.refresh.refreshRuns idempotencyKey =
        none → ∀ target, beginTarget database.config request = .ok target →
      Avoids bad (checkFullWindow database.config target request)) :
    Avoids bad (beginRefresh environment clock database request idempotencyKey maxBatchItems
      maxRequestBytes) := by
  unfold beginRefresh
  split
  · apply avoids_bind (avoids_require (domain _))
    intro _ _
    exact avoids_bind (avoids_orRaise (domain _) _) fun _ _ => avoids_pure _
  · next missing =>
    apply avoids_bind (avoids_beginTarget domain _ _)
    intro target targetRead
    dsimp only
    split
    · exact avoids_bind (window missing target targetRead) fun _ _ => avoids_pure _
    · apply avoids_bind ?_ fun _ _ => avoids_pure _
      exact avoids_bind (avoids_orRaise (domain _) _) fun _ _ => avoids_require (domain _)

theorem avoids_publishedLedger (domain : ∀ error, ¬bad (.domain error)) (now : Datetime)
    (run : RefreshRun) : Avoids bad (publishedLedger now database run) := by
  have stored : ∀ ledger staged existing,
      Avoids bad (storeStaged now database.refresh run ledger staged existing) :=
    fun _ _ _ => avoids_bind (avoids_require (domain _)) fun _ _ => avoids_pure _
  apply avoids_bind (avoids_foldlM ?_ _ _)
  · intro targets _
    split
    · apply avoids_foldlM
      intro ledger staged
      split
      · exact avoids_pure _
      · exact stored _ _ _
    · apply avoids_foldlM
      intro ledger staged
      split
      · exact avoids_pure _
      · exact stored _ _ _
  · intro targets staged
    unfold addReplacement
    split
    · exact avoids_pure _
    · apply avoids_bind (avoids_require (domain _))
      intro _ _
      apply avoids_bind (avoids_require (domain _))
      intro _ _
      apply avoids_bind (avoids_require (domain _))
      intro _ _
      exact avoids_bind (avoids_require (domain _)) fun _ _ => avoids_pure _

theorem avoids_commitTarget (domain : ∀ error, ¬bad (.domain error)) (tables : ConfigTables)
    (run : RefreshRun) : Avoids bad (commitTarget tables run) := by
  apply avoids_bind (avoids_orRaise (domain _) _)
  intro _ _
  apply avoids_bind (avoids_require (domain _))
  intro _ _
  apply avoids_bind (avoids_require (domain _))
  intro _ _
  apply avoids_bind (avoids_require (domain _))
  intro _ _
  exact avoids_bind (avoids_require (domain _)) fun _ _ => avoids_pure _

theorem avoids_commitRefresh {request : RefreshCommitRequest} {runId : Nat}
    (domain : ∀ error, ¬bad (.domain error))
    (snapshots : ∀ config ∈ database.config.configVersions,
      Avoids bad (editableSnapshotForConfig database.config config))
    (prunes : ∀ run batches ledger, database.refresh.run runId = some run →
      Avoids bad (pruneOutsideWindows database.config
        (validatedRun environment clock.now run request batches) ledger)) :
    Avoids bad (commitRefresh environment clock database runId request) := by
  unfold commitRefresh
  apply avoids_bind (avoids_orRaise (domain _) _)
  intro run runRead
  split
  · exact avoids_bind (avoids_require (domain _)) fun _ _ => avoids_pure _
  · apply avoids_bind ?_ fun _ _ => avoids_pure _
    apply avoids_bind (avoids_require (domain _))
    intro _ _
    apply avoids_bind (avoids_commitTarget domain _ _)
    intro config targetRead
    apply avoids_bind
    · apply avoids_bind (avoids_require (domain _))
      intro _ _
      exact avoids_bind (avoids_require (domain _)) fun _ _ => avoids_pure _
    intro batches _
    apply avoids_bind
    · exact avoids_bind (avoids_require (domain _)) fun _ _ => avoids_require (domain _)
    intro _ _
    apply avoids_bind (avoids_publishedLedger domain _ _)
    intro published _
    apply avoids_bind (prunes run batches published (orRaise_eq_ok.mp runRead))
    intro ledger _
    apply avoids_bind ?_ fun _ _ => avoids_pure _
    unfold activate
    split
    · have member := Table.mem_of_get (commitTarget_eq_ok_iff.mp targetRead).1
      exact avoids_bind (avoids_applyPresentation domain (snapshots config member))
        fun _ _ => avoids_pure _
    · exact avoids_pure _

end RollingBudget
