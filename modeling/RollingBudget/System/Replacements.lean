import RollingBudget.System.Isolation

namespace RollingBudget

open ConfigService RefreshService

/-! A posted transaction names the pending one it replaces. Within a run the replaced row
is never stored, and an incremental run also removes it from the live tables. The link of a
row that is already live, however, is looked at by no later run. -/

variable {environment : Environment} {database committed : Database} {event : Event}

/-- The live identity that a live row replaces. -/
def Transaction.replaces (transaction : Transaction) : Option Identity :=
  transaction.pendingSourceId.map fun source => (transaction.accountId, source)

/-- No live row is replaced by another one. -/
def Suppressed (ledger : LedgerTables) : Prop :=
  ∀ posted ∈ ledger.transactions, ∀ replaced ∈ ledger.transactions,
    posted.replaces ≠ some replaced.identity

/-- An incremental run stores a row that a live row replaces, while it leaves that row alone,
and the windows at its end cover both. -/
structure Resurrects (database : Database) (run : RefreshRun) (staged : StagedTransaction)
    (posted : Transaction) : Prop where
  mode : run.mode = .incremental
  isOpen : run.state ≠ .committed
  stored : staged ∈ storedRows database.refresh run.id
  live : posted ∈ database.ledger.transactions
  replaces : posted.replaces = some staged.identity
  notReplaced : posted.identity ∉ (database.refresh.stagedOf run.id).filterMap namedTarget
  notStored : posted.identity ∉
    (storedRows database.refresh run.id).map StagedTransaction.identity
  stagedWindow : ∃ link ∈ database.refresh.stagedCategoriesOf run.id staged.identity,
    InWindow database.config run link.categoryId staged.transactionDate
  postedWindow : ∃ link ∈ database.ledger.transactionCategories,
    link.identity = posted.identity ∧
      InWindow database.config run link.categoryId posted.transactionDate

/-- The commit of a run that resurrects a replaced row. -/
def Event.Resurrects (database : Database) (event : Event) : Prop :=
  ∃ runId request run staged posted, event.call = .commitRefresh runId request ∧
    database.refresh.run runId = some run ∧
      RollingBudget.Resurrects database run staged posted

/-! ## One commit -/

section Commit

variable {clock : Clock} {request : RefreshCommitRequest} {run : RefreshRun}
  {config : ConfigVersion} {tables : ConfigTables} {published : LedgerTables}

theorem Published.suppressed_iff (invariant : SystemInvariant environment database)
    (result : Published environment clock database run config request committed tables published)
    (suppressed : Suppressed database.ledger) :
    Suppressed committed.ledger ↔
      ¬∃ staged posted, Resurrects database run staged posted := by
  rcases result.ledger invariant with ⟨publishedFrom, sameTargets, pruned⟩
  have survives : ∀ transaction, transaction ∈ committed.ledger.transactions ↔
      transaction ∈ published.transactions ∧ ∃ link ∈ published.transactionCategories,
        link.identity = transaction.identity ∧
          InWindow database.config run link.categoryId transaction.transactionDate :=
    fun _ => pruned.mem_transactions_iff publishedFrom.sound
  constructor
  · rintro after ⟨staged, posted, mode, isOpen, stored, live, replaces, notReplaced, notStored,
      ⟨source, sourceMember, stagedWindow⟩, link, linkMember, same, postedWindow⟩
    have base : publicationBase run database.ledger = database.ledger := by
      unfold publicationBase
      rw [mode]
    rw [← sameTargets] at notReplaced
    rw [base] at publishedFrom
    refine after posted ?_ (liveTransaction clock.now run staged
      (database.ledger.transaction staged.identity)) ?_ replaces
    · refine (survives posted).mpr ⟨(publishedFrom.transactions posted).mpr
        (Or.inl ⟨live, notReplaced, notStored⟩), link, ?_, same, postedWindow⟩
      exact (publishedFrom.links link).mpr (Or.inl ⟨linkMember, same ▸ notReplaced,
        same ▸ notStored⟩)
    · refine (survives _).mpr ⟨(publishedFrom.transactions _).mpr (Or.inr ⟨staged, stored, rfl⟩),
        liveCategory run source, ?_, ?_, stagedWindow⟩
      · exact (publishedFrom.links _).mpr (Or.inr ⟨staged, stored, source, sourceMember, rfl⟩)
      · exact identity_stagedCategory sourceMember
  · intro none posted postedLive replaced replacedLive replaces
    rcases (survives posted).mp postedLive with ⟨postedMember, link, linkMember, same, postedWindow⟩
    rcases (survives replaced).mp replacedLive with
      ⟨replacedMember, source, sourceMember, sourceSame, replacedWindow⟩
    rcases (publishedFrom.transactions posted).mp postedMember with
      ⟨old, notReplaced, notStored⟩ | ⟨staged, stored, rfl⟩
    · rcases mem_publicationBase_transactions.mp old with ⟨mode, postedOld⟩
      rcases (publishedFrom.transactions replaced).mp replacedMember with
        ⟨replacedOld, _, _⟩ | ⟨staged, stored, rfl⟩
      · exact suppressed posted postedOld replaced
          (mem_publicationBase_transactions.mp replacedOld).2 replaces
      · refine none ⟨staged, posted, mode, result.committable.isOpen, stored, postedOld, replaces,
          sameTargets ▸ notReplaced, notStored, ?_, ?_⟩
        · rcases (publishedFrom.links source).mp sourceMember with
            ⟨_, _, other⟩ | ⟨row, rowStored, stagedLink, stagedMember, rfl⟩
          · exact absurd (sourceSame ▸ List.mem_map_of_mem stored) other
          · have sameRow : row.identity = staged.identity :=
              (identity_stagedCategory stagedMember).symm.trans sourceSame
            exact ⟨stagedLink, sameRow ▸ stagedMember, replacedWindow⟩
        · rcases (publishedFrom.links link).mp linkMember with
            ⟨inBase, _, _⟩ | ⟨row, rowStored, stagedLink, stagedMember, rfl⟩
          · exact ⟨link, (mem_publicationBase_links.mp inBase).2, same, postedWindow⟩
          · have sameRow : row.identity = posted.identity :=
              (identity_stagedCategory stagedMember).symm.trans same
            exact absurd (sameRow ▸ List.mem_map_of_mem rowStored) notStored
    · rcases (publishedFrom.transactions replaced).mp replacedMember with
        ⟨_, notReplaced, _⟩ | ⟨row, rowStored, rfl⟩
      · exact notReplaced (List.mem_filterMap.mpr ⟨staged, stored, replaces⟩)
      · have notTarget := of_decide_eq_true (List.mem_filter.mp rowStored).2
        rw [← sameTargets] at notTarget
        exact notTarget (List.mem_filterMap.mpr ⟨staged, stored, replaces⟩)

end Commit

theorem SystemInvariant.suppressed_next_iff (invariant : SystemInvariant environment database)
    (suppressed : Suppressed database.ledger) (event : Event) :
    Suppressed (event.next environment database).ledger ↔
      ((event.outcome environment database).isOk = true → ¬event.Resurrects database) := by
  cases found : event.outcome environment database with
  | error error =>
      rw [Event.next_of_error found]
      exact iff_of_true suppressed fun succeeded => by cases succeeded
  | ok result =>
      rcases result with ⟨after, response⟩
      rw [Event.next_of_ok found]
      refine Iff.trans ?_ (forall_prop_of_true rfl).symm
      have unchanged : after.ledger = database.ledger → ¬event.Resurrects database →
          (Suppressed after.ledger ↔ ¬event.Resurrects database) := by
        intro same none
        rw [same]
        exact iff_of_true suppressed none
      have frame := (event.succeeds invariant.config found).staging_frame
      cases event.succeeds invariant.config found with
      | putConfig validated result =>
          refine unchanged (by rw [result.committed]) ?_
          rintro ⟨_, _, _, _, _, call, _⟩
          cases call
      | putConfigChecked validated result =>
          refine unchanged (by rw [result.committed]) ?_
          rintro ⟨_, _, _, _, _, call, _⟩
          cases call
      | beginRefresh validated result =>
          refine unchanged (frame rfl).2.1 ?_
          rintro ⟨_, _, _, _, _, call, _⟩
          cases call
      | uploadBatch validated limits result =>
          refine unchanged (frame rfl).2.1 ?_
          rintro ⟨_, _, _, _, _, call, _⟩
          cases call
      | commitRefresh validated result =>
          cases result with
          | replay run runFound state count accounts result answer =>
              refine unchanged (by rw [result]) ?_
              rintro ⟨_, _, other, _, _, call, otherFound, resurrects⟩
              cases call
              rw [runFound, Option.some.injEq] at otherFound
              exact resurrects.isOpen (otherFound ▸ state)
          | new run config tables published runId_eq publication answer =>
              rw [publication.suppressed_iff invariant suppressed]
              have runFound := publication.committable.runFound
              rw [runId_eq] at runFound
              constructor
              · rintro none ⟨_, _, other, staged, posted, call, otherFound, resurrects⟩
                cases call
                rw [runFound, Option.some.injEq] at otherFound
                exact none ⟨staged, posted, otherFound ▸ resurrects⟩
              · rintro none ⟨staged, posted, resurrects⟩
                exact none ⟨_, _, run, staged, posted, rfl, runFound, resurrects⟩

/-! ## Every history -/

/-- In every state of a history no live row is replaced by another one, exactly when no
successful step of it resurrects a replaced row. -/
theorem replaced_suppressed_iff (environment : Environment) (history : List Event) :
    (∀ earlier, earlier <+: history → Suppressed ((service environment).run earlier).ledger) ↔
      ∀ earlier event, earlier ++ [event] <+: history →
        (event.outcome environment ((service environment).run earlier)).isOk = true →
          ¬event.Resurrects ((service environment).run earlier) := by
  induction history using List.reverseRecOn with
  | nil =>
      refine iff_of_true ?_ ?_
      · intro earlier before
        rw [List.prefix_nil.mp before]
        intro posted member
        cases member
      · intro earlier event before
        simp at before
  | append_singleton history last induction =>
      have invariant := invariant_run environment history
      have step : Suppressed ((service environment).run history).ledger →
          (Suppressed ((service environment).run (history ++ [last])).ledger ↔
            ((last.outcome environment ((service environment).run history)).isOk = true →
              ¬last.Resurrects ((service environment).run history))) := by
        intro suppressed
        rw [Machine.run_concat]
        exact invariant.suppressed_next_iff suppressed last
      constructor
      · intro all earlier event before
        rcases List.prefix_concat_iff.mp before with same | inHistory
        · rcases List.append_inj' same rfl with ⟨rfl, single⟩
          cases single
          exact (step (all earlier (List.prefix_append _ _))).mp (all _ (List.prefix_refl _))
        · refine induction.mp (fun other otherBefore => ?_) earlier event inHistory
          exact all other (otherBefore.trans (List.prefix_append _ _))
      · intro none earlier before
        have earlierStates := induction.mpr fun other event otherBefore =>
          none other event (otherBefore.trans (List.prefix_append _ _))
        rcases List.prefix_concat_iff.mp before with rfl | inHistory
        · exact (step (earlierStates history (List.prefix_refl _))).mpr
            (none history last (List.prefix_refl _))
        · exact earlierStates earlier inHistory

/-- A pending purchase, its replacement, and the pending purchase once more. -/
theorem replaced_counted_again :
    ∃ posted ∈ ((service .transparent).run Sample.resurrected).ledger.transactions,
      ∃ replaced ∈ ((service .transparent).run Sample.resurrected).ledger.transactions,
        posted.replaces = some replaced.identity := by
  decide +kernel

end RollingBudget
