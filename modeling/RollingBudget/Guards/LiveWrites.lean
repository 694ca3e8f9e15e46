import RollingBudget.Guards.BulkWrites
import RollingBudget.Refresh.Publication

namespace RollingBudget

open SingleUser Sorting ConfigService RefreshService Flushes

/-! Every write that publishes the staged rows of a run passes its guards. The session is ahead
of the database by the links that wait for the next flush. -/

variable {database state : Database} {run : RefreshRun} {now : Datetime}
  {transactions : List Transaction} {flushed waiting : List TransactionCategory}

/-! ## Links -/

theorem Database.Constraints.fewerLinks {links links' : List TransactionCategory}
    (constraints : (database.withLedger ⟨transactions, links⟩).Constraints)
    (fewer : links'.Sublist links) :
    (database.withLedger ⟨transactions, links'⟩).Constraints :=
  constraints.withLedger
    { constraints.ledger with
      links := constraints.ledger.links.sublist (fewer.map _)
      owners := constraints.ledger.owners.mono (List.map_subset _ fewer.subset)
        (List.Subset.refl _)
      rules := constraints.ledger.rules.mono (List.map_subset _ fewer.subset)
        (List.Subset.refl _) }

/-- Links that the session holds can be sent. -/
theorem admits_linkInserts
    (constraints : (database.withLedger ⟨transactions, flushed ++ waiting⟩).Constraints) :
    guardedDatabase.Admits (database.withLedger ⟨transactions, flushed⟩) (linkInserts waiting) ∧
      guardedDatabase.after (database.withLedger ⟨transactions, flushed⟩) (linkInserts waiting) =
        database.withLedger ⟨transactions, flushed ++ waiting⟩ := by
  apply admits_inserts .transactionCategory
    (fun links => database.withLedger ⟨transactions, links⟩) flushed waiting (fun _ _ => rfl) _
    (constraints.fewerLinks (List.sublist_append_left _ _))
  intro done link rest whole _
  constructor
  · trivial
  · apply constraints.fewerLinks
    show (flushed ++ done ++ [link]).Sublist (flushed ++ waiting)
    rw [← whole, List.append_assoc]
    apply List.Sublist.append_left
    apply List.Sublist.append_left
    exact List.singleton_sublist.mpr List.mem_cons_self
  · trivial

theorem admits_linkDeletes {links : List TransactionCategory} (gone : TransactionCategory → Bool)
    (constraints : (database.withLedger ⟨transactions, links⟩).Constraints) :
    guardedDatabase.Admits (database.withLedger ⟨transactions, links⟩)
        ((links.filter gone).map fun link => .delete (.transactionCategory link)) ∧
      guardedDatabase.after (database.withLedger ⟨transactions, links⟩)
          ((links.filter gone).map fun link => .delete (.transactionCategory link)) =
        database.withLedger ⟨transactions, links.filter fun link => !gone link⟩ := by
  apply admits_deletes .transactionCategory TransactionCategory.key
    (fun links => database.withLedger ⟨transactions, links⟩) links gone constraints.ledger.links
    (fun _ _ _ _ _ => rfl) _ constraints
  intro rest _ old _ _ here
  exact ⟨trivial, here.deleteTransactionCategory old, trivial⟩

/-! ## Live rows -/

/-- Rows without links can be deleted. -/
theorem admits_rowDeletes {links : List TransactionCategory} (gone : Transaction → Bool)
    (unlinked : ∀ old ∈ transactions, gone old → ∀ link ∈ links, link.identity ≠ old.identity)
    (constraints : (database.withLedger ⟨transactions, links⟩).Constraints) :
    guardedDatabase.Admits (database.withLedger ⟨transactions, links⟩)
        ((transactions.filter gone).map fun old => .delete (.transaction old)) ∧
      guardedDatabase.after (database.withLedger ⟨transactions, links⟩)
          ((transactions.filter gone).map fun old => .delete (.transaction old)) =
        database.withLedger ⟨transactions.filter fun old => !gone old, links⟩ := by
  apply admits_deletes .transaction Transaction.identity
    (fun rows => database.withLedger ⟨rows, links⟩) transactions gone
    constraints.ledger.transactions.2 _ _ constraints
  · intro rest part old member goes
    have kept : links.filter (fun link => link.ownerKey ≠ old.configKey) = links := by
      apply List.filter_eq_self.mpr
      intro link linkMember
      apply decide_eq_true
      intro same
      exact unlinked old (part member) goes link linkMember (congrArg Prod.fst same)
    show database.withLedger ⟨_, links.filter fun link => link.ownerKey ≠ old.configKey⟩ = _
    rw [kept]
    rfl
  · intro rest _ old member _ here
    exact ⟨trivial, here.deleteTransaction old member, trivial⟩

/-- The row for a staged one goes in once no row has its identity. -/
theorem guarded_liveTransaction (now : Datetime) {ledger : LedgerTables} {staged : StagedTransaction}
    {existing : Option Transaction} (constraints : (database.withLedger ledger).Constraints)
    (runKey : run.configKey ∈ database.refresh.refreshRuns.map RefreshRun.configKey)
    (stagedMember : staged ∈ database.refresh.stagedTransactions)
    (fresh : ∀ old ∈ ledger.transactions, old.identity ≠ staged.identity)
    (firstRun : ∀ old ∈ existing, old.firstRefreshRunId ∈
      database.refresh.refreshRuns.map RefreshRun.id) :
    (database.withLedger ledger).Guarded
      (.insert (.transaction (liveTransaction now run staged existing))) := by
  constructor
  · trivial
  · apply constraints.insertTransaction
    · exact constraints.refresh.staged.1 staged stagedMember
    · exact fresh
    · cases existing with
      | none =>
          rcases List.mem_map.mp runKey with ⟨row, rowMember, same⟩
          exact List.mem_map.mpr ⟨row, rowMember, congrArg Prod.fst same⟩
      | some old => exact firstRun old rfl
    · exact runKey
  · trivial

/-! ## A staged row and its links -/

/-- The links that `_store_staged` adds to the session. -/
def newLinks (tables : RefreshTables) (run : RefreshRun) (staged : StagedTransaction) :
    List TransactionCategory :=
  (tables.stagedCategoriesOf run.id staged.identity).map (liveCategory run)

theorem identity_of_newLinks {tables : RefreshTables} {staged : StagedTransaction}
    {link : TransactionCategory} (member : link ∈ newLinks tables run staged) :
    link.identity = staged.identity := by
  rcases List.mem_map.mp member with ⟨source, sourceMember, rfl⟩
  exact identity_stagedCategory sourceMember

theorem nodup_newLinks {tables : RefreshTables} {staged : StagedTransaction}
    (nodup : (tables.stagedTransactionCategories.map StagedTransactionCategory.key).Nodup) :
    ((newLinks tables run staged).map TransactionCategory.key).Nodup := by
  unfold newLinks
  rw [List.map_map]
  have keys := nodup_filter nodup fun link =>
    link.runId = run.id ∧ link.identity = staged.identity
  apply List.Nodup.of_map fun key : Identity × Nat => (run.id, key.1.1, key.1.2, key.2)
  rw [List.map_map]
  have same : (tables.stagedCategoriesOf run.id staged.identity).map
      StagedTransactionCategory.key =
        (tables.stagedCategoriesOf run.id staged.identity).map
          ((fun key : Identity × Nat => (run.id, key.1.1, key.1.2, key.2)) ∘
            (TransactionCategory.key ∘ liveCategory run)) := by
    apply List.map_congr_left
    intro link member
    have sameRun : link.runId = run.id :=
      (of_decide_eq_true (List.mem_filter.mp member).2 : _ ∧ _).1
    exact Prod.ext sameRun rfl
  rw [← same]
  exact keys

/-- A staged link names a rule of the version of its run. -/
theorem mapping_of_newLinks {staged : StagedTransaction} (constraints : database.Constraints)
    (runKey : run.configKey ∈ database.refresh.refreshRuns.map RefreshRun.configKey)
    {link : TransactionCategory} (member : link ∈ newLinks database.refresh run staged) :
    link.mapping ∈ database.config.configVersionRules := by
  rcases List.mem_map.mp member with ⟨source, sourceMember, rfl⟩
  rcases List.mem_filter.mp sourceMember with ⟨inTable, selected⟩
  have sourceRun : source.runId = run.id := (of_decide_eq_true selected : _ ∧ _).1
  have ruled := constraints.refresh.stagedRules source inTable
  rw [List.map_id] at ruled
  rcases List.mem_map.mp (constraints.refresh.stagedOwners source inTable) with
    ⟨owner, ownerMember, ownerKey⟩
  rcases List.mem_map.mp (constraints.refresh.stagedRuns owner ownerMember) with
    ⟨row, rowMember, rowKey⟩
  rcases List.mem_map.mp runKey with ⟨same, sameMember, sameKey⟩
  have ownerRun : owner.runId = source.runId := congrArg Prod.fst ownerKey
  have ownerConfig : owner.configVersionId = source.configVersionId :=
    congrArg (fun key : Nat × Text × Text × Nat => key.2.2.2) ownerKey
  have rowId : row.id = owner.runId := congrArg Prod.fst rowKey
  have rowConfig : row.configVersionId = owner.configVersionId := congrArg Prod.snd rowKey
  have equal : row = same := by
    apply List.inj_on_of_nodup_map constraints.refresh.runs.2 rowMember sameMember
    have sameId : same.id = run.id := congrArg Prod.fst sameKey
    rw [rowId, ownerRun, sourceRun, sameId]
  have config : source.configVersionId = run.configVersionId := by
    rw [← ownerConfig, ← rowConfig, equal]
    exact congrArg Prod.snd sameKey
  have mapping : (liveCategory run source).mapping = source.mapping := by
    unfold TransactionCategory.mapping StagedTransactionCategory.mapping liveCategory
    rw [config]
  rw [mapping]
  exact ruled

theorem constraints_stored {ledger : LedgerTables} {staged : StagedTransaction}
    {existing : Option Transaction} (constraints : (database.withLedger ledger).Constraints)
    (runKey : run.configKey ∈ database.refresh.refreshRuns.map RefreshRun.configKey)
    (stagedMember : staged ∈ database.refresh.stagedTransactions)
    (fresh : ∀ old ∈ ledger.transactions, old.identity ≠ staged.identity)
    (firstRun : ∀ old ∈ existing, old.firstRefreshRunId ∈
      database.refresh.refreshRuns.map RefreshRun.id) :
    (database.withLedger
      ⟨ledger.transactions ++ [liveTransaction now run staged existing],
        ledger.transactionCategories ++ newLinks database.refresh run staged⟩).Constraints := by
  have inserted := (guarded_liveTransaction now constraints runKey stagedMember fresh
    firstRun).constraints
  refine inserted.withLedger { inserted.ledger with links := ?_, owners := ?_, rules := ?_ }
  · rw [List.map_append, List.nodup_append]
    refine ⟨inserted.ledger.links, nodup_newLinks constraints.refresh.stagedLinks, ?_⟩
    intro key keyMember other otherMember same
    rcases List.mem_map.mp keyMember with ⟨old, oldMember, rfl⟩
    rcases List.mem_map.mp otherMember with ⟨new, newMember, rfl⟩
    rcases List.mem_map.mp (constraints.ledger.owners old oldMember) with
      ⟨owner, ownerMember, ownerKey⟩
    apply fresh owner ownerMember
    have ownerIdentity : owner.identity = old.identity := congrArg Prod.fst ownerKey
    have oldIdentity : old.identity = new.identity := congrArg Prod.fst same
    exact ownerIdentity.trans (oldIdentity.trans (identity_of_newLinks newMember))
  · intro link member
    rcases List.mem_append.mp member with old | new
    · exact inserted.ledger.owners link old
    · apply List.mem_map.mpr
      refine ⟨liveTransaction now run staged existing, List.mem_append_right _ List.mem_cons_self,
        Prod.ext (identity_of_newLinks new).symm ?_⟩
      rcases List.mem_map.mp new with ⟨source, _, rfl⟩
      rfl
  · intro link member
    rcases List.mem_append.mp member with old | new
    · exact inserted.ledger.rules link old
    · rw [List.map_id]
      exact mapping_of_newLinks constraints runKey new

/-! ## The session ahead of the database -/

/-- The ledger of the session satisfies the constraints, and the database lacks only the links
that wait. These belong to rows that are stored already. -/
structure Waiting (database : Database) (stored : List Identity) (progress : Progress)
    (state : Database) : Prop where
  constraints : (database.withLedger progress.1).Constraints
  flushed : ∃ flushed, progress.1.transactionCategories = flushed ++ progress.2 ∧
    state = database.withLedger ⟨progress.1.transactions, flushed⟩
  waiting : ∀ link ∈ progress.2, link.identity ∈ stored

/-- Nothing waits at first. -/
theorem Waiting.start {ledger : LedgerTables}
    (constraints : (database.withLedger ledger).Constraints) :
    Waiting database [] (ledger, []) (database.withLedger ledger) where
  constraints := constraints
  flushed := ⟨ledger.transactionCategories, (List.append_nil _).symm, rfl⟩
  waiting := by
    intro link member
    cases member

/-- The deletions of one live row and its links. -/
theorem admits_liveDeletions {ledger : LedgerTables}
    (constraints : (database.withLedger ledger).Constraints) (identity : Identity) :
    guardedDatabase.Admits (database.withLedger ledger)
        (liveDeletions
          (ledger.transactionCategories.filter fun link => link.identity = identity)
          (ledger.transactions.filter fun old => old.identity = identity)) ∧
      guardedDatabase.after (database.withLedger ledger)
          (liveDeletions
            (ledger.transactionCategories.filter fun link => link.identity = identity)
            (ledger.transactions.filter fun old => old.identity = identity)) =
        database.withLedger (RefreshService.deleteLiveIdentity ledger identity) := by
  have links := admits_linkDeletes (fun link => link.identity = identity) constraints
  have cleared := Database.constraints_after links.1 constraints
  rw [links.2] at cleared
  have rows := admits_rowDeletes (fun old => old.identity = identity)
    (by
      intro old _ goes link member same
      have kept := (List.mem_filter.mp member).2
      rw [decide_eq_true_eq] at goes
      simp [same, goes] at kept)
    cleared
  have result : (⟨ledger.transactions.filter fun old => !decide (old.identity = identity),
      ledger.transactionCategories.filter fun link => !decide (link.identity = identity)⟩ :
        LedgerTables) = RefreshService.deleteLiveIdentity ledger identity := by
    unfold RefreshService.deleteLiveIdentity
    simp only [decide_not]
  unfold liveDeletions
  rw [GuardedStore.admits_append, GuardedStore.after_append, links.2, rows.2, result]
  exact ⟨⟨links.1, rows.1⟩, rfl⟩

/-- The deletion of a live row that nothing waits for. -/
theorem Waiting.deleteLiveIdentity {stored : List Identity} {progress : Progress}
    (session : Waiting database stored progress state) {identity : Identity}
    (other : identity ∉ stored) :
    guardedDatabase.Admits state (Flushes.deleteLiveIdentity progress identity) ∧
      Waiting database stored (RefreshService.deleteLiveIdentity progress.1 identity, progress.2)
        (guardedDatabase.after state (Flushes.deleteLiveIdentity progress identity)) := by
  rcases progress with ⟨⟨transactions, links⟩, waiting⟩
  rcases session with ⟨constraints, ⟨flushed, whole, rfl⟩, waits⟩
  change links = flushed ++ waiting at whole
  subst whole
  have sent : ∀ link ∈ flushed, link ∉ waiting := by
    have nodup : (flushed ++ waiting).Nodup := List.Nodup.of_map _ constraints.ledger.links
    intro link member later
    exact (List.nodup_append.mp nodup).2.2 link member link later rfl
  have removed : (flushed ++ waiting).filter (fun link =>
      link.identity = identity ∧ link ∉ waiting) =
        flushed.filter fun link => link.identity = identity := by
    have none : waiting.filter (fun link => link.identity = identity ∧ link ∉ waiting) = [] := by
      apply List.filter_eq_nil_iff.mpr
      intro link member
      simp [member]
    rw [List.filter_append, none, List.append_nil]
    apply List.filter_congr
    intro link member
    simp [sent link member]
  have stays : waiting.filter (fun link => link.identity ≠ identity) = waiting := by
    apply List.filter_eq_self.mpr
    intro link member
    apply decide_eq_true
    intro same
    exact other (same ▸ waits link member)
  have deletions := admits_liveDeletions (constraints.fewerLinks (List.sublist_append_left _ _))
    identity
  have onSession := admits_liveDeletions constraints identity
  have kept := Database.constraints_after onSession.1 constraints
  rw [onSession.2] at kept
  have unfolded : Flushes.deleteLiveIdentity (⟨transactions, flushed ++ waiting⟩, waiting)
      identity =
        liveDeletions (flushed.filter fun link => link.identity = identity)
          (transactions.filter fun old => old.identity = identity) := by
    show liveDeletions ((flushed ++ waiting).filter _) _ = _
    rw [removed]
  rw [unfolded, deletions.2]
  refine ⟨deletions.1, kept, ⟨flushed.filter fun link => link.identity ≠ identity, ?_, rfl⟩, waits⟩
  show (flushed ++ waiting).filter _ = _
  rw [List.filter_append, stays]

/-! ## Storing a staged row -/

section Store

variable {stored : List Identity} {progress : Progress} {staged : StagedTransaction}
  {existing : Option Transaction}

/-- The ledger of the session once a staged row without a live one is stored. -/
def withStaged (now : Datetime) (tables : RefreshTables) (run : RefreshRun) (ledger : LedgerTables)
    (staged : StagedTransaction) (existing : Option Transaction) : LedgerTables where
  transactions := ledger.transactions ++ [liveTransaction now run staged existing]
  transactionCategories := ledger.transactionCategories ++ newLinks tables run staged

/-- What may be stored now: no live row has the identity any more. -/
structure Storable (database : Database) (run : RefreshRun) (ledger : LedgerTables)
    (staged : StagedTransaction) (existing : Option Transaction) : Prop where
  runKey : run.configKey ∈ database.refresh.refreshRuns.map RefreshRun.configKey
  row : staged ∈ database.refresh.stagedTransactions
  fresh : ∀ old ∈ ledger.transactions, old.identity ≠ staged.identity
  firstRun : ∀ old ∈ existing,
    old.firstRefreshRunId ∈ database.refresh.refreshRuns.map RefreshRun.id

/-- The new row may go in before the links that wait or after them. -/
theorem Waiting.insertRow (session : Waiting database stored progress state)
    (storable : Storable database run progress.1 staged existing) (now : Datetime) :
    (guardedDatabase.Admits state (.insert (.transaction (liveTransaction now run staged existing))
          :: linkInserts progress.2) ∧
        Waiting database (stored ++ [staged.identity])
          (withStaged now database.refresh run progress.1 staged existing,
            newLinks database.refresh run staged)
          (guardedDatabase.after state (.insert (.transaction
            (liveTransaction now run staged existing)) :: linkInserts progress.2))) ∧
      guardedDatabase.Admits state (linkInserts progress.2 ++
          [.insert (.transaction (liveTransaction now run staged existing))]) ∧
        Waiting database (stored ++ [staged.identity])
          (withStaged now database.refresh run progress.1 staged existing,
            newLinks database.refresh run staged)
          (guardedDatabase.after state (linkInserts progress.2 ++
            [.insert (.transaction (liveTransaction now run staged existing))])) := by
  rcases progress with ⟨⟨transactions, links⟩, waiting⟩
  rcases session with ⟨constraints, ⟨flushed, whole, rfl⟩, waits⟩
  change links = flushed ++ waiting at whole
  subst whole
  have rowLast := guarded_liveTransaction now constraints storable.runKey storable.row
    storable.fresh storable.firstRun
  have rowFirst := guarded_liveTransaction now
    (constraints.fewerLinks (List.sublist_append_left flushed waiting)) storable.runKey
    storable.row storable.fresh storable.firstRun
  have linksFirst := admits_linkInserts constraints
  have grown : (database.withLedger ⟨transactions ++ [liveTransaction now run staged existing],
      flushed ++ waiting⟩).Constraints := rowLast.constraints
  have linksLast := admits_linkInserts grown
  have stores : Waiting database (stored ++ [staged.identity])
      (withStaged now database.refresh run ⟨transactions, flushed ++ waiting⟩ staged existing,
        newLinks database.refresh run staged)
      (database.withLedger ⟨transactions ++ [liveTransaction now run staged existing],
        flushed ++ waiting⟩) := by
    refine ⟨constraints_stored constraints storable.runKey storable.row storable.fresh
      storable.firstRun, ⟨flushed ++ waiting, rfl, rfl⟩, ?_⟩
    intro link member
    rw [identity_of_newLinks member]
    exact List.mem_append_right _ List.mem_cons_self
  constructor
  · refine ⟨⟨rowFirst, linksLast.1⟩, ?_⟩
    have reached : guardedDatabase.after
        (database.withLedger ⟨transactions, flushed⟩)
        (.insert (.transaction (liveTransaction now run staged existing)) ::
          linkInserts waiting) = _ := linksLast.2
    rw [reached]
    exact stores
  · rw [GuardedStore.admits_append, GuardedStore.after_append]
    refine ⟨⟨linksFirst.1, ?_⟩, ?_⟩
    · rw [linksFirst.2]
      exact ⟨rowLast, trivial⟩
    · rw [linksFirst.2]
      exact stores

theorem storeStaged_eq {tables : RefreshTables} {ledger after : LedgerTables}
    (completed : RefreshService.storeStaged now tables run ledger staged existing = .ok after) :
    after = withStaged now tables run
      (if existing.isSome then RefreshService.deleteLiveIdentity ledger staged.identity
        else ledger) staged existing := by
  rcases Outcome.bind_eq_ok.mp completed with ⟨_, _, finished⟩
  exact (Outcome.pure_eq_ok.mp finished).symm

end Store

end RollingBudget
