import RollingBudget.System.LiveData

namespace RollingBudget

open ConfigService RefreshService DashboardService

/-! A store that never prunes. It keeps every row that the runs since the last full one
published, under its identity and with all its categories. The live tables are this store
without the links that a run found outside the window of their category. -/

variable {environment : Environment} {database committed : Database} {event : Event}

/-! ## Publications -/

/-- A row with its categories, as a run publishes it. -/
structure Entry where
  staged : StagedTransaction
  categories : List Nat
deriving DecidableEq

namespace Entry

def identity (entry : Entry) : Identity := entry.staged.identity

def date (entry : Entry) : Date := entry.staged.transactionDate

def posting (entry : Entry) : Posting where
  amount := entry.staged.amount
  refundAmount := entry.staged.refundAmount
  pending := entry.staged.pending
  refunded := entry.staged.refunded

end Entry

/-- A committed run, its staged rows, and the links it pruned with their dates. -/
structure Publication where
  run : RefreshRun
  entries : List Entry
  pruned : List (TransactionCategory × Date)
deriving DecidableEq

def entryOf (tables : RefreshTables) (runId : Nat) (staged : StagedTransaction) : Entry where
  staged := staged
  categories := (tables.stagedCategoriesOf runId staged.identity).map
    StagedTransactionCategory.categoryId

/-- The links that pruning removed. -/
def prunedLinks (published after : LedgerTables) : List (TransactionCategory × Date) :=
  (published.transactionCategories.filter fun link => link ∉ after.transactionCategories).filterMap
    fun link => (published.transaction link.identity).map fun transaction =>
      (link, transaction.transactionDate)

/-- What a step publishes. -/
def publications (environment : Environment) (database : Database) (event : Event) :
    List Publication :=
  (commits environment database event).map fun run => {
    run := run
    entries := (database.refresh.stagedOf run.id).map (entryOf database.refresh run.id)
    pruned := match publishedLedger event.clock.now database run with
      | .ok published => prunedLinks published (event.next environment database).ledger
      | .error _ => [] }

/-! ## The store -/

namespace Reference

/-- The identities that the rows replace. -/
def targets (entries : List Entry) : List Identity :=
  entries.filterMap fun entry => namedTarget entry.staged

/-- The rows that no other row replaces. -/
def stored (entries : List Entry) : List Entry :=
  entries.filter fun entry => entry.identity ∉ targets entries

/-- A full run replaces the store. An incremental one removes what its rows replace, and
inserts or overwrites the others. -/
def publish (reference : List Entry) (publication : Publication) : List Entry :=
  match publication.run.mode with
  | .full => stored publication.entries
  | .incremental =>
      (reference.filter fun entry => entry.identity ∉ targets publication.entries ∧
        entry.identity ∉ (stored publication.entries).map Entry.identity) ++
          stored publication.entries

/-- The publications that a run adds to: none for a full one. -/
def continued (run : RefreshRun) (since : List Publication) : List Publication :=
  if run.mode = .full then [] else since

/-- The publications from the last full one on. -/
def sinceFull (publications : List Publication) : List Publication :=
  publications.foldl (fun since publication => continued publication.run since ++ [publication]) []

theorem sinceFull_concat (publications : List Publication) (publication : Publication) :
    sinceFull (publications ++ [publication]) =
      continued publication.run (sinceFull publications) ++ [publication] := by
  unfold sinceFull
  rw [List.foldl_concat]

end Reference

/-- What a history published, in order. -/
abbrev published (environment : Environment) (history : List Event) : List Publication :=
  (service environment).collect (publications environment) history

/-- The store after a history. -/
def reference (environment : Environment) (history : List Event) : List Entry :=
  (published environment history).foldl Reference.publish []

/-! ## One publication -/

section Publication

variable {clock : Clock} {request : RefreshCommitRequest} {run : RefreshRun}
  {config : ConfigVersion} {tables : ConfigTables} {ledger : LedgerTables}

theorem targets_entryOf (tables : RefreshTables) (runId : Nat) (items : List StagedTransaction) :
    Reference.targets (items.map (entryOf tables runId)) = items.filterMap namedTarget := by
  unfold Reference.targets
  rw [List.filterMap_map]
  rfl

theorem stored_entryOf (tables : RefreshTables) (runId : Nat) :
    Reference.stored ((tables.stagedOf runId).map (entryOf tables runId)) =
      (storedRows tables runId).map (entryOf tables runId) := by
  unfold Reference.stored
  rw [targets_entryOf, List.filter_map]
  rfl

theorem map_identity_entryOf (tables : RefreshTables) (runId : Nat)
    (items : List StagedTransaction) :
    (items.map (entryOf tables runId)).map Entry.identity =
      items.map StagedTransaction.identity := by
  rw [List.map_map]
  rfl

theorem publications_of_eq (same : (event.next environment database).refresh.committedRuns =
      database.refresh.committedRuns) : publications environment database event = [] := by
  unfold publications
  rw [commits_of_eq same, List.map_nil]

/-- The publication of a run. -/
def publicationOf (environment : Environment) (clock : Clock) (database : Database)
    (run : RefreshRun) (request : RefreshCommitRequest) (ledger after : LedgerTables) :
    Publication where
  run := finalRun environment clock database run request
  entries := (database.refresh.stagedOf run.id).map (entryOf database.refresh run.id)
  pruned := prunedLinks ledger after

theorem Published.publications_eq (invariant : SystemInvariant environment database)
    (published : Published environment event.clock database run config request
      (event.next environment database) tables ledger) :
    publications environment database event =
      [publicationOf environment event.clock database run request ledger
        (event.next environment database).ledger] := by
  have publishes : publishedLedger event.clock.now database
      (finalRun environment event.clock database run request) = .ok ledger := published.publishes
  unfold publications publicationOf
  rw [published.commits_eq invariant, List.map_singleton, publishes]
  rfl

end Publication

/-! ## The live tables and the store -/

/-- A rule of a category no longer covered a date at the end of a run. -/
def LeftWindow (tables : ConfigTables) (publication : Publication) (categoryId : Nat)
    (date : Date) : Prop :=
  ∃ row ∈ rulesForConfig tables publication.run.configVersionId, row.category.id = categoryId ∧
    date.ordinal + (row.rule.lookbackDays - 1) < publication.run.sourceToDate.ordinal

theorem LeftWindow.mono {before after : ConfigTables} {publication : Publication}
    {categoryId : Nat} {date : Date} {config : ConfigVersion}
    (left : LeftWindow before publication categoryId date) (grows : before.Extends after)
    (found : before.configVersion publication.run.configVersionId = some config) :
    LeftWindow after publication categoryId date := by
  rcases left with ⟨row, member, category, old⟩
  have sameId : config.id = publication.run.configVersionId := Table.key_of_get found
  rw [← sameId] at found member
  rcases grows.exists_after found member with ⟨row', member', same⟩
  refine ⟨row', sameId ▸ member', same.categoryId.trans category, ?_⟩
  rw [same.rule]
  exact old

/-- An entry and the live row it is published as. -/
structure Agrees (entry : Entry) (transaction : Transaction) : Prop where
  identity : entry.identity = transaction.identity
  date : entry.date = transaction.transactionDate
  posting : entry.posting = posting transaction

/-- What ties the live tables to the store, and to the publications since the last full one. -/
structure Tracks (database : Database) (reference : List Entry) (since : List Publication) :
    Prop where
  identities : (reference.map Entry.identity).Nodup
  transactions : ∀ transaction ∈ database.ledger.transactions,
    ∃ entry ∈ reference, Agrees entry transaction
  links : ∀ link ∈ database.ledger.transactionCategories,
    ∃ entry ∈ reference, entry.identity = link.identity ∧ link.categoryId ∈ entry.categories
  kept : ∀ entry ∈ reference, ∀ categoryId ∈ entry.categories,
    (∃ link ∈ database.ledger.transactionCategories,
        link.identity = entry.identity ∧ link.categoryId = categoryId) ∨
      ∃ publication ∈ since, LeftWindow database.config publication categoryId entry.date
  pruned : ∀ publication ∈ since, ∀ gone ∈ publication.pruned,
    LeftWindow database.config publication gone.1.categoryId gone.2
  owner : ∀ publication ∈ since,
    database.config.active.map ConfigVersion.id = some publication.run.configVersionId
  runs : ∀ publication ∈ since,
    database.refresh.run publication.run.id = some publication.run ∧
      publication.run.state = .committed
  last : database.syncState.map SyncState.lastRefreshRunId =
    since.getLast?.map fun publication => publication.run.id
  full : since = [] ∨ ∃ publication rest, since = publication :: rest ∧
    publication.run.mode = .full

theorem Tracks.empty : Tracks Database.empty [] [] := by
  constructor <;> simp [Database.empty]

theorem Tracks.put {clock : Clock} {request : ConfigPutRequest} {ifMatch : Option Text}
    {checkExpected : Bool} {expectedBaseHash : Option Text} {view : ConfigView}
    {session : ConfigTables} {reference : List Entry} {since : List Publication}
    (tracks : Tracks database reference since) (invariant : SystemInvariant environment database)
    (result : PutResult environment clock database request ifMatch checkExpected expectedBaseHash
      committed view session) : Tracks committed reference since := by
  have grows := (invariant.config.put result).2
  have refreshEq : committed.refresh = database.refresh := by rw [result.committed]
  have ledgerEq : committed.ledger = database.ledger := by rw [result.committed]
  have syncEq : committed.syncState = database.syncState := by rw [result.committed]
  have moves : ∀ publication ∈ since, ∀ categoryId date,
      LeftWindow database.config publication categoryId date →
        LeftWindow committed.config publication categoryId date := by
    intro publication member categoryId date left
    rcases Option.map_eq_some_iff.mp (tracks.owner publication member) with ⟨active, found, sameId⟩
    have activeFound := invariant.config.wellFormed.find_version (ConfigTables.active_mem found).1
    rw [sameId] at activeFound
    exact left.mono grows activeFound
  refine ⟨tracks.identities, ?_, ?_, ?_, ?_, ?_, ?_, ?_, tracks.full⟩
  · rw [ledgerEq]
    exact tracks.transactions
  · rw [ledgerEq]
    exact tracks.links
  · rw [ledgerEq]
    intro entry member categoryId listed
    rcases tracks.kept entry member categoryId listed with live | ⟨publication, inSince, left⟩
    · exact Or.inl live
    · exact Or.inr ⟨publication, inSince, moves publication inSince _ _ left⟩
  · intro publication member gone goneMember
    exact moves publication member _ _ (tracks.pruned publication member gone goneMember)
  · intro publication member
    rcases Option.map_eq_some_iff.mp (tracks.owner publication member) with ⟨active, found, sameId⟩
    rw [result.active_eq invariant.config found, Option.map_some, sameId]
  · rw [refreshEq]
    exact tracks.runs
  · rw [syncEq]
    exact tracks.last

theorem Tracks.staging {reference : List Entry} {since : List Publication}
    (tracks : Tracks database reference since) (configEq : committed.config = database.config)
    (ledgerEq : committed.ledger = database.ledger)
    (syncEq : committed.syncState = database.syncState)
    (grows : database.refresh.Extends committed.refresh) : Tracks committed reference since := by
  rcases tracks with ⟨identities, transactions, links, kept, pruned, owner, runs, last, full⟩
  refine ⟨identities, ?_, ?_, ?_, ?_, ?_, ?_, ?_, full⟩
  · rw [ledgerEq]
    exact transactions
  · rw [ledgerEq]
    exact links
  · rw [ledgerEq, configEq]
    exact kept
  · rw [configEq]
    exact pruned
  · rw [configEq]
    exact owner
  · intro publication member
    rcases runs publication member with ⟨found, isCommitted⟩
    rcases grows.run found with ⟨run', found', _, same⟩
    exact ⟨same isCommitted ▸ found', isCommitted⟩
  · rw [syncEq]
    exact last

/-! ## A commit -/

section Commit

variable {clock : Clock} {request : RefreshCommitRequest} {run : RefreshRun}
  {config : ConfigVersion} {tables : ConfigTables} {ledger : LedgerTables}
  {store : List Entry} {since : List Publication}

theorem Reference.mem_publish {publication : Publication} {entry : Entry} :
    entry ∈ Reference.publish store publication ↔
      (publication.run.mode = .incremental ∧ entry ∈ store ∧
          entry.identity ∉ Reference.targets publication.entries ∧
          entry.identity ∉ (Reference.stored publication.entries).map Entry.identity) ∨
        entry ∈ Reference.stored publication.entries := by
  unfold Reference.publish
  split
  · next full => simp [full]
  · next incremental =>
      rw [List.mem_append, List.mem_filter, decide_eq_true_eq]
      simp [incremental]

theorem Reference.nodup_publish {publication : Publication}
    (older : (store.map Entry.identity).Nodup)
    (newer : (publication.entries.map Entry.identity).Nodup) :
    ((Reference.publish store publication).map Entry.identity).Nodup := by
  have stored : ((Reference.stored publication.entries).map Entry.identity).Nodup :=
    newer.sublist (List.filter_sublist.map _)
  unfold Reference.publish
  split
  · exact stored
  · rw [List.map_append, List.nodup_append]
    refine ⟨older.sublist (List.filter_sublist.map _), stored, ?_⟩
    intro identity oldMember other newMember same
    rcases List.mem_map.mp oldMember with ⟨entry, entryMember, rfl⟩
    have apart := of_decide_eq_true (List.mem_filter.mp entryMember).2
    exact apart.2 (same ▸ newMember)

/-- The store and the live tables once the rows of a run are stored, before pruning. -/
structure Merged (ledger : LedgerTables) (tables : ConfigTables) (reference : List Entry)
    (since : List Publication) : Prop where
  transactions : ∀ transaction ∈ ledger.transactions,
    ∃ entry ∈ reference, Agrees entry transaction
  links : ∀ link ∈ ledger.transactionCategories,
    ∃ entry ∈ reference, entry.identity = link.identity ∧ link.categoryId ∈ entry.categories
  kept : ∀ entry ∈ reference, ∀ categoryId ∈ entry.categories,
    (∃ link ∈ ledger.transactionCategories,
        link.identity = entry.identity ∧ link.categoryId = categoryId) ∨
      ∃ publication ∈ since, LeftWindow tables publication categoryId entry.date

theorem Tracks.merged (tracks : Tracks database store since)
    (invariant : SystemInvariant environment database)
    (result : Published environment clock database run config request committed tables ledger) :
    Merged ledger database.config (Reference.publish store
      (publicationOf environment clock database run request ledger committed.ledger))
      (Reference.continued run since) := by
  rcases result.ledger invariant with ⟨publishedFrom, sameTargets, _⟩
  have entryCases : ∀ entry, entry ∈ Reference.publish store
      (publicationOf environment clock database run request ledger committed.ledger) ↔
        (run.mode = .incremental ∧ entry ∈ store ∧
          entry.identity ∉ (storedRows database.refresh run.id).filterMap namedTarget ∧
          entry.identity ∉ (storedRows database.refresh run.id).map StagedTransaction.identity) ∨
        entry ∈ (storedRows database.refresh run.id).map (entryOf database.refresh run.id) := by
    intro entry
    rw [Reference.mem_publish]
    show (run.mode = _ ∧ entry ∈ store ∧ entry.identity ∉ Reference.targets (List.map _ _) ∧
      entry.identity ∉ (Reference.stored (List.map _ _)).map Entry.identity) ∨
        entry ∈ Reference.stored (List.map _ _) ↔ _
    rw [targets_entryOf, stored_entryOf, map_identity_entryOf, sameTargets]
  refine ⟨?_, ?_, ?_⟩
  · intro transaction member
    rcases (publishedFrom.transactions transaction).mp member with
      ⟨old, notReplaced, notStored⟩ | ⟨staged, stored, rfl⟩
    · rcases mem_publicationBase_transactions.mp old with ⟨mode, inLedger⟩
      rcases tracks.transactions transaction inLedger with ⟨entry, inStore, agrees⟩
      refine ⟨entry, (entryCases entry).mpr (Or.inl ⟨mode, inStore, ?_, ?_⟩), agrees⟩
      · exact agrees.identity ▸ notReplaced
      · exact agrees.identity ▸ notStored
    · exact ⟨_, (entryCases _).mpr (Or.inr (List.mem_map_of_mem stored)), rfl, rfl, rfl⟩
  · intro link member
    rcases (publishedFrom.links link).mp member with
      ⟨old, notReplaced, notStored⟩ | ⟨staged, stored, source, sourceMember, rfl⟩
    · rcases mem_publicationBase_links.mp old with ⟨mode, inLedger⟩
      rcases tracks.links link inLedger with ⟨entry, inStore, same, listed⟩
      refine ⟨entry, (entryCases entry).mpr (Or.inl ⟨mode, inStore, ?_, ?_⟩), same, listed⟩
      · exact same ▸ notReplaced
      · exact same ▸ notStored
    · exact ⟨_, (entryCases _).mpr (Or.inr (List.mem_map_of_mem stored)),
        (identity_stagedCategory sourceMember).symm, List.mem_map_of_mem sourceMember⟩
  · intro entry member categoryId listed
    rcases (entryCases entry).mp member with
      ⟨mode, inStore, notReplaced, notStored⟩ | isNew
    · have unchanged : Reference.continued run since = since := if_neg (by simp [mode])
      rw [unchanged]
      rcases tracks.kept entry inStore categoryId listed with ⟨link, live, same, category⟩ | gone
      · refine Or.inl ⟨link, (publishedFrom.links link).mpr (Or.inl ⟨?_, ?_, ?_⟩), same, category⟩
        · exact mem_publicationBase_links.mpr ⟨mode, live⟩
        · exact same ▸ notReplaced
        · exact same ▸ notStored
      · exact Or.inr gone
    · rcases List.mem_map.mp isNew with ⟨staged, stored, rfl⟩
      rcases List.mem_map.mp listed with ⟨source, sourceMember, rfl⟩
      exact Or.inl ⟨liveCategory run source, (publishedFrom.links _).mpr
        (Or.inr ⟨staged, stored, source, sourceMember, rfl⟩),
        identity_stagedCategory sourceMember, rfl⟩

theorem mem_continued {publication : Publication} (member : publication ∈ Reference.continued run since) :
    run.mode = .incremental ∧ publication ∈ since := by
  unfold Reference.continued at member
  split at member
  · cases member
  · next notFull =>
    refine ⟨?_, member⟩
    cases kind : run.mode with
    | full => exact absurd kind notFull
    | incremental => rfl

/-- A link is pruned when a rule of its category no longer covers its row. -/
theorem leftWindow_of_not_covered {after : LedgerTables} (sound : LedgerSound ledger)
    {link : TransactionCategory} {transaction : Transaction}
    (member : transaction ∈ ledger.transactions) (same : link.identity = transaction.identity)
    (pruned : ¬Covered database.config run ledger link) :
    LeftWindow database.config
      (publicationOf environment clock database run request ledger after) link.categoryId
      transaction.transactionDate := by
  rw [covered_iff sound member same] at pruned
  unfold InWindow at pruned
  push Not at pruned
  exact pruned

theorem Tracks.commit (tracks : Tracks database store since)
    (invariant : SystemInvariant environment database)
    (result : Published environment clock database run config request committed tables ledger) :
    Tracks committed
      (Reference.publish store
        (publicationOf environment clock database run request ledger committed.ledger))
      (Reference.continued run since ++
        [publicationOf environment clock database run request ledger committed.ledger]) := by
  have grows := (result.grows invariant.config).2
  have merged := tracks.merged invariant result
  have opened := result.opened invariant.refresh
  have configId : run.configVersionId = config.id :=
    (Table.key_of_get result.committable.configFound).symm
  have activeId := result.activeId invariant.config
  rcases result.ledger invariant with ⟨publishedFrom, _, pruned⟩
  have identities : ((Reference.publish store (publicationOf environment clock database run request
      ledger committed.ledger)).map Entry.identity).Nodup := by
    refine Reference.nodup_publish tracks.identities ?_
    show ((List.map _ _).map Entry.identity).Nodup
    rw [map_identity_entryOf]
    exact opened.identities
  have earlier : ∀ publication ∈ Reference.continued run since, ∀ categoryId date,
      LeftWindow database.config publication categoryId date →
        LeftWindow committed.config publication categoryId date := by
    intro publication member categoryId date left
    rcases Option.map_eq_some_iff.mp (tracks.owner publication (mem_continued member).2) with
      ⟨active, found, sameId⟩
    have activeFound := invariant.config.wellFormed.find_version (ConfigTables.active_mem found).1
    rw [sameId] at activeFound
    exact left.mono grows activeFound
  -- The links that this run prunes.
  have gone : ∀ link ∈ ledger.transactionCategories, link ∉ committed.ledger.transactionCategories →
      ∀ transaction ∈ ledger.transactions, link.identity = transaction.identity →
        LeftWindow committed.config
          (publicationOf environment clock database run request ledger committed.ledger)
          link.categoryId transaction.transactionDate := by
    intro link member removed transaction transactionMember same
    have left : LeftWindow database.config
        (publicationOf environment clock database run request ledger committed.ledger)
        link.categoryId transaction.transactionDate :=
      leftWindow_of_not_covered publishedFrom.sound transactionMember same fun covered =>
        removed ((pruned.links link).mpr ⟨member, covered⟩)
    exact left.mono grows result.committable.configFound
  refine ⟨identities, ?_, ?_, ?_, ?_, ?_, ?_, ?_, ?_⟩
  · intro transaction member
    exact merged.transactions transaction ((pruned.transactions transaction).mp member).1
  · intro link member
    exact merged.links link ((pruned.links link).mp member).1
  · intro entry member categoryId listed
    rcases merged.kept entry member categoryId listed with ⟨link, inLedger, same, category⟩ |
      ⟨publication, inSince, left⟩
    · by_cases live : link ∈ committed.ledger.transactionCategories
      · exact Or.inl ⟨link, live, same, category⟩
      · rcases publishedFrom.sound.linked link inLedger with ⟨transaction, transactionMember, owner⟩
        rcases merged.transactions transaction transactionMember with ⟨other, inStore, agrees⟩
        have sameEntry : other = entry := List.inj_on_of_nodup_map identities inStore member
          (agrees.identity.trans (owner.trans same))
        refine Or.inr ⟨_, List.mem_append_right _ (List.mem_singleton_self _), ?_⟩
        rw [← category, ← sameEntry, agrees.date]
        exact gone link inLedger live transaction transactionMember owner.symm
    · exact Or.inr ⟨publication, List.mem_append_left _ inSince,
        earlier publication inSince _ _ left⟩
  · intro publication member entry entryMember
    rcases List.mem_append.mp member with inSince | isNew
    · exact earlier publication inSince _ _
        (tracks.pruned publication (mem_continued inSince).2 entry entryMember)
    · rw [List.mem_singleton.mp isNew] at entryMember ⊢
      rcases List.mem_filterMap.mp entryMember with ⟨link, linkMember, dated⟩
      rcases List.mem_filter.mp linkMember with ⟨inLedger, removed⟩
      rcases Option.map_eq_some_iff.mp dated with ⟨transaction, found, rfl⟩
      exact gone link inLedger (of_decide_eq_true removed) transaction (Table.mem_of_get found)
        (Table.key_of_get found).symm
  · intro publication member
    rcases List.mem_append.mp member with inSince | isNew
    · rcases mem_continued inSince with ⟨incremental, inOld⟩
      rw [activeId, result.base_owner incremental (tracks.owner publication inOld)]
    · rw [List.mem_singleton.mp isNew, activeId, ← configId]
      rfl
  · intro publication member
    rcases List.mem_append.mp member with inSince | isNew
    · rcases tracks.runs publication (mem_continued inSince).2 with ⟨found, isCommitted⟩
      rcases result.refreshGrows.run found with ⟨run', found', _, same⟩
      exact ⟨same isCommitted ▸ found', isCommitted⟩
    · rw [List.mem_singleton.mp isNew]
      exact ⟨result.runAfter, rfl⟩
  · rw [result.syncStateEq, List.getLast?_concat]
    unfold nextSyncState
    split <;> rfl
  · cases kind : run.mode with
    | full =>
        rw [Reference.continued, if_pos kind]
        exact Or.inr ⟨_, [], rfl, kind⟩
    | incremental =>
        have unchanged : Reference.continued run since = since := if_neg (by simp [kind])
        rw [unchanged]
        rcases tracks.full with none | ⟨publication, rest, rfl, isFull⟩
        · rcases result.committable.continues kind with ⟨syncState, _, sync, _⟩
          have last := tracks.last
          rw [none, sync] at last
          cases last
        · exact Or.inr ⟨publication, rest ++ [_], rfl, isFull⟩

end Commit

/-! ## Every history -/

theorem tracks_run (environment : Environment) (history : List Event) :
    Tracks ((service environment).run history) (reference environment history)
      (Reference.sinceFull (published environment history)) := by
  induction history using List.reverseRecOn with
  | nil => exact Tracks.empty
  | append_singleton history event induction =>
      have invariant := invariant_run environment history
      have unchanged : publications environment ((service environment).run history) event = [] →
          reference environment (history ++ [event]) = reference environment history ∧
            published environment (history ++ [event]) = published environment history := by
        intro none
        unfold reference published
        rw [Machine.collect_concat, none, List.append_nil]
        exact ⟨rfl, rfl⟩
      rw [Machine.run_concat]
      cases invariant.liveStep event with
      | put result =>
          have sameRuns : (event.next environment ((service environment).run history)).refresh =
              ((service environment).run history).refresh := by rw [result.committed]
          rcases unchanged (publications_of_eq (by rw [sameRuns])) with ⟨sameStore, samePublished⟩
          rw [sameStore, samePublished]
          exact induction.put invariant result
      | staging config ledger syncState committedRuns grows =>
          rcases unchanged (publications_of_eq committedRuns) with ⟨sameStore, samePublished⟩
          rw [sameStore, samePublished]
          exact induction.staging config ledger syncState grows
      | commit result =>
          have emitted := result.publications_eq invariant
          unfold reference published
          rw [Machine.collect_concat, emitted, List.foldl_concat, Reference.sinceFull_concat]
          exact induction.commit invariant result

end RollingBudget
