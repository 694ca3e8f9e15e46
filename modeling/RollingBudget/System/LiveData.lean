import RollingBudget.System.Revisions

namespace RollingBudget

open Sorting ConfigService RefreshService

/-! The live rows are well formed after every commit, although most of them were stored
by earlier runs: a full run replaces all of them, and an incremental one has the accounts
and the version of the run before. -/

variable {environment : Environment} {database committed : Database} {clock : Clock}

/-- A refund is at most the amount, and flagged exactly when there is one. -/
structure MoneySound (amount refundAmount : Decimal) (refunded : Bool) : Prop where
  nonnegative : 0 ≤ refundAmount.value
  atMost : refundAmount.value ≤ amount.value
  flagged : refunded = true ↔ 0 < refundAmount.value

/-- The live rows, as the run that committed last and the active version have them. -/
structure LiveWellFormed (database : Database) (run : RefreshRun) (active : ConfigVersion) :
    Prop where
  linked : ∀ transaction ∈ database.ledger.transactions,
    ∃ link ∈ database.ledger.transactionCategories, link.identity = transaction.identity
  owned : ∀ link ∈ database.ledger.transactionCategories,
    ∃ transaction ∈ database.ledger.transactions, transaction.identity = link.identity
  accounts : ∀ transaction ∈ database.ledger.transactions,
    transaction.accountId ∈ run.expectedAccounts
  currency : ∀ transaction ∈ database.ledger.transactions,
    transaction.currency = active.displayCurrency
  windows : ∀ link ∈ database.ledger.transactionCategories,
    ∃ rule, database.config.ruleVersion link.ruleVersionId = some rule ∧
      ∀ transaction ∈ database.ledger.transactions, transaction.identity = link.identity →
        run.sourceToDate.ordinal ≤ transaction.transactionDate.ordinal + (rule.lookbackDays - 1)
  money : ∀ transaction ∈ database.ledger.transactions,
    MoneySound transaction.amount transaction.refundAmount transaction.refunded

/-! ## Staged amounts -/

def StagedMoney (tables : RefreshTables) : Prop :=
  ∀ staged ∈ tables.stagedTransactions,
    MoneySound staged.amount staged.refundAmount staged.refunded

theorem moneySound_stagedTransaction (run : RefreshRun) (batchIndex : Nat)
    {item : TransactionUpload} (valid : item.Valid) :
    MoneySound (stagedTransaction environment run batchIndex item).amount
      (stagedTransaction environment run batchIndex item).refundAmount
      (stagedTransaction environment run batchIndex item).refunded := by
  have amount := Money.value_reload environment.dialect valid.amount
  have refundAmount := Money.value_reload environment.dialect valid.refundAmount
  refine ⟨?_, ?_, ?_⟩
  · exact refundAmount.symm ▸ Money.value_nonneg valid.refundAmount
  · show (Money.reload environment.dialect item.refundAmount).value ≤
      (Money.reload environment.dialect item.amount).value
    rw [amount, refundAmount]
    exact valid.refundBound
  · show item.refunded = true ↔ 0 < (Money.reload environment.dialect item.refundAmount).value
    rw [refundAmount, valid.refundedIff, decide_eq_true_eq]

theorem Succeeds.stagedMoney {event : Event} {response : Response}
    (succeeds : Succeeds environment database event committed response)
    (staged : StagedMoney database.refresh) : StagedMoney committed.refresh := by
  cases succeeds with
  | putConfig validated result =>
      rw [result.committed]
      exact staged
  | putConfigChecked validated result =>
      rw [result.committed]
      exact staged
  | beginRefresh validated result =>
      cases result with
      | replay existing config found hash configFound result answer =>
          rw [result]
          exact staged
      | new target missing begun result answer =>
          rw [result]
          exact staged
  | uploadBatch validated limits result =>
      cases result with
      | replay run existing runFound found hash checksum result answer =>
          rw [result]
          exact staged
      | new run config runId_eq uploaded result answer =>
          have valid := RefreshBatchRequest.valid_of_validate validated
          rw [result]
          intro row member
          rcases List.mem_append.mp member with old | new
          · exact staged row old
          · rcases List.mem_map.mp new with ⟨item, itemMember, rfl⟩
            exact moneySound_stagedTransaction run _ (valid.transactions item itemMember)
  | commitRefresh validated result =>
      cases result with
      | replay run found state count accounts result answer =>
          rw [result]
          exact staged
      | new run config tables ledger runId_eq published answer =>
          rw [published.refreshEq]
          intro row member
          exact staged row (List.mem_of_mem_filter member)

/-! ## One step -/

/-- The live rows are well formed whenever a run has committed. -/
def LiveSound (database : Database) : Prop :=
  ∀ syncState run active, database.syncState = some syncState →
    database.refresh.run syncState.lastRefreshRunId = some run →
      database.config.active = some active → LiveWellFormed database run active

theorem LiveSound.put {request : ConfigPutRequest} {ifMatch : Option Text} {checkExpected : Bool}
    {expectedBaseHash : Option Text} {view : ConfigView} {session : ConfigTables}
    (sound : LiveSound database) (invariant : SystemInvariant environment database)
    (result : PutResult environment clock database request ifMatch checkExpected expectedBaseHash
      committed view session) : LiveSound committed := by
  have grows := (invariant.config.put result).2
  have refreshEq : committed.refresh = database.refresh := by rw [result.committed]
  have ledgerEq : committed.ledger = database.ledger := by rw [result.committed]
  have syncEq : committed.syncState = database.syncState := by rw [result.committed]
  intro syncState run active syncFound runFound activeFound
  rw [syncEq] at syncFound
  rw [refreshEq] at runFound
  -- A run has committed, so a version was active before and still is.
  rcases Option.map_eq_some_iff.mp (invariant.live.sync syncState syncFound).1 with
    ⟨before, beforeFound, _⟩
  rw [result.active_eq invariant.config beforeFound, Option.some.injEq] at activeFound
  rw [activeFound] at beforeFound
  rcases sound syncState run active syncFound runFound beforeFound with
    ⟨linked, owned, accounts, currency, windows, money⟩
  refine ⟨?_, ?_, ?_, ?_, ?_, ?_⟩ <;> rw [ledgerEq]
  · exact linked
  · exact owned
  · exact accounts
  · exact currency
  · intro link member
    rcases windows link member with ⟨rule, found, covered⟩
    exact ⟨rule, grows.ruleVersion found, covered⟩
  · exact money

theorem LiveSound.staging (sound : LiveSound database)
    (invariant : SystemInvariant environment database)
    (configEq : committed.config = database.config) (ledgerEq : committed.ledger = database.ledger)
    (syncEq : committed.syncState = database.syncState)
    (grows : database.refresh.Extends committed.refresh) : LiveSound committed := by
  intro syncState run active syncFound runFound activeFound
  rw [syncEq] at syncFound
  rw [configEq] at activeFound
  rcases invariant.live.sync syncState syncFound with ⟨_, last, lastFound, isCommitted, _⟩
  rcases grows.run lastFound with ⟨last', lastFound', _, kept⟩
  rw [runFound, Option.some.injEq] at lastFound'
  rw [lastFound', kept isCommitted]
  have wellFormed := sound syncState last active syncFound lastFound activeFound
  refine ⟨?_, ?_, ?_, ?_, ?_, ?_⟩ <;> simp only [ledgerEq, configEq]
  · exact wellFormed.linked
  · exact wellFormed.owned
  · exact wellFormed.accounts
  · exact wellFormed.currency
  · exact wellFormed.windows
  · exact wellFormed.money

section Commit

variable {request : RefreshCommitRequest} {run : RefreshRun} {config : ConfigVersion}
  {tables : ConfigTables} {published : LedgerTables}

/-- An incremental run publishes over rows of its own accounts and version. -/
theorem LiveSound.base (sound : LiveSound database)
    (invariant : SystemInvariant environment database)
    (result : Published environment clock database run config request committed tables published)
    {transaction : Transaction}
    (member : transaction ∈ (publicationBase run database.ledger).transactions) :
    transaction.accountId ∈ run.expectedAccounts ∧
      transaction.currency = config.displayCurrency ∧
      MoneySound transaction.amount transaction.refundAmount transaction.refunded := by
  unfold publicationBase at member
  cases kind : run.mode with
  | full =>
      rw [kind] at member
      cases member
  | incremental =>
      rw [kind] at member
      rcases result.committable.continues kind with
        ⟨syncState, previous, syncFound, previousFound, sameAccounts⟩
      have found : database.config.active = some config := by
        rcases (result.committable.target invariant.config).2 with ⟨full, _⟩ | ⟨_, active⟩
        · rw [kind] at full
          cases full
        · exact active
      have wellFormed := sound syncState previous config syncFound previousFound found
      refine ⟨?_, wellFormed.currency transaction member, wellFormed.money transaction member⟩
      have account := wellFormed.accounts transaction member
      rw [← List.mem_toFinset, sameAccounts, List.mem_toFinset] at account
      exact account

theorem LiveSound.commit (sound : LiveSound database)
    (invariant : SystemInvariant environment database) (staged : StagedMoney database.refresh)
    (result : Published environment clock database run config request committed tables published) :
    LiveSound committed := by
  have after := invariant.commit result
  have opened := result.opened invariant.refresh
  have boundTo : run.configVersionId = config.id :=
    (Table.key_of_get result.committable.configFound).symm
  rcases result.active invariant.config with ⟨current, currentFound, frozen⟩
  rcases result.ledger invariant with ⟨publishedFrom, _, pruned⟩
  intro syncState last active syncFound lastFound activeFound
  rw [currentFound, Option.some.injEq] at activeFound
  rw [result.syncStateEq, Option.some.injEq] at syncFound
  have lastId : syncState.lastRefreshRunId = run.id := by
    rw [← syncFound]
    unfold nextSyncState
    split <;> rfl
  rw [lastId, result.runAfter, Option.some.injEq] at lastFound
  have sameAccounts : last.expectedAccounts = run.expectedAccounts := by rw [← lastFound]; rfl
  have sameEnd : last.sourceToDate = run.sourceToDate := by rw [← lastFound]; rfl
  have row : ∀ transaction ∈ committed.ledger.transactions,
      transaction.accountId ∈ run.expectedAccounts ∧
        transaction.currency = config.displayCurrency ∧
        MoneySound transaction.amount transaction.refundAmount transaction.refunded := by
    intro transaction member
    rcases (publishedFrom.transactions transaction).mp
      ((pruned.transactions transaction).mp member).1 with ⟨old, _⟩ | ⟨source, stored, rfl⟩
    · exact sound.base invariant result old
    · have inRun : source ∈ database.refresh.stagedOf run.id := List.mem_of_mem_filter stored
      have checked := opened.staged source inRun
      exact ⟨checked.account, checked.currency, staged source (List.mem_of_mem_filter inRun)⟩
  refine ⟨?_, pruned.sound.linked, ?_, ?_, ?_, ?_⟩
  · exact fun transaction member => ((pruned.transactions transaction).mp member).2
  · intro transaction member
    rw [sameAccounts]
    exact (row transaction member).1
  · intro transaction member
    rw [← activeFound, ConfigVersion.displayCurrency_of_frozen frozen]
    exact (row transaction member).2.1
  · intro link member
    rcases after.live.links link member with ⟨owner, linked, linkedMember, category, rule⟩
    rw [result.activeId invariant.config, Option.some.injEq] at owner
    rw [← owner] at linkedMember
    have inRules := List.mem_of_mem_filter linkedMember
    have ruleFound := (linkedRule_eq_some_iff.mp (mem_rulesForConfig.mp inRules).2).1
    have ruleId := Table.key_of_get ruleFound
    refine ⟨linked.rule, ?_, ?_⟩
    · rw [← rule, ruleId]
      exact ruleFound
    · intro transaction transactionMember same
      have configMember := (result.committable.target invariant.config).1
      have configFound := invariant.config.wellFormed.find_version configMember
      rcases (result.grows invariant.config).2.exists_before configFound
        (invariant.config.wellFormed.sound config configMember) inRules with
        ⟨before, beforeMember, sameRule⟩
      rw [← boundTo] at beforeMember
      have covered := ((pruned.links link).mp member).2 before beforeMember
        (sameRule.categoryId.symm.trans category) transaction
        ((pruned.transactions transaction).mp transactionMember).1 same
      rw [sameEnd, sameRule.rule]
      exact covered
  · exact fun transaction member => (row transaction member).2.2

end Commit

/-! ## Every history -/

theorem live_run (environment : Environment) (history : List Event) :
    StagedMoney ((service environment).run history).refresh ∧
      LiveSound ((service environment).run history) := by
  induction history using List.reverseRecOn with
  | nil =>
      refine ⟨?_, ?_⟩
      · intro staged member
        cases member
      · intro syncState run active syncFound
        cases syncFound
  | append_singleton history event induction =>
      have invariant := invariant_run environment history
      rcases induction with ⟨staged, sound⟩
      rw [Machine.run_concat]
      refine ⟨?_, ?_⟩
      · rcases event.next_cases invariant.config with unchanged | ⟨response, succeeds⟩
        · show StagedMoney (event.next environment _).refresh
          rw [unchanged]
          exact staged
        · exact succeeds.stagedMoney staged
      · cases invariant.liveStep event with
        | put result => exact sound.put invariant result
        | staging config ledger syncState committedRuns grows =>
            exact sound.staging invariant config ledger syncState grows
        | commit published => exact sound.commit invariant staged published

/-- After every commit the live rows are well formed: linked both ways, of the accounts of
the run that committed last, in the active currency, inside its windows, with sound refunds. -/
theorem live_data_well_formed (environment : Environment) (history : List Event)
    (syncState : SyncState)
    (synced : ((service environment).run history).syncState = some syncState) :
    ∃ run active,
      ((service environment).run history).refresh.run syncState.lastRefreshRunId = some run ∧
        run.state = .committed ∧ ((service environment).run history).config.active = some active ∧
        LiveWellFormed ((service environment).run history) run active := by
  rcases (invariant_run environment history).live.sync syncState synced with
    ⟨owner, run, runFound, isCommitted, _⟩
  rcases Option.map_eq_some_iff.mp owner with ⟨active, activeFound, _⟩
  exact ⟨run, active, runFound, isCommitted, activeFound,
    (live_run environment history).2 syncState run active synced runFound activeFound⟩

theorem live_data_well_formed_month : ∃ run active,
    run.state = .committed ∧ LiveWellFormed ((service .transparent).run Sample.synced) run active := by
  have synced : ((service .transparent).run Sample.synced).syncState.isSome = true := by
    decide +kernel
  rcases Option.isSome_iff_exists.mp synced with ⟨syncState, found⟩
  rcases live_data_well_formed .transparent Sample.synced syncState found with
    ⟨run, active, _, isCommitted, _, wellFormed⟩
  exact ⟨run, active, isCommitted, wellFormed⟩

end RollingBudget
