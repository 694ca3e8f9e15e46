import RollingBudget.Guards.PutConfig
import RollingBudget.System.LiveData

namespace RollingBudget

open SingleUser Sorting ConfigService RefreshService Flushes

/-! Every write of `begin_refresh` and `upload_batch` passes its guards, and the database ends up
as the call commits it. -/

variable {environment : Environment} {clock : Clock} {database : Database}

/-! ## `begin_refresh` -/

section Begin

variable {request : RefreshBeginRequest} {idempotencyKey : Text} {target : ConfigVersion}

theorem guarded_newRun (clock : Clock) (digests : environment.HexDigests) (valid : request.Valid)
    (constraints : database.Constraints)
    (missing : Table.get RefreshRun.idempotencyKey database.refresh.refreshRuns idempotencyKey =
      none)
    (begun : Begun database request target) :
    database.Guarded (.insert (.refreshRun
      (newRun environment clock database request idempotencyKey target))) := by
  constructor
  · intro incremental
    rcases begun.targetCase with ⟨_, _, active⟩ | ⟨full, _⟩
    · exact ⟨target, (ConfigTables.active_mem active).1, rfl, (ConfigTables.active_mem active).2⟩
    · exact absurd (full.symm.trans incremental) (by decide)
  · apply constraints.insertRefreshRun
    · constructor
      · exact valid.dates
      · exact digests.sha256Hex _
      · intro checksum member
        cases member
      · intro failed
        cases failed
      · intro committed
        cases committed
    · intro old member
      exact Table.ne_freshId_map member
    · exact Table.get_eq_none_iff.mp missing
    · exact List.mem_map_of_mem begun.mem_target
  · rfl

theorem runs_beginRefresh (digests : environment.HexDigests) (valid : request.Valid)
    (constraints : database.Constraints) (maxBatchItems maxRequestBytes : Nat) :
    guardedDatabase.Runs database
      (Flushes.beginRefresh environment clock database request idempotencyKey maxBatchItems
        maxRequestBytes) fun value state => state = value.1 := by
  apply GuardedStore.Runs.liftThen
  rintro ⟨committed, response⟩ completed
  cases beginRefresh_cases completed with
  | replay existing config found hash configFound result answer =>
      rw [result]
      dsimp only
      rw [List.drop_length]
      exact GuardedStore.Runs.emitThen trivial rfl (GuardedStore.Runs.pure rfl)
  | new target missing begun result answer =>
      rw [result]
      have added : (insertRun database (newRun environment clock database request idempotencyKey
          target)).refresh.refreshRuns.drop database.refresh.refreshRuns.length =
            [newRun environment clock database request idempotencyKey target] :=
        List.drop_left
      dsimp only
      rw [added]
      refine GuardedStore.Runs.emitThen ?_ rfl (GuardedStore.Runs.pure rfl)
      exact ⟨guarded_newRun clock digests valid constraints missing begun, trivial⟩

end Begin

/-! ## Rows of a batch -/

section Rows

variable {item : TransactionUpload} {items : List TransactionUpload} {run : RefreshRun}
  {config : ConfigVersion} {tables : ConfigTables}

theorem MoneySound.amountChecks {amount refundAmount : Decimal} {refunded : Bool}
    (sound : MoneySound amount refundAmount refunded) (admitted : amount.Admitted)
    (refundAdmitted : refundAmount.Admitted) : AmountChecks amount refundAmount refunded := by
  have amountUnits := MoneyCodec.signedUnits_eq_mul_value admitted.2.1
  have refundUnits := MoneyCodec.signedUnits_eq_mul_value refundAdmitted.2.1
  have amountNonnegative : 0 ≤ MoneyCodec.signedUnits amount := by
    rw [MoneyCodec.signedUnits_eq_units admitted]
    exact Int.natCast_nonneg _
  have refundNonnegative : 0 ≤ MoneyCodec.signedUnits refundAmount := by
    rw [MoneyCodec.signedUnits_eq_units refundAdmitted]
    exact Int.natCast_nonneg _
  have atMost : MoneyCodec.signedUnits refundAmount ≤ MoneyCodec.signedUnits amount := by
    have scaled : (MoneyCodec.signedUnits refundAmount : ℚ) ≤ MoneyCodec.signedUnits amount := by
      rw [amountUnits, refundUnits]
      have bound := sound.atMost
      linarith
    exact_mod_cast scaled
  have positive : 0 < MoneyCodec.signedUnits refundAmount ↔ 0 < refundAmount.value := by
    have scaled : (0 : ℚ) < MoneyCodec.signedUnits refundAmount ↔ 0 < refundAmount.value := by
      rw [refundUnits]
      constructor
      · intro units
        linarith
      · intro value
        linarith
    exact_mod_cast scaled
  refine ⟨amountNonnegative, refundNonnegative, ?_⟩
  have flagged := sound.flagged
  rw [← positive] at flagged
  cases refunded with
  | true => exact Or.inr ⟨rfl, flagged.mp rfl, atMost⟩
  | false =>
      left
      have none : ¬ 0 < MoneyCodec.signedUnits refundAmount := fun some =>
        absurd (flagged.mpr some) (by decide)
      exact ⟨rfl, by omega⟩

theorem stagedTransaction_checks (digests : environment.HexDigests) (valid : item.Valid)
    (batchIndex : Nat) : (stagedTransaction environment run batchIndex item).Checks := by
  constructor
  · exact (moneySound_stagedTransaction run batchIndex valid).amountChecks
      (Money.admitted_reload environment.dialect valid.amount)
      (Money.admitted_reload environment.dialect valid.refundAmount)
  · exact digests.sha256Hex _

/-- What a version allows it links. -/
theorem mapping_of_allowed {configId : Nat} {entry : Text × Nat × Nat}
    (member : entry ∈ allowedCategories tables configId) :
    (⟨configId, entry.2.1, entry.2.2⟩ : ConfigVersionRule) ∈ tables.configVersionRules := by
  rcases mem_allowedCategories.mp member with ⟨row, rowMember, rfl⟩
  have parts := mem_rulesForConfig.mp (List.mem_filter.mp rowMember).1
  rcases List.mem_filter.mp parts.1 with ⟨linked, owner⟩
  rcases linkedRule_eq_some_iff.mp parts.2 with ⟨ruleFound, categoryFound, _⟩
  rw [decide_eq_true_eq] at owner
  have same : row.link = ⟨configId, row.category.id, row.rule.id⟩ := by
    rw [Table.key_of_get ruleFound, Table.key_of_get categoryFound, ← owner]
  rw [← same]
  exact linked

/-- Two keys of one category are the same. -/
theorem key_of_allowed {configId : Nat} {left right : Text × Nat × Nat}
    (leftMember : left ∈ allowedCategories tables configId)
    (rightMember : right ∈ allowedCategories tables configId) (same : left.2.1 = right.2.1) :
    left.1 = right.1 := by
  rcases mem_allowedCategories.mp leftMember with ⟨leftRow, leftRules, rfl⟩
  rcases mem_allowedCategories.mp rightMember with ⟨rightRow, rightRules, rfl⟩
  have leftFound := (linkedRule_eq_some_iff.mp
    (mem_rulesForConfig.mp (List.mem_filter.mp leftRules).1).2).2.1
  have rightFound := (linkedRule_eq_some_iff.mp
    (mem_rulesForConfig.mp (List.mem_filter.mp rightRules).1).2).2.1
  have leftId : leftRow.category.id = leftRow.link.categoryId := Table.key_of_get leftFound
  have rightId : rightRow.category.id = rightRow.link.categoryId := Table.key_of_get rightFound
  have sameId : leftRow.category.id = rightRow.category.id := same
  rw [← leftId, sameId, rightId, rightFound, Option.some.injEq] at leftFound
  exact congrArg Category.key leftFound.symm

theorem nodup_stagedCategories (valid : item.Valid) {configId : Nat} :
    ((stagedCategories run (allowedCategories tables configId) item).map
      StagedTransactionCategory.key).Nodup := by
  unfold stagedCategories
  rw [List.map_filterMap]
  apply List.Nodup.filterMap _ valid.uniqueCategories
  intro left right link leftMember rightMember
  rw [Option.mem_def, Option.map_map, Option.map_eq_some_iff] at leftMember rightMember
  rcases leftMember with ⟨leftEntry, leftFound, rfl⟩
  rcases rightMember with ⟨rightEntry, rightFound, same⟩
  have sameCategory : leftEntry.2.1 = rightEntry.2.1 :=
    (congrArg (fun key : Nat × Text × Text × Nat => key.2.2.2) same).symm
  rw [← Table.key_of_get leftFound, ← Table.key_of_get rightFound]
  exact key_of_allowed (Table.mem_of_get leftFound) (Table.mem_of_get rightFound) sameCategory

theorem nodup_stagedLinks (valid : ∀ item ∈ items, item.Valid)
    (identities : (items.map TransactionUpload.identity).Nodup) {configId : Nat} :
    ((items.flatMap (stagedCategories run (allowedCategories tables configId))).map
      StagedTransactionCategory.key).Nodup := by
  rw [List.map_flatMap, List.nodup_flatMap]
  constructor
  · intro item member
    exact nodup_stagedCategories (valid item member)
  · apply (List.pairwise_map.mp identities).imp
    intro left right different key leftMember rightMember
    rcases List.mem_map.mp leftMember with ⟨leftLink, leftLinked, rfl⟩
    rcases List.mem_map.mp rightMember with ⟨rightLink, rightLinked, same⟩
    apply different
    rw [← (mem_stagedCategories leftLinked).2.1, ← (mem_stagedCategories rightLinked).2.1]
    exact congrArg (fun key : Nat × Text × Text × Nat => (key.2.1, key.2.2.1)) same.symm

end Rows

/-! ## `upload_batch` -/

section Upload

variable {request : RefreshBatchRequest} {run : RefreshRun} {config : ConfigVersion} {index : Nat}

theorem receiveBatch_sameManifest (now : Datetime) (count : Nat) (run : RefreshRun) :
    run.SameManifest (receiveBatch now count run) := by
  constructor <;> rfl

/-- The database once the rows of a batch up to its staged ones are in. -/
private def received (environment : Environment) (clock : Clock) (database : Database)
    (run : RefreshRun) (index : Nat) (request : RefreshBatchRequest)
    (staged : List StagedTransaction) (links : List StagedTransactionCategory) : Database :=
  database.withRefresh {
    refreshRuns := replace RefreshRun.id (receiveBatch clock.now request.transactions.length run)
      database.refresh.refreshRuns
    refreshBatches := database.refresh.refreshBatches ++ [newBatch environment run index request]
    stagedTransactions := staged
    stagedTransactionCategories := links }

theorem guarded_newBatch (digests : environment.HexDigests) (constraints : database.Constraints)
    (uploaded : Uploaded database run config index request) :
    database.Guarded (.insert (.refreshBatch (newBatch environment run index request))) := by
  have member : run ∈ database.refresh.refreshRuns := Table.mem_of_get uploaded.runFound
  constructor
  · exact ⟨run, member, rfl, uploaded.state⟩
  · apply constraints.insertRefreshBatch
    · exact ⟨digests.sha256Hex _, digests.sha256Hex _⟩
    · exact Table.get_eq_none_iff.mp uploaded.free
    · intro old oldMember same
      exact uploaded.key old (List.mem_filter.mpr ⟨oldMember, decide_eq_true same⟩)
    · exact List.mem_map_of_mem member
  · trivial

theorem guarded_receiveBatch (now : Datetime) (count : Nat) (constraints : database.Constraints)
    (member : run ∈ database.refresh.refreshRuns)
    (state : run.state = .created ∨ run.state = .uploaded) :
    database.Guarded (.update (.refreshRun (receiveBatch now count run))) := by
  have same := receiveBatch_sameManifest now count run
  have unique : ∀ old ∈ database.refresh.refreshRuns, old.id = run.id → old = run :=
    fun old oldMember here =>
      List.inj_on_of_nodup_map constraints.refresh.runs.2 oldMember member here
  constructor
  · refine ⟨run, member, rfl, same, ?_, ?_⟩
    · rcases state with created | uploaded
      · rw [created]
        decide
      · rw [uploaded]
        decide
    · rcases state with created | uploaded
      · exact Or.inr (Or.inl ⟨created, Or.inl rfl⟩)
      · exact Or.inl uploaded.symm
  · have checks := constraints.refresh.runs.1 run member
    apply constraints.updateRefreshRun
    · refine { checks with failed := ?_, committed := ?_ }
      · intro failed
        cases failed
      · intro committed
        cases committed
    · intro old oldMember here
      rw [unique old oldMember here]
      exact same
  · intro old oldMember here
    rw [unique old oldMember here]
    rcases state with created | uploaded
    · exact Or.inl ⟨created, rfl⟩
    · exact Or.inr (Or.inl ⟨uploaded, rfl⟩)

theorem admits_stagedRows (digests : environment.HexDigests) (valid : request.Valid)
    (uploaded : Uploaded database run config index request)
    (constraints : (received environment clock database run index request
      database.refresh.stagedTransactions
      database.refresh.stagedTransactionCategories).Constraints) :
    guardedDatabase.Admits (received environment clock database run index request
        database.refresh.stagedTransactions database.refresh.stagedTransactionCategories)
        ((request.transactions.map (stagedTransaction environment run index)).map fun row =>
          .insert (.stagedTransaction row)) ∧
      guardedDatabase.after (received environment clock database run index request
          database.refresh.stagedTransactions database.refresh.stagedTransactionCategories)
          ((request.transactions.map (stagedTransaction environment run index)).map fun row =>
            .insert (.stagedTransaction row)) =
        received environment clock database run index request
          (database.refresh.stagedTransactions ++
            request.transactions.map (stagedTransaction environment run index))
          database.refresh.stagedTransactionCategories := by
  have runMember : run ∈ database.refresh.refreshRuns := Table.mem_of_get uploaded.runFound
  have identities : ((request.transactions.map (stagedTransaction environment run index)).map
      StagedTransaction.identity).Nodup := by
    rw [List.map_map]
    exact uploaded.items.identities
  apply admits_inserts .stagedTransaction
    (fun rows => received environment clock database run index request rows
      database.refresh.stagedTransactionCategories) _ _ (fun _ _ => rfl) _ constraints
  intro done row rest whole here
  have rowMember : row ∈ request.transactions.map (stagedTransaction environment run index) :=
    whole ▸ List.mem_append_right _ List.mem_cons_self
  rcases List.mem_map.mp rowMember with ⟨item, itemMember, rfl⟩
  constructor
  · trivial
  · apply here.insertStagedTransaction
    · exact stagedTransaction_checks digests (valid.transactions item itemMember) index
    · intro old oldMember same
      have sameRun : old.runId = run.id := congrArg Prod.fst same
      have sameIdentity : old.identity = TransactionUpload.identity item :=
        congrArg Prod.snd same
      rcases List.mem_append.mp oldMember with earlier | new
      · apply (uploaded.items.items item itemMember).fresh
        rw [← sameIdentity]
        exact List.mem_map_of_mem (List.mem_filter.mpr ⟨earlier, decide_eq_true sameRun⟩)
      · rw [← whole, List.map_append, List.map_cons, List.nodup_append] at identities
        exact identities.2.2 _ (List.mem_map_of_mem new) _ List.mem_cons_self sameIdentity
    · exact List.mem_map.mpr ⟨receiveBatch clock.now request.transactions.length run,
        mem_replace_self runMember rfl, rfl⟩
    · exact List.mem_map.mpr ⟨newBatch environment run index request,
        List.mem_append_right _ List.mem_cons_self, rfl⟩
  · trivial

theorem admits_stagedLinks (valid : request.Valid) (before : database.Constraints)
    (uploaded : Uploaded database run config index request)
    (constraints : (received environment clock database run index request
      (database.refresh.stagedTransactions ++
        request.transactions.map (stagedTransaction environment run index))
      database.refresh.stagedTransactionCategories).Constraints) :
    guardedDatabase.Admits (received environment clock database run index request
        (database.refresh.stagedTransactions ++
          request.transactions.map (stagedTransaction environment run index))
        database.refresh.stagedTransactionCategories)
        ((request.transactions.flatMap (stagedCategories run
          (allowedCategories database.config run.configVersionId))).map fun link =>
            .insert (.stagedTransactionCategory link)) ∧
      guardedDatabase.after (received environment clock database run index request
          (database.refresh.stagedTransactions ++
            request.transactions.map (stagedTransaction environment run index))
          database.refresh.stagedTransactionCategories)
          ((request.transactions.flatMap (stagedCategories run
            (allowedCategories database.config run.configVersionId))).map fun link =>
              .insert (.stagedTransactionCategory link)) =
        received environment clock database run index request
          (database.refresh.stagedTransactions ++
            request.transactions.map (stagedTransaction environment run index))
          (database.refresh.stagedTransactionCategories ++
            request.transactions.flatMap (stagedCategories run
              (allowedCategories database.config run.configVersionId))) := by
  have keys : ((request.transactions.flatMap (stagedCategories run
      (allowedCategories database.config run.configVersionId))).map
        StagedTransactionCategory.key).Nodup :=
    nodup_stagedLinks valid.transactions uploaded.items.identities
  apply admits_inserts .stagedTransactionCategory
    (fun links => received environment clock database run index request
      (database.refresh.stagedTransactions ++
        request.transactions.map (stagedTransaction environment run index)) links) _ _
    (fun _ _ => rfl) _ constraints
  intro done link rest whole here
  have linkMember : link ∈ request.transactions.flatMap
      (stagedCategories run (allowedCategories database.config run.configVersionId)) :=
    whole ▸ List.mem_append_right _ List.mem_cons_self
  rcases List.mem_flatMap.mp linkMember with ⟨item, itemMember, linked⟩
  rcases mem_stagedCategories linked with ⟨sameRun, identity, _⟩
  rcases List.mem_filterMap.mp linked with ⟨key, _, chosen⟩
  rcases Option.map_eq_some_iff.mp chosen with ⟨entry, entryFound, rfl⟩
  constructor
  · trivial
  · apply here.insertStagedTransactionCategory
    · intro old oldMember same
      rcases List.mem_append.mp oldMember with earlier | new
      · -- An older link belongs to a staged row, and the row of this item is new.
        rcases List.mem_map.mp (before.refresh.stagedOwners old earlier) with
          ⟨owner, ownerMember, ownerKey⟩
        have ownerRun : owner.runId = old.runId := congrArg Prod.fst ownerKey
        have ownerIdentity : owner.identity = old.identity := by
          have accounts : owner.accountId = old.accountId :=
            congrArg (fun key : Nat × Text × Text × Nat => key.2.1) ownerKey
          have sources : owner.sourceId = old.sourceId :=
            congrArg (fun key : Nat × Text × Text × Nat => key.2.2.1) ownerKey
          exact Prod.ext accounts sources
        have oldRun : old.runId = run.id := congrArg Prod.fst same
        have oldIdentity : old.identity = TransactionUpload.identity item :=
          congrArg (fun key : Nat × Text × Text × Nat => (key.2.1, key.2.2.1)) same
        apply (uploaded.items.items item itemMember).fresh
        rw [← oldIdentity, ← ownerIdentity]
        exact List.mem_map_of_mem
          (List.mem_filter.mpr ⟨ownerMember, decide_eq_true (ownerRun.trans oldRun)⟩)
      · rw [← whole, List.map_append, List.map_cons, List.nodup_append] at keys
        exact keys.2.2 _ (List.mem_map_of_mem new) _ List.mem_cons_self same
    · exact List.mem_map.mpr ⟨stagedTransaction environment run index item,
        List.mem_append_right _ (List.mem_map_of_mem itemMember), rfl⟩
    · exact mapping_of_allowed (Table.mem_of_get entryFound)
  · trivial

theorem admits_batchWrites (clock : Clock) (digests : environment.HexDigests)
    (valid : request.Valid) (constraints : database.Constraints)
    (uploaded : Uploaded database run config index request) :
    guardedDatabase.Admits database (batchWrites environment clock database run index request) ∧
      guardedDatabase.after database (batchWrites environment clock database run index request) =
        { database with
          refresh := insertBatch environment clock database.refresh run
            (newBatch environment run index request)
            (allowedCategories database.config run.configVersionId) request } := by
  have member : run ∈ database.refresh.refreshRuns := Table.mem_of_get uploaded.runFound
  have batch := guarded_newBatch digests constraints uploaded
  have counted := guarded_receiveBatch clock.now request.transactions.length batch.constraints
    member uploaded.state
  have rows := admits_stagedRows digests valid uploaded counted.constraints
  have stored := Database.constraints_after rows.1 counted.constraints
  rw [rows.2] at stored
  have links := admits_stagedLinks valid constraints uploaded stored
  have runs : Table.modify RefreshRun.id run.id
      (receiveBatch clock.now request.transactions.length) database.refresh.refreshRuns =
        replace RefreshRun.id (receiveBatch clock.now request.transactions.length run)
          database.refresh.refreshRuns :=
    modify_eq_replace _ constraints.refresh.runs.2 member rfl
  have unfolded : batchWrites environment clock database run index request =
      [.insert (.refreshBatch (newBatch environment run index request)),
        .update (.refreshRun (receiveBatch clock.now request.transactions.length run))] ++
      ((request.transactions.map (stagedTransaction environment run index)).map fun row =>
        .insert (.stagedTransaction row)) ++
      (request.transactions.flatMap (stagedCategories run
        (allowedCategories database.config run.configVersionId))).map fun link =>
          .insert (.stagedTransactionCategory link) := by
    rw [List.map_map]
    rfl
  rw [unfolded, GuardedStore.admits_append, GuardedStore.admits_append,
    GuardedStore.after_append, GuardedStore.after_append]
  constructor
  · refine ⟨⟨⟨batch, counted, trivial⟩, rows.1⟩, ?_⟩
    have reached := rows.2
    rw [← reached] at links
    exact links.1
  · refine Eq.trans ?_ (links.2.trans ?_)
    · exact congrArg (guardedDatabase.after · _) rows.2
    · unfold received insertBatch Database.withRefresh
      rw [← runs]
      rfl

theorem runs_uploadBatch (digests : environment.HexDigests) (valid : request.Valid)
    (constraints : database.Constraints) (runId : Nat) (batchIndex : Int)
    (maxBatchItems maxRequestBytes : Nat) :
    guardedDatabase.Runs database
      (Flushes.uploadBatch environment clock database runId batchIndex request maxBatchItems
        maxRequestBytes) fun value state => state = value.1 := by
  apply GuardedStore.Runs.liftThen
  rintro ⟨committed, response⟩ completed
  cases (uploadBatch_cases completed).2 with
  | replay run existing runFound found hash checksum result answer =>
      rw [found, if_neg (by simp)]
      exact GuardedStore.Runs.pure result.symm
  | new run config runId_eq uploaded result answer =>
      have runFound := uploaded.runFound
      have free := uploaded.free
      rw [runId_eq] at runFound free
      have writes := admits_batchWrites clock digests valid constraints uploaded
      rw [free, runFound]
      exact GuardedStore.Runs.emitThen writes.1 writes.2 (GuardedStore.Runs.pure result.symm)

end Upload

end RollingBudget
