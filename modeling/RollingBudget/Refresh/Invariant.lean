import RollingBudget.Configuration.Invariant
import RollingBudget.Refresh.Steps

namespace RollingBudget

open Sorting ConfigService RefreshService

/-! What holds of every run: counters, batch rows and staged rows of an open run agree,
and a committed run is complete. Each run is judged by its own rows only, so that a call
on one run leaves the others alone. -/

variable {environment : Environment} {clock : Clock} {config config' : ConfigTables}
  {tables : RefreshTables} {run : RefreshRun}

/-- The rows that belong to one run. -/
structure RunRows where
  batches : List RefreshBatch
  staged : List StagedTransaction
  links : List StagedTransactionCategory

def RefreshTables.rowsOf (tables : RefreshTables) (runId : Nat) : RunRows where
  batches := tables.batchesOf runId
  staged := tables.stagedOf runId
  links := tables.stagedTransactionCategories.filter fun link => link.runId = runId

/-- The version a run is bound to, and the rules that version links. -/
structure Bound (config : ConfigTables) (run : RefreshRun) (target : ConfigVersion) : Prop where
  found : config.configVersion run.configVersionId = some target
  window : run.mode = .full → ∀ row ∈ enabledRules config target.id,
    run.sourceFromDate.ordinal + (row.rule.lookbackDays - 1) ≤ run.sourceToDate.ordinal

/-- A staged row within the frozen scope of its run. -/
structure StagedRow (run : RefreshRun) (target : ConfigVersion) (rows : RunRows)
    (staged : StagedTransaction) : Prop where
  categories : ∃ link ∈ rows.links, link.identity = staged.identity
  account : staged.accountId ∈ run.expectedAccounts
  currency : staged.currency = target.displayCurrency
  upper : staged.transactionDate ≤ run.sourceToDate
  lower : run.mode = .full → run.sourceFromDate ≤ staged.transactionDate

/-- A staged link points to an enabled rule of the version the run is bound to. -/
def LinkEnabled (config : ConfigTables) (target : ConfigVersion)
    (link : StagedTransactionCategory) : Prop :=
  ∃ row ∈ enabledRules config target.id,
    row.category.id = link.categoryId ∧ row.rule.id = link.ruleVersionId

structure OpenRun (config : ConfigTables) (run : RefreshRun) (target : ConfigVersion)
    (rows : RunRows) : Prop where
  batchCount : run.receivedBatchCount = rows.batches.length
  itemCount : run.actualItemCount = (rows.batches.map RefreshBatch.itemCount).sum
  stagedCount : run.actualItemCount = rows.staged.length
  identities : (rows.staged.map StagedTransaction.identity).Nodup
  staged : ∀ staged ∈ rows.staged, StagedRow run target rows staged
  links : ∀ link ∈ rows.links, LinkEnabled config target link
  created : run.state = .created ↔ rows.batches = []

structure CommittedRun (environment : Environment) (run : RefreshRun) (rows : RunRows) : Prop where
  indices : (sortedOn RefreshBatch.batchIndex rows.batches).map RefreshBatch.batchIndex =
    List.range run.receivedBatchCount
  expected : run.expectedBatchCount = some run.receivedBatchCount
  checksum : run.computedChecksum = some (environment.checksumChain
    ((sortedOn RefreshBatch.batchIndex rows.batches).map RefreshBatch.checksum))
  accounts : run.completedAccounts = some (sorted run.expectedAccounts)
  staged : rows.staged = []
  links : rows.links = []
  committedAt : run.committedAt.isSome

structure RunSound (environment : Environment) (config : ConfigTables) (run : RefreshRun)
    (rows : RunRows) : Prop where
  bound : ∃ target, Bound config run target ∧
    (run.state ≠ .committed → OpenRun config run target rows)
  state : run.state = .created ∨ run.state = .uploaded ∨ run.state = .committed
  committed : run.state = .committed → CommittedRun environment run rows

structure RefreshInvariant (environment : Environment) (config : ConfigTables)
    (tables : RefreshTables) : Prop where
  runIds : (tables.refreshRuns.map RefreshRun.id).Nodup
  runKeys : (tables.refreshRuns.map RefreshRun.idempotencyKey).Nodup
  batchKeys : (tables.refreshBatches.map fun batch => (batch.runId, batch.batchIndex)).Nodup
  runs : ∀ run ∈ tables.refreshRuns, RunSound environment config run (tables.rowsOf run.id)
  batchOwners : ∀ batch ∈ tables.refreshBatches, ∃ run ∈ tables.refreshRuns, run.id = batch.runId
  stagedOwners : ∀ staged ∈ tables.stagedTransactions, ∃ run ∈ tables.refreshRuns,
    run.id = staged.runId
  linkOwners : ∀ link ∈ tables.stagedTransactionCategories, ∃ run ∈ tables.refreshRuns,
    run.id = link.runId

theorem RefreshInvariant.empty : RefreshInvariant environment config ⟨[], [], [], []⟩ := by
  constructor <;> simp

theorem RefreshInvariant.find_run (invariant : RefreshInvariant environment config tables)
    (member : run ∈ tables.refreshRuns) : tables.run run.id = some run :=
  Table.get_of_mem invariant.runIds member

/-! ## The configuration changes -/

/-- Whatever enabled rule a version linked it links afterwards. -/
theorem ConfigTables.Extends.exists_enabled (grows : config.Extends config') {target : ConfigVersion}
    (found : config.configVersion target.id = some target) {categoryId ruleId : Nat}
    (linked : ∃ row ∈ enabledRules config target.id,
      row.category.id = categoryId ∧ row.rule.id = ruleId) :
    ∃ row ∈ enabledRules config' target.id,
      row.category.id = categoryId ∧ row.rule.id = ruleId := by
  rcases linked with ⟨row, member, rfl, rfl⟩
  rcases List.mem_filter.mp member with ⟨inRules, enabled⟩
  rcases grows.exists_after found inRules with ⟨row', row'Member, sameRule⟩
  refine ⟨row', List.mem_filter.mpr ⟨row'Member, ?_⟩, sameRule.categoryId, ?_⟩
  · rw [sameRule.rule]
    exact enabled
  · rw [sameRule.rule]

theorem RunSound.mono {rows : RunRows} (sound : RunSound environment config run rows)
    (wellFormed : WellFormed environment config) (grows : config.Extends config') :
    RunSound environment config' run rows := by
  rcases sound.bound with ⟨target, ⟨found, window⟩, whileOpen⟩
  rcases grows.configVersion found with ⟨target', found', same⟩
  have sameId := ConfigVersion.id_of_frozen same
  have targetFound : config.configVersion target.id = some target :=
    wellFormed.find_version (Table.mem_of_get found)
  have targetSound := wellFormed.sound target (Table.mem_of_get found)
  refine ⟨⟨target', ⟨found', ?_⟩, ?_⟩, sound.state, sound.committed⟩
  · intro full row member
    rcases List.mem_filter.mp member with ⟨rowMember, enabled⟩
    rw [sameId] at rowMember
    rcases grows.exists_before targetFound targetSound rowMember with ⟨row', row'Member, sameRule⟩
    rw [sameRule.rule] at enabled ⊢
    exact window full row' (List.mem_filter.mpr ⟨row'Member, enabled⟩)
  · intro isOpen
    have opened := whileOpen isOpen
    refine { opened with staged := ?_, links := ?_ }
    · intro staged member
      have row := opened.staged staged member
      refine { row with currency := ?_ }
      rw [ConfigVersion.displayCurrency_of_frozen same]
      exact row.currency
    · intro link member
      have linked := grows.exists_enabled targetFound (opened.links link member)
      rw [LinkEnabled, sameId]
      exact linked

theorem RefreshInvariant.mono (invariant : RefreshInvariant environment config tables)
    (wellFormed : WellFormed environment config) (grows : config.Extends config') :
    RefreshInvariant environment config' tables :=
  { invariant with runs := fun run member => (invariant.runs run member).mono wellFormed grows }

/-! ## A new run -/

theorem lookbackDays_le_maxLookback {rules : List LinkedRule} {row : LinkedRule}
    (member : row ∈ rules) : row.rule.lookbackDays ≤ maxLookback rules := by
  have listed : row.rule.lookbackDays ∈ rules.map fun row => row.rule.lookbackDays :=
    List.mem_map_of_mem member
  unfold maxLookback
  cases found : (rules.map fun row => row.rule.lookbackDays).max? with
  | none =>
      rw [List.max?_eq_none_iff] at found
      rw [found] at listed
      cases listed
  | some largest => exact (List.max?_eq_some_iff.mp found).2 _ listed

/-- A run nobody has seen before owns no rows. -/
theorem RefreshInvariant.rowsOf_eq_nil (invariant : RefreshInvariant environment config tables)
    (runId : Nat) (fresh : ∀ run ∈ tables.refreshRuns, run.id ≠ runId) :
    tables.rowsOf runId = ⟨[], [], []⟩ := by
  unfold RefreshTables.rowsOf RefreshTables.batchesOf RefreshTables.stagedOf
  refine (RunRows.mk.injEq ..).mpr ⟨?_, ?_, ?_⟩
  · refine List.filter_eq_nil_iff.mpr fun batch member owns => ?_
    rcases invariant.batchOwners batch member with ⟨run, runMember, owner⟩
    exact fresh run runMember (owner.trans (of_decide_eq_true owns))
  · refine List.filter_eq_nil_iff.mpr fun staged member owns => ?_
    rcases invariant.stagedOwners staged member with ⟨run, runMember, owner⟩
    exact fresh run runMember (owner.trans (of_decide_eq_true owns))
  · refine List.filter_eq_nil_iff.mpr fun link member owns => ?_
    rcases invariant.linkOwners link member with ⟨run, runMember, owner⟩
    exact fresh run runMember (owner.trans (of_decide_eq_true owns))

theorem Begun.mem_target {database : Database} {request : RefreshBeginRequest}
    {target : ConfigVersion} (begun : Begun database request target) :
    target ∈ database.config.configVersions := by
  rcases begun.targetCase with ⟨_, _, active⟩ | ⟨_, _, base⟩
  · exact (ConfigTables.active_mem active).1
  · exact ConfigTables.base_mem base

theorem RefreshInvariant.insertRun (clock : Clock) {database : Database}
    {request : RefreshBeginRequest} {idempotencyKey : Text} {target : ConfigVersion}
    (invariant : RefreshInvariant environment database.config database.refresh)
    (wellFormed : WellFormed environment database.config)
    (missing : Table.get RefreshRun.idempotencyKey database.refresh.refreshRuns idempotencyKey =
      none)
    (begun : Begun database request target) :
    RefreshInvariant environment database.config
      (insertRun database (newRun environment clock database request idempotencyKey target)).refresh
    where
  runIds := Table.nodup_map_concat invariant.runIds fun _ member => Table.ne_freshId_map member
  runKeys := Table.nodup_map_concat invariant.runKeys (Table.get_eq_none_iff.mp missing)
  batchKeys := invariant.batchKeys
  runs := by
    intro run member
    rcases List.mem_append.mp member with old | new
    · exact invariant.runs run old
    · rw [List.mem_singleton.mp new]
      have rows := invariant.rowsOf_eq_nil
        (newRun environment clock database request idempotencyKey target).id
        fun _ oldMember => Table.ne_freshId_map oldMember
      have found := wellFormed.find_version begun.mem_target
      refine ⟨⟨target, ⟨found, ?_⟩, ?_⟩, Or.inl rfl, ?_⟩
      · intro full row rowMember
        have bound := begun.window full
        have below := lookbackDays_le_maxLookback rowMember
        show request.sourceFromDate.ordinal + (row.rule.lookbackDays - 1) ≤
          request.sourceToDate.ordinal
        omega
      · intro _
        show OpenRun _ _ _ (database.refresh.rowsOf _)
        rw [rows]
        exact ⟨rfl, rfl, rfl, List.nodup_nil, by simp, by simp, by simp [newRun]⟩
      · intro committed
        cases committed
  batchOwners := by
    intro batch member
    rcases invariant.batchOwners batch member with ⟨run, runMember, owner⟩
    exact ⟨run, List.mem_append_left _ runMember, owner⟩
  stagedOwners := by
    intro staged member
    rcases invariant.stagedOwners staged member with ⟨run, runMember, owner⟩
    exact ⟨run, List.mem_append_left _ runMember, owner⟩
  linkOwners := by
    intro link member
    rcases invariant.linkOwners link member with ⟨run, runMember, owner⟩
    exact ⟨run, List.mem_append_left _ runMember, owner⟩

/-! ## A new batch -/

theorem mem_allowedCategories {configId : Nat} {entry : Text × Nat × Nat} :
    entry ∈ allowedCategories config configId ↔ ∃ row ∈ enabledRules config configId,
      (row.category.key, row.category.id, row.rule.id) = entry :=
  List.mem_map

theorem mem_stagedCategories {allowed : List (Text × Nat × Nat)} {item : TransactionUpload}
    {link : StagedTransactionCategory} (member : link ∈ stagedCategories run allowed item) :
    link.runId = run.id ∧ link.identity = TransactionUpload.identity item ∧
      ∃ entry ∈ allowed, entry.2 = (link.categoryId, link.ruleVersionId) := by
  rcases List.mem_filterMap.mp member with ⟨key, _, found⟩
  rcases Option.map_eq_some_iff.mp found with ⟨entry, entryFound, rfl⟩
  exact ⟨rfl, rfl, entry, Table.mem_of_get entryFound, rfl⟩

/-- An item whose categories are all allowed gets a link. -/
theorem exists_stagedCategory (run : RefreshRun) {allowed : List (Text × Nat × Nat)}
    {item : TransactionUpload}
    (nonempty : 1 ≤ item.categories.length)
    (known : ∀ key ∈ item.categories, key ∈ allowed.map Prod.fst) :
    ∃ link ∈ stagedCategories run allowed item, link.identity = TransactionUpload.identity item := by
  rcases List.exists_mem_of_length_pos nonempty with ⟨key, keyMember⟩
  rcases List.mem_map.mp (known key keyMember) with ⟨entry, entryMember, entryKey⟩
  cases found : Table.get Prod.fst allowed key with
  | none => exact absurd entryKey (Table.get_eq_none_iff.mp found entry entryMember)
  | some chosen =>
      refine ⟨stagedCategory run item chosen, List.mem_filterMap.mpr ⟨key, keyMember, ?_⟩, rfl⟩
      rw [found]
      rfl

section InsertBatch

variable {batch : RefreshBatch} {allowed : List (Text × Nat × Nat)}
  {request : RefreshBatchRequest}

private theorem filter_map_eq {α β : Type*} {transform : α → β} {keep : β → Bool} (items : List α)
    (kept : ∀ item, keep (transform item) = true) :
    (items.map transform).filter keep = items.map transform := by
  rw [List.filter_eq_self]
  intro row member
  rcases List.mem_map.mp member with ⟨item, _, rfl⟩
  exact kept item

private theorem filter_map_eq_nil {α β : Type*} {transform : α → β} {keep : β → Bool}
    (items : List α) (dropped : ∀ item, keep (transform item) = false) :
    (items.map transform).filter keep = [] := by
  rw [List.filter_eq_nil_iff]
  intro row member
  rcases List.mem_map.mp member with ⟨item, _, rfl⟩
  simp [dropped item]

theorem rowsOf_insertBatch_self (owner : batch.runId = run.id) :
    (insertBatch environment clock tables run batch allowed request).rowsOf run.id =
      ⟨tables.batchesOf run.id ++ [batch],
        tables.stagedOf run.id ++
          request.transactions.map (stagedTransaction environment run batch.batchIndex),
        (tables.rowsOf run.id).links ++
          request.transactions.flatMap (stagedCategories run allowed)⟩ := by
  unfold RefreshTables.rowsOf
  refine (RunRows.mk.injEq ..).mpr ⟨?_, ?_, ?_⟩
  · simp [RefreshTables.batchesOf, insertBatch, owner]
  · simp only [RefreshTables.stagedOf, insertBatch, List.filter_append]
    rw [filter_map_eq]
    intro item
    simp [stagedTransaction]
  · simp only [insertBatch, List.filter_append]
    congr 1
    rw [List.filter_eq_self]
    intro link member
    rcases List.mem_flatMap.mp member with ⟨item, _, linkMember⟩
    simp [(mem_stagedCategories linkMember).1]

theorem rowsOf_insertBatch_other (owner : batch.runId = run.id) {other : Nat}
    (different : other ≠ run.id) :
    (insertBatch environment clock tables run batch allowed request).rowsOf other =
      tables.rowsOf other := by
  have elsewhere : run.id ≠ other := different.symm
  unfold RefreshTables.rowsOf
  refine (RunRows.mk.injEq ..).mpr ⟨?_, ?_, ?_⟩
  · simp [RefreshTables.batchesOf, insertBatch, owner, elsewhere]
  · simp only [RefreshTables.stagedOf, insertBatch, List.filter_append]
    rw [filter_map_eq_nil, List.append_nil]
    intro item
    simp [stagedTransaction, elsewhere]
  · simp only [insertBatch, List.filter_append]
    rw [List.append_right_eq_self, List.filter_eq_nil_iff]
    intro link member
    rcases List.mem_flatMap.mp member with ⟨item, _, linkMember⟩
    simp [(mem_stagedCategories linkMember).1, elsewhere]

end InsertBatch

section Upload

variable {database : Database} {index : Nat} {request : RefreshBatchRequest}
  {target : ConfigVersion}

/-- The rows of a run after an upload. -/
private theorem openRun_receiveBatch {rows : RunRows} {allowed : List (Text × Nat × Nat)}
    (opened : OpenRun config run target rows) (valid : request.Valid)
    (staged : rows.staged = tables.stagedOf run.id)
    (allowed_eq : allowed = allowedCategories config target.id)
    (checked : ItemsChecked tables run target allowed request.transactions) :
    OpenRun config (receiveBatch clock.now request.transactions.length run) target
      ⟨rows.batches ++ [newBatch environment run index request],
        rows.staged ++ request.transactions.map (stagedTransaction environment run index),
        rows.links ++ request.transactions.flatMap (stagedCategories run allowed)⟩ := by
  have newIdentities : (request.transactions.map (stagedTransaction environment run index)).map
      StagedTransaction.identity = request.transactions.map TransactionUpload.identity := by
    rw [List.map_map]
    rfl
  refine ⟨?_, ?_, ?_, ?_, ?_, ?_, ?_⟩
  · simp [receiveBatch, opened.batchCount]
  · simp [receiveBatch, opened.itemCount, newBatch]
  · simp [receiveBatch, opened.stagedCount]
  · rw [List.map_append, newIdentities, List.nodup_append]
    refine ⟨opened.identities, checked.identities, ?_⟩
    intro old oldMember new newMember equal
    rcases List.mem_map.mp newMember with ⟨item, itemMember, rfl⟩
    have fresh := (checked.items item itemMember).fresh
    rw [← staged, ← equal] at fresh
    exact fresh oldMember
  · intro row member
    rcases List.mem_append.mp member with old | new
    · have row := opened.staged row old
      rcases row.categories with ⟨link, linkMember, linkIdentity⟩
      exact ⟨⟨link, List.mem_append_left _ linkMember, linkIdentity⟩, row.account, row.currency,
        row.upper, row.lower⟩
    · rcases List.mem_map.mp new with ⟨item, itemMember, rfl⟩
      have passed := checked.items item itemMember
      have itemValid := valid.transactions item itemMember
      rcases exists_stagedCategory run itemValid.categoryCount.1 passed.categories with
        ⟨link, linkMember, linkIdentity⟩
      have inside := passed.window
      simp only [outsideWindow, not_or, not_and, not_lt] at inside
      exact ⟨⟨link, List.mem_append_right _ (List.mem_flatMap.mpr ⟨item, itemMember, linkMember⟩),
        linkIdentity⟩, passed.account, passed.currency, inside.1, inside.2⟩
  · intro link member
    rcases List.mem_append.mp member with old | new
    · exact opened.links link old
    · rcases List.mem_flatMap.mp new with ⟨item, _, linkMember⟩
      rcases (mem_stagedCategories linkMember).2.2 with ⟨entry, entryMember, ids⟩
      rw [allowed_eq] at entryMember
      rcases mem_allowedCategories.mp entryMember with ⟨row, rowMember, rfl⟩
      have both := (Prod.mk.injEq ..).mp ids
      exact ⟨row, rowMember, both.1, both.2⟩
  · simp [receiveBatch]

theorem RefreshInvariant.insertBatch (clock : Clock)
    (invariant : RefreshInvariant environment database.config database.refresh)
    (valid : request.Valid) (uploaded : Uploaded database run target index request) :
    RefreshInvariant environment database.config
      (insertBatch environment clock database.refresh run (newBatch environment run index request)
        (allowedCategories database.config run.configVersionId) request) := by
  have runMember : run ∈ database.refresh.refreshRuns := Table.mem_of_get uploaded.runFound
  have keepsId : ∀ other, (receiveBatch clock.now (newBatch environment run index request).itemCount
      other).id = other.id := fun _ => rfl
  have owner : ∀ {other : Nat}, (∃ row ∈ database.refresh.refreshRuns, row.id = other) →
      ∃ row ∈ (RefreshService.insertBatch environment clock database.refresh run
        (newBatch environment run index request)
        (allowedCategories database.config run.configVersionId) request).refreshRuns,
        row.id = other := by
    rintro other ⟨row, rowMember, rfl⟩
    by_cases here : row.id = run.id
    · exact ⟨_, Table.mem_modify.mpr (Or.inr ⟨row, rowMember, here, rfl⟩), rfl⟩
    · exact ⟨row, Table.mem_modify.mpr (Or.inl ⟨rowMember, here⟩), rfl⟩
  have stagedOwner : ∃ row ∈ database.refresh.refreshRuns, row.id = run.id := ⟨run, runMember, rfl⟩
  refine ⟨?_, ?_, ?_, ?_, ?_, ?_, ?_⟩
  · exact Table.nodup_map_modify (fun _ => rfl) invariant.runIds
  · exact Table.nodup_map_modify (fun _ => rfl) invariant.runKeys
  · refine Table.nodup_map_concat invariant.batchKeys ?_
    exact Table.get_eq_none_iff.mp uploaded.free
  · intro other member
    rcases Table.mem_modify.mp member with ⟨otherMember, different⟩ | ⟨old, oldMember, here, rfl⟩
    · rw [rowsOf_insertBatch_other rfl different]
      exact invariant.runs other otherMember
    · have same : old = run := List.inj_on_of_nodup_map invariant.runIds oldMember runMember here
      subst same
      rcases (invariant.runs old oldMember).bound with ⟨bound, ⟨found, window⟩, whileOpen⟩
      rw [uploaded.configFound] at found
      cases found
      have isOpen : old.state ≠ .committed := by
        rcases uploaded.state with created | uploaded
        · simp [created]
        · simp [uploaded]
      have targetId : target.id = old.configVersionId := Table.key_of_get uploaded.configFound
      refine ⟨⟨target, ⟨uploaded.configFound, window⟩, fun _ => ?_⟩, Or.inr (Or.inl rfl), ?_⟩
      · rw [keepsId, rowsOf_insertBatch_self rfl]
        exact openRun_receiveBatch (whileOpen isOpen) valid rfl (by rw [targetId]) uploaded.items
      · intro committed
        cases committed
  · intro batch member
    rcases List.mem_append.mp member with old | new
    · exact owner (invariant.batchOwners batch old)
    · rw [List.mem_singleton.mp new]
      exact owner stagedOwner
  · intro staged member
    rcases List.mem_append.mp member with old | new
    · exact owner (invariant.stagedOwners staged old)
    · rcases List.mem_map.mp new with ⟨item, _, rfl⟩
      exact owner stagedOwner
  · intro link member
    rcases List.mem_append.mp member with old | new
    · exact owner (invariant.linkOwners link old)
    · rcases List.mem_flatMap.mp new with ⟨item, _, linkMember⟩
      rw [(mem_stagedCategories linkMember).1]
      exact owner stagedOwner

end Upload

/-! ## A commit -/

section Commit

variable {database : Database} {request : RefreshCommitRequest} {target : ConfigVersion}

theorem rowsOf_clearStaging_other {other runId : Nat} (different : other ≠ runId) :
    (clearStaging tables runId).rowsOf other = tables.rowsOf other := by
  unfold RefreshTables.rowsOf
  refine (RunRows.mk.injEq ..).mpr ⟨rfl, ?_, ?_⟩
  · simp only [RefreshTables.stagedOf, clearStaging, List.filter_filter]
    apply List.filter_congr
    intro staged _
    by_cases here : staged.runId = other <;> simp [here, different]
  · simp only [clearStaging, List.filter_filter]
    apply List.filter_congr
    intro link _
    by_cases here : link.runId = other <;> simp [here, different]

theorem stagedOf_clearStaging (runId : Nat) : (clearStaging tables runId).stagedOf runId = [] := by
  simp only [RefreshTables.stagedOf, clearStaging, List.filter_filter]
  rw [List.filter_eq_nil_iff]
  intro staged _
  simp

theorem linksOf_clearStaging (runId : Nat) : ((clearStaging tables runId).rowsOf runId).links = [] := by
  simp only [RefreshTables.rowsOf, clearStaging, List.filter_filter]
  rw [List.filter_eq_nil_iff]
  intro link _
  simp

theorem RefreshInvariant.finalRefresh (clock : Clock)
    (invariant : RefreshInvariant environment database.config database.refresh)
    (committable : Committable database run target request) :
    RefreshInvariant environment database.config
      (finalRefresh environment clock database run request) := by
  have runMember : run ∈ database.refresh.refreshRuns := Table.mem_of_get committable.runFound
  have lengths := congrArg List.length committable.indices
  rw [List.length_map, List.length_range] at lengths
  have owner : ∀ {other : Nat}, (∃ row ∈ database.refresh.refreshRuns, row.id = other) →
      ∃ row ∈ (RollingBudget.finalRefresh environment clock database run request).refreshRuns,
        row.id = other := by
    rintro other ⟨row, rowMember, rfl⟩
    by_cases here : row.id = run.id
    · exact ⟨_, Table.mem_modify.mpr (Or.inr ⟨row, rowMember, here, rfl⟩), rfl⟩
    · exact ⟨row, Table.mem_modify.mpr (Or.inl ⟨rowMember, here⟩), rfl⟩
  refine ⟨?_, ?_, invariant.batchKeys, ?_, ?_, ?_, ?_⟩
  · exact Table.nodup_map_modify (fun _ => rfl) invariant.runIds
  · exact Table.nodup_map_modify (fun _ => rfl) invariant.runKeys
  · intro other member
    rcases Table.mem_modify.mp member with ⟨otherMember, different⟩ | ⟨old, oldMember, here, rfl⟩
    · show RunSound _ _ _ ((clearStaging _ run.id).rowsOf other.id)
      rw [rowsOf_clearStaging_other different]
      exact invariant.runs other otherMember
    · have same : old = run := List.inj_on_of_nodup_map invariant.runIds oldMember runMember here
      subst same
      rcases (invariant.runs old oldMember).bound with ⟨bound, ⟨found, window⟩, _⟩
      refine ⟨⟨bound, ⟨found, window⟩, fun isOpen => absurd rfl isOpen⟩, Or.inr (Or.inr rfl),
        fun _ => ?_⟩
      refine ⟨?_, ?_, rfl, ?_, stagedOf_clearStaging old.id, linksOf_clearStaging old.id, rfl⟩
      · refine committable.indices.trans ?_
        rw [← lengths]
        rfl
      · exact congrArg some lengths.symm
      · exact congrArg some committable.accounts
  · exact fun batch member => owner (invariant.batchOwners batch member)
  · exact fun staged member => owner (invariant.stagedOwners staged (List.mem_of_mem_filter member))
  · exact fun link member => owner (invariant.linkOwners link (List.mem_of_mem_filter member))

end Commit

end RollingBudget
