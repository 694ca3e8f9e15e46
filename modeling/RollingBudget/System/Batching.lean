import RollingBudget.Schemas.CanonicalContent
import RollingBudget.System.SameRun

namespace RollingBudget

open Sorting ConfigService RefreshService ServiceError Outcome

/-! One set of transactions uploaded in two ways. The batches may be cut differently, they
may arrive in any order, and the database may return the rows in any order: the commit is
the same. -/

variable {environment : Environment} {database middle after left left' right right' : Database}
  {run run' : RefreshRun} {request request' : RefreshCommitRequest} {runId : Nat}

/-! ## Row order -/

/-- The same database, with staged and live rows returned in another order. -/
structure Reordered (database other : Database) : Prop where
  config : other.config = database.config
  syncState : other.syncState = database.syncState
  runs : other.refresh.refreshRuns = database.refresh.refreshRuns
  batches : other.refresh.refreshBatches = database.refresh.refreshBatches
  staged : other.refresh.stagedTransactions.Perm database.refresh.stagedTransactions
  links : other.refresh.stagedTransactionCategories.Perm
    database.refresh.stagedTransactionCategories
  ledger : SameLive database.ledger other.ledger

namespace Reordered

theorem refl (database : Database) : Reordered database database :=
  ⟨rfl, rfl, rfl, rfl, List.Perm.refl _, List.Perm.refl _, List.Perm.refl _, List.Perm.refl _⟩

variable (order : Reordered database left)
include order

theorem run_eq (runId : Nat) : left.refresh.run runId = database.refresh.run runId := by
  unfold RefreshTables.run
  rw [order.runs]

theorem orderedBatches_eq (runId : Nat) :
    orderedBatches left.refresh runId = orderedBatches database.refresh runId := by
  unfold orderedBatches RefreshTables.batchesOf
  rw [order.batches]

theorem stagedOf_perm (runId : Nat) :
    (left.refresh.stagedOf runId).Perm (database.refresh.stagedOf runId) :=
  order.staged.filter _

theorem stagedSound (sound : StagedSound database run) : StagedSound left run where
  ledger := order.ledger.sound sound.ledger
  identities := ((order.stagedOf_perm run.id).map StagedTransaction.identity).nodup_iff.mpr
    sound.identities
  linked := by
    intro staged member none
    apply sound.linked staged ((order.stagedOf_perm run.id).subset member)
    have links : (left.refresh.stagedCategoriesOf run.id staged.identity).Perm
        (database.refresh.stagedCategoriesOf run.id staged.identity) := order.links.filter _
    rw [none] at links
    exact links.nil_eq.symm

end Reordered

theorem SameLive.trans {first second third : LedgerTables} (earlier : SameLive first second)
    (later : SameLive second third) : SameLive first third :=
  ⟨later.transactions.trans earlier.transactions, later.links.trans earlier.links⟩

theorem SameRun.refl (found : database.refresh.run run.id = some run) :
    SameRun database database run run :=
  ⟨rfl, rfl, fun _ _ => rfl, ⟨List.Perm.refl _, List.Perm.refl _⟩, found, found, rfl, Iff.rfl,
    List.Perm.refl _, List.Perm.refl _⟩

theorem SameRun.reorder (same : SameRun left right run run') (order : Reordered left left')
    (order' : Reordered right right') : SameRun left' right' run run' where
  config := by rw [order'.config, order.config, same.config]
  syncState := by rw [order'.syncState, order.syncState, same.syncState]
  previous := by
    intro syncState found
    rw [order.run_eq, order'.run_eq]
    exact same.previous syncState (order.syncState ▸ found)
  ledger := by
    have back : SameLive left'.ledger left.ledger := order.ledger.symm
    exact (back.trans same.ledger).trans order'.ledger
  found := (order.run_eq run.id).trans same.found
  found' := (order'.run_eq run'.id).trans same.found'
  frozen := same.frozen
  committed := same.committed
  staged := by
    constructor
    · have items := (order.stagedOf_perm run.id).map StagedTransaction.content
      have items' := (order'.stagedOf_perm run.id).map StagedTransaction.content
      exact (items'.trans same.staged.items).trans items.symm
    · have links : (left'.refresh.rowsOf run.id).links.Perm (left.refresh.rowsOf run.id).links :=
        order.links.filter _
      have links' : (right'.refresh.rowsOf run.id).links.Perm
          (right.refresh.rowsOf run.id).links := order'.links.filter _
      exact (links'.trans same.staged.links).trans links.symm

theorem SameGates.refl (database : Database) (run : RefreshRun) (request : RefreshCommitRequest) :
    SameGates database database run run request request :=
  ⟨rfl, Iff.rfl, Iff.rfl, fun _ => Iff.rfl⟩

theorem SameGates.reorder (gates : SameGates left right run run' request request')
    (order : Reordered left left') (order' : Reordered right right') :
    SameGates left' right' run run' request request' :=
  { gates with
    contiguous := by
      rw [order.orderedBatches_eq, order'.orderedBatches_eq]
      exact gates.contiguous }

/-! ## Uploads -/

/-- One call of `upload_batch` for a given run. -/
structure Upload where
  batchIndex : Nat
  raw : RefreshBatchRequest
  maxBatchItems : Nat
  maxRequestBytes : Nat
  clock : Clock

namespace Upload

def event (runId : Nat) (upload : Upload) : Event :=
  ⟨.uploadBatch runId upload.batchIndex upload.raw upload.maxBatchItems upload.maxRequestBytes,
    upload.clock⟩

/-- The transactions as the service reads them. -/
def transactions (upload : Upload) : List TransactionUpload :=
  upload.raw.normalize.transactions

end Upload

/-- The uploads of one run follow each other and are all accepted. -/
inductive Receives (environment : Environment) (runId : Nat) (database : Database) :
    List Upload → Database → Prop where
  | nothing : Receives environment runId database [] database
  | more {uploads : List Upload} {upload : Upload} {middle after : Database} {response : Response}
      (earlier : Receives environment runId database uploads middle)
      (accepted : (upload.event runId).outcome environment middle = .ok (after, response)) :
      Receives environment runId database (uploads ++ [upload]) after

theorem Receives.next {history : List Event} {uploads : List Upload} {upload : Upload}
    (receives : Receives environment runId database uploads ((service environment).run history))
    (accepted : ((upload.event runId).outcome environment
      ((service environment).run history)).isOk) :
    Receives environment runId database (uploads ++ [upload])
      ((service environment).run (history ++ [upload.event runId])) := by
  rcases exists_of_isOk accepted with ⟨⟨after, response⟩, completed⟩
  rw [Machine.run_concat, show (service environment).step _ _ = after from
    Event.next_of_ok completed]
  exact .more receives completed

/-- What a run that began without batches holds after its uploads. -/
structure Received (environment : Environment) (database : Database) (run : RefreshRun)
    (uploads : List Upload) (after : Database) (run' : RefreshRun) : Prop where
  invariant : SystemInvariant environment after
  grows : database.refresh.Extends after.refresh
  config : after.config = database.config
  syncState : after.syncState = database.syncState
  ledger : after.ledger = database.ledger
  found : after.refresh.run run.id = some run'
  frozen : run'.frozen = run.frozen
  state : run'.state = if uploads = [] then .created else .uploaded
  batches : (after.refresh.batchesOf run.id).map RefreshBatch.batchIndex =
    uploads.map Upload.batchIndex
  keys : (after.refresh.batchesOf run.id).map RefreshBatch.idempotencyKey =
    uploads.map fun upload => upload.raw.idempotencyKey
  staged : (after.refresh.stagedOf run.id).map StagedTransaction.content =
    (uploads.flatMap Upload.transactions).map (stagedTransaction environment run 0)
  links : (after.refresh.rowsOf run.id).links = (database.refresh.rowsOf run.id).links ++
    (uploads.flatMap Upload.transactions).flatMap
      (stagedCategories run (allowedCategories database.config run.configVersionId))
  nonempty : ∀ upload ∈ uploads, upload.transactions ≠ []

private theorem content_stagedTransaction {index : Nat} {item : TransactionUpload}
    (frozen : run'.frozen = run.frozen) :
    (stagedTransaction environment run' index item).content =
      stagedTransaction environment run 0 item := by
  unfold stagedTransaction StagedTransaction.content
  rw [RefreshRun.id_of_frozen frozen, RefreshRun.configVersionId_of_frozen frozen]

private theorem stagedCategories_congr {allowed : List (Text × Nat × Nat)}
    (frozen : run'.frozen = run.frozen) :
    stagedCategories run' allowed = stagedCategories run allowed := by
  unfold stagedCategories stagedCategory
  rw [RefreshRun.id_of_frozen frozen, RefreshRun.configVersionId_of_frozen frozen]

theorem Received.nothing (invariant : SystemInvariant environment database)
    (found : database.refresh.run run.id = some run) (created : run.state = .created) :
    Received environment database run [] database run := by
  have sound := invariant.refresh.runs run (Table.mem_of_get found)
  rcases sound.bound with ⟨target, bound, whileOpen⟩
  have opened := whileOpen (by rw [created]; decide)
  have noBatches : database.refresh.batchesOf run.id = [] := opened.created.mp created
  have noItems : run.actualItemCount = 0 := by
    have counted := opened.itemCount
    rw [show (database.refresh.rowsOf run.id).batches = [] from noBatches] at counted
    exact counted
  have noStaged : database.refresh.stagedOf run.id = [] :=
    List.length_eq_zero_iff.mp (opened.stagedCount.symm.trans noItems)
  exact {
    invariant := invariant
    grows := RefreshTables.Extends.refl _
    config := rfl
    syncState := rfl
    ledger := rfl
    found := found
    frozen := rfl
    state := created
    batches := by rw [noBatches]; rfl
    keys := by rw [noBatches]; rfl
    staged := by rw [noStaged]; rfl
    links := (List.append_nil _).symm
    nonempty := by simp }

/-- A validated batch has the key and the transactions of its upload. -/
theorem Upload.parts_of_validate {upload : Upload} {request : RefreshBatchRequest}
    (validated : upload.raw.validate = some request) :
    request.idempotencyKey = upload.raw.idempotencyKey ∧
      request.transactions = upload.transactions := by
  rw [RefreshBatchRequest.normalize_of_validate validated]
  exact ⟨rfl, rfl⟩

/-- No batch is stored at an index that nothing was uploaded at. -/
theorem Received.free {uploads : List Upload} {index : Nat}
    (received : Received environment database run uploads middle run')
    (fresh : index ∉ uploads.map Upload.batchIndex) :
    middle.refresh.batch run.id index = none := by
  cases found : middle.refresh.batch run.id index with
  | none => rfl
  | some existing =>
      have key := Table.key_of_get found
      rw [Prod.mk.injEq] at key
      have owned : existing ∈ middle.refresh.batchesOf run.id :=
        List.mem_filter.mpr ⟨Table.mem_of_get found, decide_eq_true key.1⟩
      rw [← received.batches, ← key.2] at fresh
      exact absurd (List.mem_map_of_mem owned) fresh

/-- The rows of a run after a batch of it was stored. -/
private theorem Received.insert {uploads : List Upload} {upload : Upload} {clock : Clock}
    {batch : RefreshBatch} {item : RefreshBatchRequest}
    (received : Received environment database run uploads middle run')
    (invariant : SystemInvariant environment after)
    (grows : middle.refresh.Extends after.refresh) (index : batch.batchIndex = upload.batchIndex)
    (key : batch.idempotencyKey = upload.raw.idempotencyKey)
    (owner : batch.runId = run'.id) (items : item.transactions = upload.transactions)
    (nonempty : upload.transactions ≠ [])
    (result : after = { middle with
      refresh := insertBatch environment clock middle.refresh run' batch
        (allowedCategories middle.config run'.configVersionId) item }) :
    Received environment database run (uploads ++ [upload]) after
      (receiveBatch clock.now batch.itemCount run') := by
  have sameId : run'.id = run.id := RefreshRun.id_of_frozen received.frozen
  have sameVersion := RefreshRun.configVersionId_of_frozen received.frozen
  have rows : after.refresh.rowsOf run'.id =
      ⟨middle.refresh.batchesOf run'.id ++ [batch],
        middle.refresh.stagedOf run'.id ++
          item.transactions.map (stagedTransaction environment run' batch.batchIndex),
        (middle.refresh.rowsOf run'.id).links ++ item.transactions.flatMap
          (stagedCategories run' (allowedCategories middle.config run'.configVersionId))⟩ := by
    rw [result]
    exact rowsOf_insertBatch_self owner
  rw [items, stagedCategories_congr received.frozen, sameVersion, received.config, sameId] at rows
  exact {
    invariant := invariant
    grows := received.grows.trans grows
    config := by rw [result]; exact received.config
    syncState := by rw [result]; exact received.syncState
    ledger := by rw [result]; exact received.ledger
    found := by
      rw [result]
      have keeps : ∀ row : RefreshRun,
          RefreshRun.id (receiveBatch clock.now batch.itemCount row) = RefreshRun.id row :=
        fun _ => rfl
      have changed : Table.get RefreshRun.id (Table.modify RefreshRun.id run'.id
            (receiveBatch clock.now batch.itemCount) middle.refresh.refreshRuns) run.id =
          (middle.refresh.run run.id).map fun row =>
            if run.id = run'.id then receiveBatch clock.now batch.itemCount row else row :=
        Table.get_modify keeps run.id
      rw [received.found, Option.map_some, if_pos sameId.symm] at changed
      exact changed
    frozen := received.frozen
    state := by simp [receiveBatch]
    batches := by
      rw [show after.refresh.batchesOf run.id = _ from congrArg RunRows.batches rows,
        List.map_append, received.batches, List.map_append]
      simp [index]
    keys := by
      rw [show after.refresh.batchesOf run.id = _ from congrArg RunRows.batches rows,
        List.map_append, received.keys, List.map_append]
      simp [key]
    staged := by
      rw [show after.refresh.stagedOf run.id = _ from congrArg RunRows.staged rows,
        List.map_append, received.staged, List.flatMap_append, List.map_append, List.map_map]
      have contents : StagedTransaction.content ∘
          stagedTransaction environment run' batch.batchIndex =
            stagedTransaction environment run 0 :=
        funext fun _ => content_stagedTransaction received.frozen
      rw [contents]
      simp
    links := by
      rw [show (after.refresh.rowsOf run.id).links = _ from congrArg RunRows.links rows,
        received.links, List.flatMap_append, List.flatMap_append, List.append_assoc]
      simp
    nonempty := by
      intro other member
      rcases List.mem_append.mp member with old | new
      · exact received.nonempty other old
      · rw [List.mem_singleton.mp new]
        exact nonempty }

/-- One more upload, at an index nothing was uploaded at. -/
theorem Received.more {uploads : List Upload} {upload : Upload} {response : Response}
    (received : Received environment database run uploads middle run')
    (fresh : upload.batchIndex ∉ uploads.map Upload.batchIndex)
    (accepted : (upload.event run.id).outcome environment middle = .ok (after, response)) :
    ∃ run'', Received environment database run (uploads ++ [upload]) after run'' := by
  have succeeds := Event.succeeds received.invariant.config accepted
  have invariant := succeeds.invariant received.invariant
  cases succeeds with
  | uploadBatch validated limits result =>
      rename_i request batchResponse
      have valid := RefreshBatchRequest.valid_of_validate validated
      rcases Upload.parts_of_validate validated with ⟨key, items⟩
      have nonempty : upload.transactions ≠ [] := by
        intro none
        have count := valid.count.1
        rw [items, none] at count
        cases count
      rw [Int.toNat_natCast] at result
      have grows := result.grows
      cases result with
      | replay before existing runFound found hash checksum result answer =>
          rw [received.free fresh] at found
          cases found
      | new before config runId_eq uploaded result answer =>
          have runFound := uploaded.runFound
          rw [runId_eq, received.found, Option.some.injEq] at runFound
          subst runFound
          exact ⟨_, received.insert invariant grows rfl key rfl items nonempty result⟩

/-- A sequence of accepted uploads at distinct indices. -/
theorem Receives.received {uploads : List Upload}
    (receives : Receives environment run.id database uploads after)
    (invariant : SystemInvariant environment database)
    (found : database.refresh.run run.id = some run) (created : run.state = .created)
    (distinct : (uploads.map Upload.batchIndex).Nodup) :
    ∃ run', Received environment database run uploads after run' := by
  induction receives with
  | nothing => exact ⟨run, Received.nothing invariant found created⟩
  | more earlier accepted induction =>
      rw [List.map_append, List.nodup_append] at distinct
      rcases induction distinct.1 with ⟨run', received⟩
      refine received.more ?_ accepted
      intro member
      exact distinct.2.2 _ member _ (by simp) rfl

/-! ## Two ways to upload the same transactions -/

theorem orderedIndices {tables : RefreshTables} {indices : List Nat}
    (batches : (tables.batchesOf runId).map RefreshBatch.batchIndex = indices)
    (contiguous : indices.Perm (List.range indices.length)) :
    (orderedBatches tables runId).map RefreshBatch.batchIndex = List.range indices.length := by
  have ascending : sortedOn id (List.range indices.length) = List.range indices.length :=
    List.Pairwise.insertionSort_eq List.pairwise_le_range
  have distinct : (indices.map id).Nodup := by
    rw [List.map_id, contiguous.nodup_iff]
    exact List.nodup_range
  rw [orderedBatches, map_sortedOn RefreshBatch.batchIndex RefreshBatch.batchIndex id
    (fun _ => rfl), batches, sortedOn_eq_of_perm id contiguous distinct, ascending]

section Distributions

variable {uploads uploads' : List Upload} {first second : RefreshRun}

theorem Received.sameRun (invariant : SystemInvariant environment database)
    (received : Received environment database run uploads left first)
    (received' : Received environment database run uploads' right second)
    (transactions : (uploads'.flatMap Upload.transactions).Perm
      (uploads.flatMap Upload.transactions)) : SameRun left right first second where
  config := received'.config.trans received.config.symm
  syncState := received'.syncState.trans received.syncState.symm
  previous := by
    intro syncState found
    rw [received.syncState] at found
    rcases (invariant.live.sync syncState found).2 with ⟨previous, previousFound, _⟩
    rcases received.grows.run previousFound with ⟨before, beforeFound, same, _⟩
    rcases received'.grows.run previousFound with ⟨before', beforeFound', same', _⟩
    rw [beforeFound, beforeFound', Option.map_some, Option.map_some,
      RefreshRun.expectedAccounts_of_frozen same, RefreshRun.expectedAccounts_of_frozen same']
  ledger := by
    rw [received.ledger, received'.ledger]
    exact ⟨List.Perm.refl _, List.Perm.refl _⟩
  found := by
    rw [RefreshRun.id_of_frozen received.frozen]
    exact received.found
  found' := by
    rw [RefreshRun.id_of_frozen received'.frozen]
    exact received'.found
  frozen := received'.frozen.trans received.frozen.symm
  committed := by
    rw [received.state, received'.state]
    split <;> split <;> simp
  staged := by
    rw [RefreshRun.id_of_frozen received.frozen]
    constructor
    · unfold SameItems
      rw [received.staged, received'.staged]
      exact transactions.map _
    · rw [received.links, received'.links]
      exact (transactions.flatMap_right _).append_left _

theorem Received.nothing_iff
    (received : Received environment database run uploads left first)
    (received' : Received environment database run uploads' right second)
    (transactions : (uploads'.flatMap Upload.transactions).Perm
      (uploads.flatMap Upload.transactions)) : uploads' = [] ↔ uploads = [] := by
  have oneWay : ∀ {uploads : List Upload} {after : Database} {run' : RefreshRun},
      Received environment database run uploads after run' →
        (uploads.flatMap Upload.transactions = [] ↔ uploads = []) := by
    intro uploads after run' received
    constructor
    · intro none
      by_contra some
      rcases List.exists_mem_of_ne_nil uploads some with ⟨upload, member⟩
      exact received.nonempty upload member (List.flatMap_eq_nil_iff.mp none upload member)
    · rintro rfl
      rfl
  rw [← oneWay received, ← oneWay received']
  constructor
  · intro none
    exact (none ▸ transactions).nil_eq.symm
  · intro none
    exact (none ▸ transactions).eq_nil

theorem Received.sameGates
    (received : Received environment database run uploads left first)
    (received' : Received environment database run uploads' right second)
    (transactions : (uploads'.flatMap Upload.transactions).Perm
      (uploads.flatMap Upload.transactions))
    (contiguous : (uploads.map Upload.batchIndex).Perm (List.range uploads.length))
    (contiguous' : (uploads'.map Upload.batchIndex).Perm (List.range uploads'.length))
    (accounts : request'.completedAccounts = request.completedAccounts)
    (counted : request'.expectedBatchCount = uploads'.length ↔
      request.expectedBatchCount = uploads.length) :
    SameGates left right first second request request' where
  accounts := accounts
  ready := by
    have nothing := received.nothing_iff received' transactions
    rw [received.state, received'.state]
    by_cases none : uploads = []
    · have none' := nothing.mpr none
      subst none none'
      simpa using counted
    · have none' : ¬uploads' = [] := fun empty => none (nothing.mp empty)
      simp [none, none']
  contiguous := by
    have indices := received.batches
    have indices' := received'.batches
    rw [← RefreshRun.id_of_frozen received.frozen] at indices
    rw [← RefreshRun.id_of_frozen received'.frozen] at indices'
    rw [← List.length_map Upload.batchIndex] at contiguous contiguous'
    rw [orderedIndices indices contiguous, orderedIndices indices' contiguous', List.length_map,
      List.length_map]
    have ranges : ∀ {first second : Nat}, List.range first = List.range second ↔ second = first := by
      intro first second
      constructor
      · intro equal
        simpa using (congrArg List.length equal).symm
      · rintro rfl
        rfl
    rw [ranges, ranges]
    exact counted
  replayed := by
    intro committed
    rw [received.state] at committed
    split at committed <;> cases committed

end Distributions

/-! ## The commit -/

/-- Two results whose live rows differ in their timestamps only. -/
def LeavesAlike (result result' : Database × Response) : Prop :=
  Alike result.1.ledger result'.1.ledger

private theorem validate_count (count count' : Nat) (accounts : List Text) :
    (RefreshCommitRequest.mk count' accounts).validate =
      (RefreshCommitRequest.mk count accounts).validate.map fun request =>
        { request with expectedBatchCount := count' } := by
  have valid : (RefreshCommitRequest.mk count' accounts).normalize.Valid ↔
      (RefreshCommitRequest.mk count accounts).normalize.Valid := by
    constructor <;> rintro ⟨normalized, bounds, fits, unique⟩ <;>
      exact ⟨by simpa [RefreshCommitRequest.normalize] using normalized, bounds, fits, unique⟩
  unfold RefreshCommitRequest.validate
  rw [if_congr valid rfl rfl]
  split <;> rfl

private theorem count_of_validate {count : Nat} {accounts : List Text}
    (validated : (RefreshCommitRequest.mk count accounts).validate = some request) :
    request.expectedBatchCount = count := by
  unfold RefreshCommitRequest.validate at validated
  split at validated
  · cases validated
    rfl
  · cases validated

private theorem event_agree {count count' : Nat} {accounts : List Text} {clock clock' : Clock}
    (agree : ∀ request request' : RefreshCommitRequest, request.expectedBatchCount = count →
      request'.expectedBatchCount = count' →
      request'.completedAccounts = request.completedAccounts →
        Agree SameKind (fun result result' => Alike result.1.ledger result'.1.ledger)
          (commitRefresh environment clock left runId request)
          (commitRefresh environment clock' right runId request')) :
    Agree SameKind LeavesAlike
      (Event.outcome environment left ⟨.commitRefresh runId ⟨count, accounts⟩, clock⟩)
      (Event.outcome environment right ⟨.commitRefresh runId ⟨count', accounts⟩, clock'⟩) := by
  unfold Event.outcome
  dsimp only
  rw [validate_count count count']
  cases validated : (RefreshCommitRequest.mk count accounts).validate with
  | none => exact Agree.raises rfl
  | some request =>
      rw [Option.map_some, orRaise_some, orRaise_some, ok_bind, ok_bind]
      apply Agree.bind (agree request ⟨count', request.completedAccounts⟩
        (count_of_validate validated) rfl rfl)
      intro result result' alike
      exact Agree.gives alike

/-- Whatever order the database returns staged and live rows in, and however the same
transactions were cut into contiguous batches, a commit raises the same error or leaves
the same live rows. A count that does not fit the batches is refused either way. -/
theorem commit_order_independent (environment : Environment) (history : List Event) (runId : Nat)
    (accounts : List Text) (clock clock' : Clock) :
    (∀ count shuffled, Reordered ((service environment).run history) shuffled →
      Agree SameKind LeavesAlike
        (Event.outcome environment ((service environment).run history)
          ⟨.commitRefresh runId ⟨count, accounts⟩, clock⟩)
        (Event.outcome environment shuffled
          ⟨.commitRefresh runId ⟨count, accounts⟩, clock'⟩)) ∧
    ∀ (run : RefreshRun) (uploads uploads' : List Upload) (left right left' right' : Database)
      (count count' : Nat),
      ((service environment).run history).refresh.run runId = some run → run.state = .created →
      Receives environment runId ((service environment).run history) uploads left →
      Receives environment runId ((service environment).run history) uploads' right →
      (uploads.map Upload.batchIndex).Perm (List.range uploads.length) →
      (uploads'.map Upload.batchIndex).Perm (List.range uploads'.length) →
      (uploads'.flatMap Upload.transactions).Perm (uploads.flatMap Upload.transactions) →
      Reordered left left' → Reordered right right' →
      (count' = uploads'.length ↔ count = uploads.length) →
      Agree SameKind LeavesAlike
        (Event.outcome environment left' ⟨.commitRefresh runId ⟨count, accounts⟩, clock⟩)
        (Event.outcome environment right' ⟨.commitRefresh runId ⟨count', accounts⟩, clock'⟩) := by
  have invariant := invariant_run environment history
  generalize (service environment).run history = database at invariant ⊢
  constructor
  · intro count shuffled order
    apply event_agree
    intro request request' counted counted' sameAccounts
    have sameRequest : request' = request := by
      cases request
      cases request'
      simp_all
    subst sameRequest
    cases found : database.refresh.run runId with
    | none =>
        unfold commitRefresh
        rw [order.run_eq, found]
        exact Agree.raises rfl
    | some run =>
        have runId_eq : run.id = runId := Table.key_of_get found
        subst runId_eq
        have same := (SameRun.refl found).reorder (Reordered.refl database) order
        have sound := invariant.stagedSound found
        exact same.commit_agree sound (order.stagedSound sound)
          ((SameGates.refl database run _).reorder (Reordered.refl database) order)
  · intro run uploads uploads' left right left' right' count count' found created receives
      receives' contiguous contiguous' transactions order order' sameCount
    have runId_eq : run.id = runId := Table.key_of_get found
    subst runId_eq
    have distinct : ∀ {uploads : List Upload},
        (uploads.map Upload.batchIndex).Perm (List.range uploads.length) →
          (uploads.map Upload.batchIndex).Nodup :=
      fun contiguous => contiguous.nodup_iff.mpr List.nodup_range
    rcases receives.received invariant found created (distinct contiguous) with ⟨first, received⟩
    rcases receives'.received invariant found created (distinct contiguous') with
      ⟨second, received'⟩
    apply event_agree
    intro request request' counted counted' sameAccounts
    have same := received.sameRun invariant received' transactions
    have gates := received.sameGates received' transactions contiguous contiguous' sameAccounts
      (by rw [counted, counted']; exact sameCount)
    have sound := order.stagedSound (received.invariant.stagedSound same.found)
    have sound' := order'.stagedSound (received'.invariant.stagedSound same.found')
    have agree : Agree SameKind (fun result result' => Alike result.1.ledger result'.1.ledger)
        (commitRefresh environment clock left' first.id request)
        (commitRefresh environment clock' right' second.id request') :=
      (same.reorder order order').commit_agree sound sound' (gates.reorder order order')
    rw [RefreshRun.id_of_frozen received.frozen, RefreshRun.id_of_frozen received'.frozen] at agree
    exact agree

namespace Sample

def upload (batchIndex : Nat) (idempotencyKey : String) (transactions : List TransactionUpload) :
    Upload :=
  ⟨batchIndex, ⟨idempotencyKey.toList, transactions⟩, 10, 1000000, clock⟩

def groceries : TransactionUpload := { purchase with sourceId := "t2".toList }

/-- Two purchases in two batches, the later batch first, and both in one batch. -/
def apart : List Upload :=
  [upload 1 "batch-01" [groceries], upload 0 "batch-00" [purchase]]

def together : List Upload := [upload 0 "batch-00" [purchase, groceries]]

def received (uploads : List Upload) : Database :=
  (service .transparent).run (configured ++ [monthBegin] ++ uploads.map (Upload.event 1))

theorem receives_apart : Receives .transparent 1
    ((service .transparent).run (configured ++ [monthBegin])) apart (received apart) := by
  have first : Receives .transparent 1 ((service .transparent).run (configured ++ [monthBegin]))
      ([] ++ [upload 1 "batch-01" [groceries]]) _ := Receives.nothing.next (by decide +kernel)
  exact first.next (by decide +kernel)

theorem receives_together : Receives .transparent 1
    ((service .transparent).run (configured ++ [monthBegin])) together (received together) :=
  Receives.nothing.next (by decide +kernel)

/-- The same database, which returns its rows backwards. -/
def backwards (database : Database) : Database :=
  { database with
    refresh := { database.refresh with
      stagedTransactions := database.refresh.stagedTransactions.reverse
      stagedTransactionCategories := database.refresh.stagedTransactionCategories.reverse }
    ledger := {
      transactions := database.ledger.transactions.reverse
      transactionCategories := database.ledger.transactionCategories.reverse } }

theorem reordered_backwards (database : Database) : Reordered database (backwards database) :=
  ⟨rfl, rfl, rfl, rfl, List.reverse_perm _, List.reverse_perm _, List.reverse_perm _,
    List.reverse_perm _⟩

end Sample

/-- Two batches in reverse order, returned backwards, commit to the same live rows as one. -/
theorem commit_order_independent_apart :
    (Event.outcome .transparent (Sample.received Sample.apart)
        ⟨.commitRefresh 1 ⟨2, ["checking".toList]⟩, Sample.clock⟩).isOk ∧
      Agree SameKind LeavesAlike
        (Event.outcome .transparent (Sample.received Sample.apart)
          ⟨.commitRefresh 1 ⟨2, ["checking".toList]⟩, Sample.clock⟩)
        (Event.outcome .transparent (Sample.backwards (Sample.received Sample.apart))
          ⟨.commitRefresh 1 ⟨2, ["checking".toList]⟩, Sample.laterClock⟩) ∧
      Agree SameKind LeavesAlike
        (Event.outcome .transparent (Sample.backwards (Sample.received Sample.apart))
          ⟨.commitRefresh 1 ⟨2, ["checking".toList]⟩, Sample.clock⟩)
        (Event.outcome .transparent (Sample.received Sample.together)
          ⟨.commitRefresh 1 ⟨1, ["checking".toList]⟩, Sample.laterClock⟩) := by
  have begun : (((service .transparent).run (Sample.configured ++ [Sample.monthBegin])).refresh.run
      1).map RefreshRun.state = some .created := by decide +kernel
  rcases Option.map_eq_some_iff.mp begun with ⟨run, found, created⟩
  refine ⟨by decide +kernel, ?_, ?_⟩
  · exact (commit_order_independent .transparent (Sample.configured ++ [Sample.monthBegin] ++
      Sample.apart.map (Upload.event 1)) 1 ["checking".toList] _ _).1 2 _
        (Sample.reordered_backwards _)
  · exact (commit_order_independent .transparent (Sample.configured ++ [Sample.monthBegin]) 1
      ["checking".toList] _ _).2 run Sample.apart Sample.together _ _ _ _ 2 1 found created
        Sample.receives_apart Sample.receives_together (by decide) (by decide) (by decide +kernel)
        (Sample.reordered_backwards _) (Reordered.refl _) (by decide)

end RollingBudget
