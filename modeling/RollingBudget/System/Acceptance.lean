import RollingBudget.System.Locking

namespace RollingBudget

open Sorting ConfigService RefreshService Outcome

/-! Which calls are accepted. After the checks of the request, and of the token of a configuration
write, nothing can fail any more: every lookup on the way finds its row. -/

variable {environment : Environment} {tables : ConfigTables} {config : ConfigVersion}
  {request : ConfigPutRequest} {clock : Clock}

/-! ## Numbers that the database stores -/

/-- A number that an `INTEGER` column takes. One of PostgreSQL has 32 bits, and the driver of
SQLite binds 64. -/
def Environment.Storable (environment : Environment) (number : Int) : Prop :=
  number < match environment.dialect with
    | .sqlite => 2 ^ 63
    | .postgresql => 2 ^ 31

instance (number : Int) : Decidable (environment.Storable number) :=
  inferInstanceAs (Decidable (number < _))

section Begin

variable {database : Database} {request : RefreshBeginRequest} {idempotencyKey : Text}
  {maxBatchItems maxRequestBytes : Nat} {target : ConfigVersion}

end Begin

section Upload

variable {database : Database} {tables : RefreshTables} {run : RefreshRun}
  {allowed : List (Text × Nat × Nat)} {request : RefreshBatchRequest} {runId : Nat}
  {batchIndex : Int} {maxBatchItems maxRequestBytes : Nat}

private theorem checkItem_eq_ok {seen : List Identity} {item : TransactionUpload}
    (unseen : TransactionUpload.identity item ∉ seen)
    (checked : ItemChecked tables run config allowed item) :
    checkItem tables run config allowed seen item =
      .ok (seen ++ [TransactionUpload.identity item]) := by
  have known : unknownCategories allowed item = [] := by
    apply List.eq_nil_iff_forall_not_mem.mpr
    intro key member
    unfold unknownCategories at member
    have listed := List.mem_filter.mp (mem_sortedOn.mp member)
    exact of_decide_eq_true listed.2 (checked.categories key (List.mem_dedup.mp listed.1))
  unfold checkItem
  rw [require_of unseen, ok_bind, require_of checked.account, ok_bind,
    require_of checked.currency, ok_bind, require_of checked.window, ok_bind, require_of known,
    ok_bind, require_of checked.fresh, ok_bind]
  rfl

/-- Distinct identities, none of them seen before, pass the loop. -/
private theorem checkItems_eq_ok {items : List TransactionUpload} {seen : List Identity}
    (nodup : (seen ++ items.map TransactionUpload.identity).Nodup)
    (checked : ∀ item ∈ items, ItemChecked tables run config allowed item) :
    items.foldlM (checkItem tables run config allowed) seen =
      .ok (seen ++ items.map TransactionUpload.identity) := by
  induction items generalizing seen with
  | nil =>
      rw [List.map_nil, List.append_nil]
      rfl
  | cons item items induction =>
      rw [List.map_cons, List.append_cons] at nodup ⊢
      have unseen : TransactionUpload.identity item ∉ seen := by
        intro member
        have apart := List.disjoint_of_nodup_append nodup.of_append_left
        exact apart member (List.mem_singleton_self _)
      rw [List.foldlM_cons, checkItem_eq_ok unseen (checked item List.mem_cons_self), ok_bind]
      exact induction nodup fun other member => checked other (List.mem_cons_of_mem item member)

theorem uploadBatch_isOk_iff :
    (uploadBatch environment clock database runId batchIndex request maxBatchItems
        maxRequestBytes).isOk ↔
      WithinLimits request batchIndex maxBatchItems maxRequestBytes ∧
        ∃ run, database.refresh.run runId = some run ∧
          ((∃ existing, database.refresh.batch runId batchIndex.toNat = some existing ∧
            existing.requestHash = environment.sha256Hex request.toJson ∧
            existing.checksum = itemsChecksum environment request) ∨
          ∃ config, Uploaded database run config batchIndex.toNat request) := by
  constructor
  · intro succeeded
    rcases exists_of_isOk succeeded with ⟨⟨committed, response⟩, completed⟩
    rcases uploadBatch_cases completed with ⟨limits, uploadCase⟩
    refine ⟨limits, ?_⟩
    cases uploadCase with
    | replay run existing runFound found hash checksum result answer =>
        exact ⟨run, runFound, Or.inl ⟨existing, found, hash, checksum⟩⟩
    | new run config runId_eq uploaded result answer =>
        subst runId_eq
        exact ⟨run, uploaded.runFound, Or.inr ⟨config, uploaded⟩⟩
  · intro holds
    rcases holds with ⟨limits, run, runFound, written⟩
    have sameId : run.id = runId := Table.key_of_get runFound
    unfold uploadBatch
    rw [require_of limits.index, ok_bind, require_of limits.items, ok_bind,
      require_of limits.bytes, ok_bind, runFound, orRaise_some, ok_bind]
    rcases written with ⟨existing, found, same⟩ | ⟨config, uploaded⟩
    · rw [found]
      dsimp only
      rw [require_of same, ok_bind]
      rfl
    · have free := uploaded.free
      rw [sameId] at free
      rw [free]
      dsimp only
      have items : request.transactions.foldlM (checkItem database.refresh run config
          (allowedCategories database.config run.configVersionId)) [] = .ok _ :=
        checkItems_eq_ok uploaded.items.identities uploaded.items.items
      unfold storeBatch
      dsimp only
      rw [require_of uploaded.key, ok_bind, require_of uploaded.state, ok_bind,
        uploaded.configFound, orRaise_some, ok_bind, items, ok_bind]
      rfl

end Upload

/-- A batch is accepted exactly when it is valid and within the limits, its run exists, and it
either repeats the batch stored under its index or fits into the open run. -/
theorem uploadEvent_isOk_iff {database : Database} {clock : Clock} {raw : RefreshBatchRequest}
    {runId : Nat} {batchIndex : Int} {maxBatchItems maxRequestBytes : Nat} :
    (Event.outcome environment database
        ⟨.uploadBatch runId batchIndex raw maxBatchItems maxRequestBytes, clock⟩).isOk ↔
      ∃ request, raw.validate = some request ∧
        WithinLimits request batchIndex maxBatchItems maxRequestBytes ∧
        ∃ run, database.refresh.run runId = some run ∧
          ((∃ existing, database.refresh.batch runId batchIndex.toNat = some existing ∧
            existing.requestHash = environment.sha256Hex request.toJson ∧
            existing.checksum = itemsChecksum environment request) ∨
          ∃ config, Uploaded database run config batchIndex.toNat request) := by
  constructor
  · intro succeeded
    rcases exists_of_isOk succeeded with ⟨result, completed⟩
    rcases bind_eq_ok.mp completed with ⟨request, validated, completed⟩
    rcases bind_eq_ok.mp completed with ⟨uploaded, stored, _⟩
    have succeeded : (uploadBatch environment clock database runId batchIndex request
        maxBatchItems maxRequestBytes).isOk := by
      rw [stored]
      rfl
    exact ⟨request, orRaise_eq_ok.mp validated, uploadBatch_isOk_iff.mp succeeded⟩
  · intro holds
    rcases holds with ⟨request, validated, holds⟩
    have succeeded : (uploadBatch environment clock database runId batchIndex request
        maxBatchItems maxRequestBytes).isOk :=
      uploadBatch_isOk_iff.mpr holds
    rcases exists_of_isOk succeeded with ⟨result, stored⟩
    unfold Event.outcome
    dsimp only
    rw [validated, orRaise_some, ok_bind, stored]
    rfl

end RollingBudget
