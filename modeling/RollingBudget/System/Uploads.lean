import RollingBudget.System.Acceptance
import RollingBudget.System.Batching

namespace RollingBudget

open Sorting ConfigService RefreshService Outcome

/-! Which batches a run takes. Whether it takes a sequence of batches depends on the batches
alone, and not on how they were cut or on the order in which they come. -/

variable {environment : Environment} {database middle : Database} {run run' : RefreshRun}
  {target : ConfigVersion} {uploads : List Upload} {upload : Upload}

/-- A transaction that belongs into the run. -/
structure Suitable (database : Database) (run : RefreshRun) (target : ConfigVersion)
    (item : TransactionUpload) : Prop where
  account : item.accountId ∈ run.expectedAccounts
  currency : item.currency = target.displayCurrency
  window : ¬outsideWindow run item.date
  categories : ∀ key ∈ item.categories,
    key ∈ (allowedCategories database.config run.configVersionId).map Prod.fst

/-- An upload that the schema and the limits admit. -/
def Upload.Admitted (upload : Upload) : Prop :=
  ∃ request, upload.raw.validate = some request ∧
    WithinLimits request upload.batchIndex upload.maxBatchItems upload.maxRequestBytes

/-- One more batch that fits to those before it. -/
structure FitsNext (database : Database) (run : RefreshRun) (target : ConfigVersion)
    (uploads : List Upload) (upload : Upload) : Prop where
  admitted : upload.Admitted
  key : upload.raw.idempotencyKey ∉ uploads.map fun earlier => earlier.raw.idempotencyKey
  identities : (upload.transactions.map TransactionUpload.identity).Nodup
  apart : ∀ item ∈ upload.transactions, TransactionUpload.identity item ∉
    (uploads.flatMap Upload.transactions).map TransactionUpload.identity
  items : ∀ item ∈ upload.transactions, Suitable database run target item

section Step

variable (received : Received environment database run uploads middle run')
include received

private theorem Received.identities :
    (middle.refresh.stagedOf run'.id).map StagedTransaction.identity =
      (uploads.flatMap Upload.transactions).map TransactionUpload.identity := by
  have staged := congrArg (List.map StagedTransaction.identity) received.staged
  rw [List.map_map, List.map_map] at staged
  rw [RefreshRun.id_of_frozen received.frozen]
  exact staged

private theorem Received.itemChecked_iff {item : TransactionUpload} :
    ItemChecked middle.refresh run' target
        (allowedCategories middle.config run'.configVersionId) item ↔
      Suitable database run target item ∧ TransactionUpload.identity item ∉
        (uploads.flatMap Upload.transactions).map TransactionUpload.identity := by
  have accounts := RefreshRun.expectedAccounts_of_frozen received.frozen
  have version := RefreshRun.configVersionId_of_frozen received.frozen
  have window : outsideWindow run' item.date ↔ outsideWindow run item.date := by
    show outsideWindow run'.frozen item.date ↔ outsideWindow run.frozen item.date
    rw [received.frozen]
  rw [received.config, version]
  constructor
  · intro checked
    refine ⟨⟨?_, checked.currency, window.not.mp checked.window, checked.categories⟩, ?_⟩
    · rw [← accounts]
      exact checked.account
    · rw [← received.identities]
      exact checked.fresh
  · rintro ⟨suitable, fresh⟩
    refine ⟨?_, suitable.currency, window.not.mpr suitable.window, suitable.categories, ?_⟩
    · rw [accounts]
      exact suitable.account
    · rw [received.identities]
      exact fresh

/-- A run takes an upload at a new index exactly when it fits to those before it. -/
private theorem Received.accepted_iff
    (bound : database.config.configVersion run.configVersionId = some target)
    (distinct : upload.batchIndex ∉ uploads.map Upload.batchIndex) :
    ((upload.event run.id).outcome environment middle).isOk ↔
      FitsNext database run target uploads upload := by
  have sameId : run'.id = run.id := RefreshRun.id_of_frozen received.frozen
  have boundHere : middle.config.configVersion run'.configVersionId = some target := by
    rw [received.config, RefreshRun.configVersionId_of_frozen received.frozen, bound]
  have free := received.free distinct
  have stored : (∀ batch ∈ middle.refresh.batchesOf run'.id,
      batch.idempotencyKey ≠ upload.raw.idempotencyKey) ↔ upload.raw.idempotencyKey ∉
        uploads.map fun earlier => earlier.raw.idempotencyKey := by
    rw [← received.keys, sameId, List.mem_map]
    exact ⟨fun apart ⟨batch, member, same⟩ => apart batch member same,
      fun apart batch member same => apart ⟨batch, member, same⟩⟩
  unfold Upload.event
  rw [uploadEvent_isOk_iff, Int.toNat_natCast]
  constructor
  · rintro ⟨request, validated, limits, row, rowFound, repeated | ⟨config, uploaded⟩⟩
    · rcases repeated with ⟨existing, found, _⟩
      rw [free] at found
      cases found
    · rw [received.found, Option.some.injEq] at rowFound
      subst rowFound
      have sameConfig := uploaded.configFound
      rw [boundHere, Option.some.injEq] at sameConfig
      subst sameConfig
      rcases Upload.parts_of_validate validated with ⟨sameKey, sameItems⟩
      have items := uploaded.items
      rw [sameItems] at items
      refine ⟨⟨request, validated, limits⟩, stored.mp fun batch member => ?_, items.identities,
        fun item member => (received.itemChecked_iff.mp (items.items item member)).2,
        fun item member => (received.itemChecked_iff.mp (items.items item member)).1⟩
      have apart := uploaded.key batch member
      rwa [sameKey] at apart
  · intro next
    rcases next.admitted with ⟨request, validated, limits⟩
    rcases Upload.parts_of_validate validated with ⟨sameKey, sameItems⟩
    refine ⟨request, validated, limits, run', received.found, Or.inr ⟨target, ?_⟩⟩
    constructor
    · rw [sameId]
      exact received.found
    · rw [received.state]
      split
      · exact Or.inl rfl
      · exact Or.inr rfl
    · rw [sameId]
      exact free
    · rw [sameKey]
      exact stored.mpr next.key
    · exact boundHere
    · rw [sameItems]
      exact ⟨next.identities, fun item member =>
        received.itemChecked_iff.mpr ⟨next.items item member, next.apart item member⟩⟩

end Step

/-! ## A sequence of uploads -/

end RollingBudget
