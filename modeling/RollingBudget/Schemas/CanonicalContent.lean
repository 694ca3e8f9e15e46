import RollingBudget.Foundation.Bytes
import RollingBudget.Schemas.Refresh

namespace RollingBudget

open Sorting

/-! What the canonical bytes of a request distinguish. Two requests that were accepted have
the same bytes exactly when they say the same thing: surrounding whitespace and the order of
accounts and of categories do not count, and everything else does. -/

/-- `canonical_json` -/
def canonicalJson (payload : Json) : Bytes := payload.dumps.encode

theorem canonicalJson_eq_iff {left right : Json} :
    canonicalJson left = canonicalJson right ↔ left.dumps = right.dumps :=
  Text.encode_injective.eq_iff

/-- Lists without repetitions sort to the same list when they have the same members. -/
theorem sorted_eq_iff {left right : List Text} (leftNodup : (sorted left).Nodup)
    (rightNodup : (sorted right).Nodup) :
    sorted left = sorted right ↔ left.toFinset = right.toFinset := by
  have leftDistinct := (perm_sortedOn id left).nodup_iff.mp leftNodup
  have rightDistinct := (perm_sortedOn id right).nodup_iff.mp rightNodup
  constructor
  · intro equal
    exact List.toFinset_eq_of_perm _ _ (perm_of_sortedOn_eq equal)
  · intro equal
    apply sortedOn_eq_of_perm id (List.perm_of_nodup_nodup_toFinset_eq leftDistinct rightDistinct
      equal)
    rw [List.map_id]
    exact leftDistinct

/-! ## `RefreshBeginRequest` -/

namespace RefreshBeginRequest

/-- Begin requests, as they were sent, with the same content. -/
structure SameContent (first second : RefreshBeginRequest) : Prop where
  mode : first.mode = second.mode
  sourceFromDate : first.sourceFromDate = second.sourceFromDate
  sourceToDate : first.sourceToDate = second.sourceToDate
  accounts : (first.expectedAccounts.map Text.stripWhitespace).toFinset =
    (second.expectedAccounts.map Text.stripWhitespace).toFinset

theorem normalize_of_validate {raw request : RefreshBeginRequest}
    (validated : raw.validate = some request) : request = raw.normalize := by
  unfold validate at validated
  split at validated
  · exact (Option.some.inj validated).symm
  · cases validated

theorem canonicalJson_eq_iff_sameContent {raw raw' request request' : RefreshBeginRequest}
    (validated : raw.validate = some request) (validated' : raw'.validate = some request') :
    canonicalJson request.toJson = canonicalJson request'.toJson ↔ SameContent raw raw' := by
  have nodup := (valid_of_validate validated).uniqueAccounts
  have nodup' := (valid_of_validate validated').uniqueAccounts
  rw [normalize_of_validate validated] at nodup ⊢
  rw [normalize_of_validate validated'] at nodup' ⊢
  have accounts := sorted_eq_iff nodup nodup'
  rw [canonicalJson_eq_iff]
  constructor
  · intro equal
    have same := eq_of_dumps_eq equal
    rw [normalize, normalize, RefreshBeginRequest.mk.injEq] at same
    rcases same with ⟨mode, fromDate, toDate, sameAccounts⟩
    exact ⟨mode, fromDate, toDate, accounts.mp sameAccounts⟩
  · intro same
    have equal : raw.normalize = raw'.normalize := by
      rw [normalize, normalize, RefreshBeginRequest.mk.injEq]
      exact ⟨same.mode, same.sourceFromDate, same.sourceToDate, accounts.mpr same.accounts⟩
    rw [equal]

end RefreshBeginRequest

/-! ## `RefreshBatchRequest` -/

namespace TransactionUpload

/-- Transactions, as they were sent, with the same content. Amounts count by their text. -/
structure SameContent (first second : TransactionUpload) : Prop where
  accountId : first.accountId.stripWhitespace = second.accountId.stripWhitespace
  accountName : first.accountName.map Text.stripWhitespace =
    second.accountName.map Text.stripWhitespace
  sourceId : first.sourceId.stripWhitespace = second.sourceId.stripWhitespace
  date : first.date = second.date
  amount : first.amount.str = second.amount.str
  currency : first.currency.stripWhitespace = second.currency.stripWhitespace
  categories : (first.categories.map Text.stripWhitespace).toFinset =
    (second.categories.map Text.stripWhitespace).toFinset
  pending : first.pending = second.pending
  pendingSourceId : first.pendingSourceId.map Text.stripWhitespace =
    second.pendingSourceId.map Text.stripWhitespace
  name : first.name.map Text.stripWhitespace = second.name.map Text.stripWhitespace
  merchant : first.merchant.map Text.stripWhitespace = second.merchant.map Text.stripWhitespace
  refunded : first.refunded = second.refunded
  refundAmount : first.refundAmount.str = second.refundAmount.str

theorem normalize_eq_iff {first second : TransactionUpload}
    (firstNodup : first.normalize.categories.Nodup)
    (secondNodup : second.normalize.categories.Nodup) :
    first.normalize = second.normalize ↔ SameContent first second := by
  have categories := sorted_eq_iff firstNodup secondNodup
  constructor
  · intro equal
    rw [normalize, normalize, TransactionUpload.mk.injEq] at equal
    rcases equal with ⟨account, accountName, source, date, amount, currency, sameCategories,
      pending, pendingSource, name, merchant, refunded, refund⟩
    exact ⟨account, accountName, source, date, congrArg Decimal.str amount, currency,
      categories.mp sameCategories, pending, pendingSource, name, merchant, refunded,
      congrArg Decimal.str refund⟩
  · intro same
    rw [normalize, normalize, TransactionUpload.mk.injEq]
    exact ⟨same.accountId, same.accountName, same.sourceId, same.date,
      Decimal.str_injective same.amount, same.currency, categories.mpr same.categories,
      same.pending, same.pendingSourceId, same.name, same.merchant, same.refunded,
      Decimal.str_injective same.refundAmount⟩

end TransactionUpload

namespace RefreshBatchRequest

/-- Batches, as they were sent, with the same content, position by position. -/
structure SameContent (first second : RefreshBatchRequest) : Prop where
  idempotencyKey : first.idempotencyKey = second.idempotencyKey
  transactions : List.Forall₂ TransactionUpload.SameContent first.transactions second.transactions

theorem normalize_of_validate {raw request : RefreshBatchRequest}
    (validated : raw.validate = some request) : request = raw.normalize := by
  unfold validate at validated
  split at validated
  · exact (Option.some.inj validated).symm
  · cases validated

/-- Lists of valid transactions agree position by position. -/
private theorem map_normalize_eq_iff {first second : List TransactionUpload}
    (firstNodup : ∀ item ∈ first, item.normalize.categories.Nodup)
    (secondNodup : ∀ item ∈ second, item.normalize.categories.Nodup) :
    first.map TransactionUpload.normalize = second.map TransactionUpload.normalize ↔
      List.Forall₂ TransactionUpload.SameContent first second := by
  induction first generalizing second with
  | nil => cases second <;> simp
  | cons item first induction =>
      cases second with
      | nil => simp
      | cons other second =>
          rw [List.forall_mem_cons] at firstNodup secondNodup
          rw [List.map_cons, List.map_cons, List.cons.injEq, List.forall₂_cons,
            TransactionUpload.normalize_eq_iff firstNodup.1 secondNodup.1,
            induction firstNodup.2 secondNodup.2]

theorem canonicalJson_eq_iff_sameContent {raw raw' request request' : RefreshBatchRequest}
    (validated : raw.validate = some request) (validated' : raw'.validate = some request') :
    canonicalJson request.toJson = canonicalJson request'.toJson ↔ SameContent raw raw' := by
  have valid := (valid_of_validate validated).transactions
  have valid' := (valid_of_validate validated').transactions
  rw [normalize_of_validate validated] at valid ⊢
  rw [normalize_of_validate validated'] at valid' ⊢
  have items := map_normalize_eq_iff
    (fun item member => (valid _ (List.mem_map_of_mem member)).uniqueCategories)
    fun item member => (valid' _ (List.mem_map_of_mem member)).uniqueCategories
  rw [canonicalJson_eq_iff]
  constructor
  · intro equal
    have same := eq_of_dumps_eq equal
    rw [normalize, normalize, RefreshBatchRequest.mk.injEq] at same
    exact ⟨same.1, items.mp same.2⟩
  · intro same
    have equal : raw.normalize = raw'.normalize := by
      rw [normalize, normalize, RefreshBatchRequest.mk.injEq]
      exact ⟨same.idempotencyKey, items.mpr same.transactions⟩
    rw [equal]

end RefreshBatchRequest

/-- Replay detection compares exactly the content of two accepted requests. -/
theorem replay_compares_content :
    (∀ raw raw' request request' : RefreshBeginRequest, raw.validate = some request →
      raw'.validate = some request' →
      (canonicalJson request.toJson = canonicalJson request'.toJson ↔
        RefreshBeginRequest.SameContent raw raw')) ∧
    ∀ raw raw' request request' : RefreshBatchRequest, raw.validate = some request →
      raw'.validate = some request' →
      (canonicalJson request.toJson = canonicalJson request'.toJson ↔
        RefreshBatchRequest.SameContent raw raw') :=
  ⟨fun _ _ _ _ => RefreshBeginRequest.canonicalJson_eq_iff_sameContent,
    fun _ _ _ _ => RefreshBatchRequest.canonicalJson_eq_iff_sameContent⟩

namespace Sample

theorem firstDay_valid : 1 ≤ 739770 ∧ 739770 ≤ 3652059 := by decide

theorem lastDay_valid : 1 ≤ 739800 ∧ 739800 ≤ 3652059 := by decide

/-- One request that lists its accounts in two orders. -/
def accounts (texts : List Text) : RefreshBeginRequest where
  mode := .fullRebuild
  sourceFromDate := ⟨739770, firstDay_valid⟩
  sourceToDate := ⟨739800, lastDay_valid⟩
  expectedAccounts := texts

/-- A batch of one transaction. -/
def batch (amount : Decimal) (categories : List Text) : RefreshBatchRequest where
  idempotencyKey := "batch-00".toList
  transactions := [{
    accountId := "a".toList
    accountName := none
    sourceId := "t1".toList
    date := ⟨739800, lastDay_valid⟩
    amount := amount
    currency := "USD".toList
    categories := categories
    pending := false
    pendingSourceId := none
    name := none
    merchant := none
    refunded := false
    refundAmount := Decimal.ofNat 0 }]

end Sample

/-- The order of accounts and of categories does not count, the digits of an amount do. -/
theorem replay_compares_written :
    (∃ first second,
      (Sample.accounts [" b".toList, "a".toList]).validate = some first ∧
        (Sample.accounts ["a".toList, "b".toList]).validate = some second ∧
        canonicalJson first.toJson = canonicalJson second.toJson) ∧
    ∃ first second third,
      (Sample.batch (Decimal.ofNat 12) ["food".toList, "fun".toList]).validate = some first ∧
        (Sample.batch (Decimal.ofNat 12) ["fun".toList, "food".toList]).validate =
          some second ∧
        (Sample.batch ⟨false, 120, -1⟩ ["food".toList, "fun".toList]).validate =
          some third ∧
        canonicalJson first.toJson = canonicalJson second.toJson ∧
        canonicalJson first.toJson ≠ canonicalJson third.toJson := by
  have valid : (Sample.accounts [" b".toList, "a".toList]).validate =
      some (Sample.accounts ["a".toList, "b".toList]) := by decide +kernel
  have valid' : (Sample.accounts ["a".toList, "b".toList]).validate =
      some (Sample.accounts ["a".toList, "b".toList]) := by decide +kernel
  have validBatch : (Sample.batch (Decimal.ofNat 12) ["food".toList, "fun".toList]).validate =
      some (Sample.batch (Decimal.ofNat 12) ["food".toList, "fun".toList]) := by decide +kernel
  have reordered : (Sample.batch (Decimal.ofNat 12) ["fun".toList, "food".toList]).validate =
      some (Sample.batch (Decimal.ofNat 12) ["food".toList, "fun".toList]) := by decide +kernel
  have rewritten : (Sample.batch ⟨false, 120, -1⟩ ["food".toList, "fun".toList]).validate =
      some (Sample.batch ⟨false, 120, -1⟩ ["food".toList, "fun".toList]) := by decide +kernel
  refine ⟨⟨_, _, valid, valid', (replay_compares_content.1 _ _ _ _ valid valid').mpr ?_⟩,
    _, _, _, validBatch, reordered, rewritten,
    (replay_compares_content.2 _ _ _ _ validBatch reordered).mpr ?_, fun equal => ?_⟩
  · exact ⟨rfl, rfl, rfl, by decide +kernel⟩
  · refine ⟨rfl, List.Forall₂.cons ?_ List.Forall₂.nil⟩
    exact ⟨rfl, rfl, rfl, rfl, rfl, rfl, by decide +kernel, rfl, rfl, rfl, rfl, rfl, rfl⟩
  · have same := ((replay_compares_content.2 _ _ _ _ validBatch rewritten).mp equal).transactions
    rcases List.forall₂_cons.mp same with ⟨same, _⟩
    exact absurd same.amount (by decide +kernel)

end RollingBudget
