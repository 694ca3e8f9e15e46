import RollingBudget.Foundation.Calendar
import RollingBudget.Schemas.Config

namespace RollingBudget

open Sorting

/-! The validated refresh contracts. Account and category order has no meaning:
validation sorts both, so that a retry which lists them in another order is the
same request. -/

/-- `sorted` on strings. -/
abbrev sorted (texts : List Text) : List Text := sortedOn id texts

def Json.ofOption : Option Text → Json
  | none => .null
  | some text => .str text

def Json.ofTexts (texts : List Text) : Json := .arr (texts.map .str)

/-! ## `RefreshBeginRequest` -/

/-- The two literals a begin request may carry in `mode`. -/
inductive ModeLiteral where
  | incremental
  | fullRebuild
deriving DecidableEq

def ModeLiteral.text : ModeLiteral → Text
  | .incremental => "INCREMENTAL".toList
  | .fullRebuild => "FULL_REBUILD".toList

structure RefreshBeginRequest where
  mode : ModeLiteral
  sourceFromDate : Date
  sourceToDate : Date
  expectedAccounts : List Text
deriving DecidableEq

namespace RefreshBeginRequest

def normalize (request : RefreshBeginRequest) : RefreshBeginRequest :=
  { request with
    expectedAccounts := sorted (request.expectedAccounts.map Text.stripWhitespace) }

structure Valid (request : RefreshBeginRequest) : Prop where
  normalized : request.normalize = request
  accountCount : 1 ≤ request.expectedAccounts.length ∧ request.expectedAccounts.length ≤ 100
  accounts : ∀ account ∈ request.expectedAccounts, account.Fits 1 128
  dates : request.sourceFromDate ≤ request.sourceToDate
  uniqueAccounts : request.expectedAccounts.Nodup

instance (request : RefreshBeginRequest) : Decidable request.Valid :=
  decidable_of_iff
    (request.normalize = request ∧
      (1 ≤ request.expectedAccounts.length ∧ request.expectedAccounts.length ≤ 100) ∧
      (∀ account ∈ request.expectedAccounts, account.Fits 1 128) ∧
      request.sourceFromDate ≤ request.sourceToDate ∧ request.expectedAccounts.Nodup)
    ⟨fun ⟨a, b, c, d, e⟩ => ⟨a, b, c, d, e⟩, fun ⟨a, b, c, d, e⟩ => ⟨a, b, c, d, e⟩⟩

def validate (request : RefreshBeginRequest) : Option RefreshBeginRequest :=
  if request.normalize.Valid then some request.normalize else none

theorem valid_of_validate {raw request : RefreshBeginRequest}
    (validated : raw.validate = some request) : request.Valid := by
  unfold validate at validated
  split at validated
  · next valid =>
    cases validated
    exact valid
  · cases validated

theorem Valid.sorted_accounts {request : RefreshBeginRequest} (valid : request.Valid) :
    sorted request.expectedAccounts = request.expectedAccounts := by
  have accounts := congrArg expectedAccounts valid.normalized
  change sorted (request.expectedAccounts.map Text.stripWhitespace) =
    request.expectedAccounts at accounts
  rw [← accounts]
  exact sortedOn_sortedOn id _

def fieldNames : List Text :=
  ["mode".toList, "source_from_date".toList, "source_to_date".toList, "expected_accounts".toList]

def toJson (request : RefreshBeginRequest) : Json :=
  .obj [
    ("mode".toList, .str request.mode.text),
    ("source_from_date".toList, .str request.sourceFromDate.isoformat),
    ("source_to_date".toList, .str request.sourceToDate.isoformat),
    ("expected_accounts".toList, .ofTexts request.expectedAccounts)]

end RefreshBeginRequest

/-! ## `TransactionUpload` -/

structure TransactionUpload where
  accountId : Text
  accountName : Option Text
  sourceId : Text
  date : Date
  amount : Decimal
  currency : Text
  categories : List Text
  pending : Bool
  pendingSourceId : Option Text
  name : Option Text
  merchant : Option Text
  refunded : Bool
  refundAmount : Decimal
deriving DecidableEq

namespace TransactionUpload

def normalize (item : TransactionUpload) : TransactionUpload :=
  { item with
    accountId := item.accountId.stripWhitespace
    accountName := item.accountName.map Text.stripWhitespace
    sourceId := item.sourceId.stripWhitespace
    currency := item.currency.stripWhitespace
    categories := sorted (item.categories.map Text.stripWhitespace)
    pendingSourceId := item.pendingSourceId.map Text.stripWhitespace
    name := item.name.map Text.stripWhitespace
    merchant := item.merchant.map Text.stripWhitespace }

structure Valid (item : TransactionUpload) : Prop where
  normalized : item.normalize = item
  accountId : item.accountId.Fits 1 128
  accountName : ∀ name ∈ item.accountName, name.Fits 1 255
  sourceId : item.sourceId.Fits 1 192
  amount : item.amount.Admitted
  currency : matchesCurrency item.currency = true
  categoryCount : 1 ≤ item.categories.length ∧ item.categories.length ≤ 100
  pendingSourceId : ∀ source ∈ item.pendingSourceId, source.Fits 1 192
  name : ∀ name ∈ item.name, name.Fits 0 1000
  merchant : ∀ merchant ∈ item.merchant, merchant.Fits 0 256
  refundAmount : item.refundAmount.Admitted
  uniqueCategories : item.categories.Nodup
  refundBound : item.refundAmount.value ≤ item.amount.value
  refundedIff : item.refunded = decide (0 < item.refundAmount.value)
  pendingLink : ∀ source ∈ item.pendingSourceId, item.pending = false ∧ source ≠ item.sourceId

instance (item : TransactionUpload) : Decidable item.Valid :=
  decidable_of_iff
    (item.normalize = item ∧ item.accountId.Fits 1 128 ∧
      (∀ name ∈ item.accountName, name.Fits 1 255) ∧ item.sourceId.Fits 1 192 ∧
      item.amount.Admitted ∧ matchesCurrency item.currency = true ∧
      (1 ≤ item.categories.length ∧ item.categories.length ≤ 100) ∧
      (∀ source ∈ item.pendingSourceId, source.Fits 1 192) ∧
      (∀ name ∈ item.name, name.Fits 0 1000) ∧
      (∀ merchant ∈ item.merchant, merchant.Fits 0 256) ∧
      item.refundAmount.Admitted ∧ item.categories.Nodup ∧
      item.refundAmount.value ≤ item.amount.value ∧
      item.refunded = decide (0 < item.refundAmount.value) ∧
      ∀ source ∈ item.pendingSourceId, item.pending = false ∧ source ≠ item.sourceId)
    ⟨fun ⟨a, b, c, d, e, f, g, h, i, j, k, l, m, n, o⟩ =>
        ⟨a, b, c, d, e, f, g, h, i, j, k, l, m, n, o⟩,
      fun ⟨a, b, c, d, e, f, g, h, i, j, k, l, m, n, o⟩ =>
        ⟨a, b, c, d, e, f, g, h, i, j, k, l, m, n, o⟩⟩

def fieldNames : List Text :=
  ["account_id".toList, "account_name".toList, "source_id".toList, "date".toList,
    "amount".toList, "currency".toList, "categories".toList, "pending".toList,
    "pending_source_id".toList, "name".toList, "merchant".toList, "refunded".toList,
    "refund_amount".toList]

def toJson (item : TransactionUpload) : Json :=
  .obj [
    ("account_id".toList, .str item.accountId),
    ("account_name".toList, .ofOption item.accountName),
    ("source_id".toList, .str item.sourceId),
    ("date".toList, .str item.date.isoformat),
    ("amount".toList, .str item.amount.str),
    ("currency".toList, .str item.currency),
    ("categories".toList, .ofTexts item.categories),
    ("pending".toList, .bool item.pending),
    ("pending_source_id".toList, .ofOption item.pendingSourceId),
    ("name".toList, .ofOption item.name),
    ("merchant".toList, .ofOption item.merchant),
    ("refunded".toList, .bool item.refunded),
    ("refund_amount".toList, .str item.refundAmount.str)]

end TransactionUpload

/-! ## `RefreshBatchRequest` -/

/-- The batch model itself strips nothing: its idempotency key is taken as sent. -/
structure RefreshBatchRequest where
  idempotencyKey : Text
  transactions : List TransactionUpload
deriving DecidableEq

namespace RefreshBatchRequest

def normalize (request : RefreshBatchRequest) : RefreshBatchRequest :=
  { request with transactions := request.transactions.map TransactionUpload.normalize }

structure Valid (request : RefreshBatchRequest) : Prop where
  idempotencyKey : request.idempotencyKey.Fits 8 255
  count : 1 ≤ request.transactions.length ∧ request.transactions.length ≤ 1000
  transactions : ∀ item ∈ request.transactions, item.Valid

instance (request : RefreshBatchRequest) : Decidable request.Valid :=
  decidable_of_iff
    (request.idempotencyKey.Fits 8 255 ∧
      (1 ≤ request.transactions.length ∧ request.transactions.length ≤ 1000) ∧
      ∀ item ∈ request.transactions, item.Valid)
    ⟨fun ⟨a, b, c⟩ => ⟨a, b, c⟩, fun ⟨a, b, c⟩ => ⟨a, b, c⟩⟩

def validate (request : RefreshBatchRequest) : Option RefreshBatchRequest :=
  if request.normalize.Valid then some request.normalize else none

theorem valid_of_validate {raw request : RefreshBatchRequest}
    (validated : raw.validate = some request) : request.Valid := by
  unfold validate at validated
  split at validated
  · next valid =>
    cases validated
    exact valid
  · cases validated

def fieldNames : List Text := ["idempotency_key".toList, "transactions".toList]

def toJson (request : RefreshBatchRequest) : Json :=
  .obj [
    ("idempotency_key".toList, .str request.idempotencyKey),
    ("transactions".toList, .arr (request.transactions.map TransactionUpload.toJson))]

end RefreshBatchRequest

/-! ## `RefreshCommitRequest` -/

structure RefreshCommitRequest where
  expectedBatchCount : Nat
  completedAccounts : List Text
deriving DecidableEq

namespace RefreshCommitRequest

def normalize (request : RefreshCommitRequest) : RefreshCommitRequest :=
  { request with
    completedAccounts := sorted (request.completedAccounts.map Text.stripWhitespace) }

structure Valid (request : RefreshCommitRequest) : Prop where
  normalized : request.normalize = request
  accountCount : 1 ≤ request.completedAccounts.length ∧ request.completedAccounts.length ≤ 100
  accounts : ∀ account ∈ request.completedAccounts, account.Fits 1 128
  uniqueAccounts : request.completedAccounts.Nodup

instance (request : RefreshCommitRequest) : Decidable request.Valid :=
  decidable_of_iff
    (request.normalize = request ∧
      (1 ≤ request.completedAccounts.length ∧ request.completedAccounts.length ≤ 100) ∧
      (∀ account ∈ request.completedAccounts, account.Fits 1 128) ∧
      request.completedAccounts.Nodup)
    ⟨fun ⟨a, b, c, d⟩ => ⟨a, b, c, d⟩, fun ⟨a, b, c, d⟩ => ⟨a, b, c, d⟩⟩

def validate (request : RefreshCommitRequest) : Option RefreshCommitRequest :=
  if request.normalize.Valid then some request.normalize else none

theorem valid_of_validate {raw request : RefreshCommitRequest}
    (validated : raw.validate = some request) : request.Valid := by
  unfold validate at validated
  split at validated
  · next valid =>
    cases validated
    exact valid
  · cases validated

theorem Valid.sorted_accounts {request : RefreshCommitRequest} (valid : request.Valid) :
    sorted request.completedAccounts = request.completedAccounts := by
  have accounts := congrArg completedAccounts valid.normalized
  change sorted (request.completedAccounts.map Text.stripWhitespace) =
    request.completedAccounts at accounts
  rw [← accounts]
  exact sortedOn_sortedOn id _

end RefreshCommitRequest

/-! ## Canonical payloads determine the request -/

theorem sortKeys_ofOption_injective {left right : Option Text}
    (equal : (Json.ofOption left).sortKeys = (Json.ofOption right).sortKeys) : left = right := by
  cases left <;> cases right <;> simp_all [Json.ofOption, Json.sortKeys]

private theorem sortKeys_ofTexts_injective {left right : List Text}
    (equal : (Json.ofTexts left).sortKeys = (Json.ofTexts right).sortKeys) : left = right := by
  simp only [Json.ofTexts, Json.sortKeys, Json.sortItems_eq_map, List.map_map,
    Json.arr.injEq] at equal
  refine List.map_injective_iff.mpr ?_ equal
  intro first second texts
  simpa [Json.sortKeys] using texts

theorem ModeLiteral.text_injective : Function.Injective ModeLiteral.text := by
  intro left right equal
  cases left <;> cases right <;> first | rfl | (revert equal; decide)

/-- Begin requests with the same canonical text are the same request. -/
theorem RefreshBeginRequest.eq_of_dumps_eq {left right : RefreshBeginRequest}
    (equal : left.toJson.dumps = right.toJson.dumps) : left = right := by
  have fields := Json.forall₂_of_sortKeys_obj_eq (Json.sortKeys_eq_of_dumps_eq equal)
    RefreshBeginRequest.fieldNames (by decide +kernel) rfl rfl
  simp only [List.forall₂_cons, Json.sortKeys, Json.str.injEq, List.forall₂_nil_left_iff] at fields
  obtain ⟨mode, fromDate, toDate, accounts, _⟩ := fields
  cases left
  cases right
  simp only [RefreshBeginRequest.mk.injEq]
  exact ⟨ModeLiteral.text_injective mode, Date.isoformat_injective fromDate,
    Date.isoformat_injective toDate, sortKeys_ofTexts_injective accounts⟩

private theorem TransactionUpload.eq_of_sortKeys_eq {left right : TransactionUpload}
    (equal : left.toJson.sortKeys = right.toJson.sortKeys) : left = right := by
  have fields := Json.forall₂_of_sortKeys_obj_eq equal
    TransactionUpload.fieldNames (by decide +kernel) rfl rfl
  simp only [List.forall₂_cons, Json.sortKeys, Json.str.injEq, Json.bool.injEq,
    List.forall₂_nil_left_iff] at fields
  obtain ⟨account, accountName, source, date, amount, currency, categories, pending,
    pendingSource, name, merchant, refunded, refund, _⟩ := fields
  cases left
  cases right
  simp only [TransactionUpload.mk.injEq]
  exact ⟨account, sortKeys_ofOption_injective accountName, source,
    Date.isoformat_injective date, Decimal.str_injective amount, currency,
    sortKeys_ofTexts_injective categories, pending,
    sortKeys_ofOption_injective pendingSource, sortKeys_ofOption_injective name,
    sortKeys_ofOption_injective merchant, refunded, Decimal.str_injective refund⟩

/-- Batches with the same canonical text are the same batch. -/
theorem RefreshBatchRequest.eq_of_dumps_eq {left right : RefreshBatchRequest}
    (equal : left.toJson.dumps = right.toJson.dumps) : left = right := by
  have fields := Json.forall₂_of_sortKeys_obj_eq (Json.sortKeys_eq_of_dumps_eq equal)
    RefreshBatchRequest.fieldNames (by decide +kernel) rfl rfl
  simp only [List.forall₂_cons, Json.sortKeys, Json.str.injEq, Json.sortItems_eq_map,
    List.map_map, Json.arr.injEq, List.forall₂_nil_left_iff] at fields
  obtain ⟨key, transactions, _⟩ := fields
  cases left
  cases right
  simp only [RefreshBatchRequest.mk.injEq]
  refine ⟨key, List.map_injective_iff.mpr ?_ transactions⟩
  intro first second items
  exact TransactionUpload.eq_of_sortKeys_eq items

end RollingBudget
