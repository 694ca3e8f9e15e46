import RollingBudget.Foundation.History
import RollingBudget.Services.DashboardService

namespace RollingBudget

open ServiceError

/-! The write interface as one machine. Every call runs as one serializable
transaction: it validates its request, and when it raises the state stays as it was. -/

inductive Call where
  | putConfig (request : ConfigPutRequest) (ifMatch : Option Text)
  | putConfigChecked (request : ConfigPutRequest) (expectedConfigHash : Option Text)
  | beginRefresh (request : RefreshBeginRequest) (idempotencyKey : Text)
      (maxBatchItems maxRequestBytes : Nat)
  | uploadBatch (runId : Nat) (batchIndex : Int) (request : RefreshBatchRequest)
      (maxBatchItems maxRequestBytes : Nat)
  | commitRefresh (runId : Nat) (request : RefreshCommitRequest)
deriving DecidableEq

inductive Response where
  | config (view : ConfigView)
  | begun (response : RefreshBeginResponse)
  | batch (response : RefreshBatchResponse)
  | run (view : RefreshRunView)
deriving DecidableEq

/-- A call at a reading of the clock. -/
structure Event where
  call : Call
  clock : Clock
deriving DecidableEq

namespace Event

variable (environment : Environment)

/-- What the call does in a state: the state it commits and its response, or its error. -/
def outcome (database : Database) (event : Event) :
    Except ServiceError (Database × Response) :=
  match event.call with
  | .putConfig raw ifMatch => do
      let request ← orRaise validationError raw.validate
      let (committed, view) ←
        ConfigService.putConfig environment event.clock database request ifMatch
      pure (committed, .config view)
  | .putConfigChecked raw expectedConfigHash => do
      let request ← orRaise validationError raw.validate
      let (committed, view) ←
        ConfigService.putConfigChecked environment event.clock database request expectedConfigHash
      pure (committed, .config view)
  | .beginRefresh raw idempotencyKey maxBatchItems maxRequestBytes => do
      let request ← orRaise validationError raw.validate
      let (committed, response) ← RefreshService.beginRefresh environment event.clock database
        request idempotencyKey maxBatchItems maxRequestBytes
      pure (committed, .begun response)
  | .uploadBatch runId batchIndex raw maxBatchItems maxRequestBytes => do
      let request ← orRaise validationError raw.validate
      let (committed, response) ← RefreshService.uploadBatch environment event.clock database
        runId batchIndex request maxBatchItems maxRequestBytes
      pure (committed, .batch response)
  | .commitRefresh runId raw => do
      let request ← orRaise validationError raw.validate
      let (committed, view) ←
        RefreshService.commitRefresh environment event.clock database runId request
      pure (committed, .run view)

/-- A call that raises is rolled back. -/
def next (database : Database) (event : Event) : Database :=
  match event.outcome environment database with
  | .ok (committed, _) => committed
  | .error _ => database

end Event

/-- The service from the empty database on. -/
def service (environment : Environment) : Machine Database Event where
  initial := Database.empty
  step := Event.next environment

/-! ## A small history -/

/-- An environment to evaluate the services in: every text is its own digest. -/
def Environment.transparent : Environment where
  sha256 := id
  zoneInfo _ := .found
  localDate _ now := now.date
  dialect := .sqlite
  offset := "+00:00".toList

namespace Sample

def day (ordinal : Nat) (valid : 1 ≤ ordinal ∧ ordinal ≤ 3652059) : Date := ⟨ordinal, valid⟩

def today : Date := day 739800 (by decide)

def clock : Clock where
  now := ⟨today, 0, by decide⟩
  serverNow := ⟨today, 0, by decide⟩

def category (budgetLimit : Decimal) (lookbackDays : Nat) : CategoryConfigInput where
  key := "food".toList
  name := "Food".toList
  icon := none
  sortOrder := 0
  budgetLimit := budgetLimit
  budgetCurrency := "USD".toList
  lookbackDays := lookbackDays
  classificationInstruction := "Meals".toList
  enabled := true

def request (budgetLimit : Decimal) (lookbackDays : Nat) : ConfigPutRequest where
  timezone := "UTC".toList
  displayCurrency := "USD".toList
  aggregationVersion := 1
  categories := [category budgetLimit lookbackDays]

def weekly : ConfigPutRequest := request (Decimal.ofNat 100) 7

def configured : List Event := [⟨.putConfig weekly none, clock⟩]

/-- A full rebuild of the month before `today`. -/
def month : RefreshBeginRequest where
  mode := .fullRebuild
  sourceFromDate := day 739770 (by decide)
  sourceToDate := today
  expectedAccounts := ["checking".toList]

def monthBegin : Event := ⟨.beginRefresh month "month".toList 10 1000, clock⟩

/-- An edit of the weekly configuration. -/
def edit (budgetLimit : Decimal) (lookbackDays : Nat) : Event :=
  ⟨.putConfig (request budgetLimit lookbackDays)
    (some (ConfigService.editHashForRequest .transparent weekly)), clock⟩

/-- A pending version, and a full run for it. -/
def waiting : List Event := configured ++ [edit (Decimal.ofNat 100) 14, monthBegin]

/-- The commit of a run without batches. -/
def emptyCommit (runId : Nat) : Event := ⟨.commitRefresh runId ⟨0, ["checking".toList]⟩, clock⟩

def purchase : TransactionUpload where
  accountId := "checking".toList
  accountName := none
  sourceId := "t1".toList
  date := today
  amount := Decimal.ofNat 12
  currency := "USD".toList
  categories := ["food".toList]
  pending := false
  pendingSourceId := none
  name := none
  merchant := none
  refunded := false
  refundAmount := Decimal.ofNat 0

/-- The only batch of a run, and the commit of the run. -/
def publish (runId : Nat) (transactions : List TransactionUpload) : List Event :=
  [⟨.uploadBatch runId 0 ⟨"batch-00".toList, transactions⟩ 10 1000000, clock⟩,
    ⟨.commitRefresh runId ⟨1, ["checking".toList]⟩, clock⟩]

/-- An incremental run over the same days and accounts. -/
def continued : RefreshBeginRequest := { month with mode := .incremental }

/-- One purchase is live. -/
def synced : List Event := configured ++ [monthBegin] ++ publish 1 [purchase]

/-- The purchase before it is posted, and once it is posted under another identifier. -/
def authorized : TransactionUpload := { purchase with pending := true }

def posted : TransactionUpload :=
  { purchase with sourceId := "t2".toList, pendingSourceId := some "t1".toList }

def incremental (runId : Nat) (key : String) (transactions : List TransactionUpload) :
    List Event :=
  ⟨.beginRefresh continued key.toList 10 1000, clock⟩ :: publish runId transactions

/-- The pending purchase is uploaded again after its replacement is live. -/
def resurrected : List Event :=
  configured ++ [monthBegin] ++ publish 1 [authorized] ++ incremental 2 "second" [posted] ++
    incremental 3 "third" [authorized]

/-- Ten days later. -/
def laterDay : Date := day 739810 (by decide)

def laterClock : Clock where
  now := ⟨laterDay, 0, by decide⟩
  serverNow := ⟨laterDay, 0, by decide⟩

/-- An incremental run that covers the later day only. -/
def gap : List Event := synced ++
  [⟨.beginRefresh { continued with sourceFromDate := laterDay, sourceToDate := laterDay }
      "later".toList 10 1000, laterClock⟩,
    ⟨.commitRefresh 2 ⟨0, ["checking".toList]⟩, laterClock⟩]

/-- Ten days earlier. -/
def earlierDay : Date := day 739790 (by decide)

/-- A full run whose only purchase is older than its window. -/
def old : List Event := configured ++ [monthBegin] ++ publish 1 [{ purchase with date := earlierDay }]

/-- A full run is open while one transaction is live. -/
def rebuilding (live staged : TransactionUpload) : List Event :=
  configured ++ [monthBegin] ++ publish 1 [live] ++
    [⟨.beginRefresh month "rebuild".toList 10 1000, clock⟩,
      ⟨.uploadBatch 2 0 ⟨"batch-00".toList, [staged]⟩ 10 1000000, clock⟩]

def rebuildCommit : RefreshCommitRequest := ⟨1, ["checking".toList]⟩

end Sample

end RollingBudget
