import RollingBudget.Foundation.DecimalContext
import RollingBudget.Services.RefreshService

namespace RollingBudget

open ServiceError ConfigService RefreshService

/-! The rolling windows of the active configuration over the live transactions. -/

inductive BudgetStatus where
  | ok
  | nearLimit
  | overBudget
deriving DecidableEq

structure DashboardCategory where
  key : Text
  name : Text
  icon : Option Text
  sortOrder : Nat
  windowDays : Nat
  windowStart : Date
  windowEnd : Date
  currency : Text
  spent : Decimal
  budget : Decimal
  remaining : Decimal
  overAmount : Decimal
  progress : Decimal
  status : BudgetStatus
  transactionCount : Nat
  pendingCount : Nat
  pendingAmount : Decimal
  refundCount : Nat
  refundAmount : Decimal
deriving DecidableEq

inductive FreshnessStatus where
  | neverRefreshed
  | stale
  | fresh
deriving DecidableEq

structure DashboardFreshness where
  status : FreshnessStatus
  lastSuccessfulRefreshAt : Option Datetime
  staleAfterHours : Nat
deriving DecidableEq

structure DashboardResponse where
  asOf : Date
  timezone : Text
  displayCurrency : Text
  configVersion : Nat
  configHash : Text
  pendingConfigVersion : Option Nat
  fullRebuildRequired : Bool
  freshness : DashboardFreshness
  categories : List DashboardCategory
deriving DecidableEq

namespace DashboardService

variable (environment : Environment)

/-- The live transactions of a config that are linked to a category and dated in a window. -/
def windowRows (ledger : LedgerTables) (configId categoryId : Nat) (windowStart windowEnd : Date) :
    List Transaction :=
  ledger.transactions.filter fun transaction =>
    transaction.configVersionId = configId ∧
      (∃ link ∈ ledger.transactionCategories,
        link.identity = transaction.identity ∧ link.categoryId = categoryId) ∧
      windowStart ≤ transaction.transactionDate ∧ transaction.transactionDate ≤ windowEnd

/-- What the figures of a category read from one transaction. -/
structure Posting where
  amount : Decimal
  refundAmount : Decimal
  pending : Bool
  refunded : Bool
deriving DecidableEq

def Posting.net (posting : Posting) : Decimal := posting.amount.sub posting.refundAmount

def posting (transaction : Transaction) : Posting where
  amount := transaction.amount
  refundAmount := transaction.refundAmount
  pending := transaction.pending
  refunded := transaction.refunded

/-- What a dashboard category reports about its transactions. -/
structure Figures where
  spent : Decimal
  transactionCount : Nat
  pendingCount : Nat
  pendingAmount : Decimal
  refundCount : Nat
  refundAmount : Decimal
deriving DecidableEq

def figures (rows : List Posting) : Figures :=
  let pendingRows := rows.filter fun item => item.pending
  let refunds := rows.filter fun item => item.refunded
  { spent := Decimal.sum (rows.map Posting.net)
    transactionCount := rows.length
    pendingCount := pendingRows.length
    pendingAmount := Decimal.sum (pendingRows.map Posting.net)
    refundCount := refunds.length
    refundAmount := Decimal.sum (refunds.map Posting.refundAmount) }

def zero : Decimal := Decimal.ofNat 0

def progress (spent budget : Decimal) : Decimal :=
  if zero.less budget then spent.div budget
  else if zero.less spent then Decimal.ofNat 1 else zero

def status (spent budget : Decimal) : BudgetStatus :=
  if zero.less ((spent.sub budget).max zero) then .overBudget
  else if (progress spent budget).less ⟨false, 8, -1⟩ then .ok else .nearLimit

/-- One entry of the dashboard. -/
def dashboardCategory (ledger : LedgerTables) (configId : Nat) (windowEnd : Date)
    (row : LinkedRule) : Except ServiceError DashboardCategory := do
  let windowStart ← orRaise overflowError (windowEnd.minusDays (row.rule.lookbackDays - 1))
  let rows := windowRows ledger configId row.category.id windowStart windowEnd
  let figures := figures (rows.map posting)
  let budget := row.category.budgetLimit
  pure {
    key := row.category.key
    name := row.category.name
    icon := row.category.icon
    sortOrder := row.category.sortOrder
    windowDays := row.rule.lookbackDays
    windowStart := windowStart
    windowEnd := windowEnd
    currency := row.category.budgetCurrency
    spent := figures.spent
    budget := budget
    remaining := (budget.sub figures.spent).max zero
    overAmount := (figures.spent.sub budget).max zero
    progress := progress figures.spent budget
    status := status figures.spent budget
    transactionCount := figures.transactionCount
    pendingCount := figures.pendingCount
    pendingAmount := figures.pendingAmount
    refundCount := figures.refundCount
    refundAmount := figures.refundAmount }

def hourMicroseconds : Int := 3600000000

def freshness (clock : Clock) (database : Database) (windowEnd : Date) (staleAfterHours : Nat) :
    DashboardFreshness :=
  match database.syncState with
  | none => ⟨.neverRefreshed, none, staleAfterHours⟩
  | some syncState =>
      let age := clock.now.microseconds - syncState.updatedAt.microseconds
      let sourceIsBehind := (database.refresh.run syncState.lastRefreshRunId).all fun run =>
        run.sourceToDate < windowEnd
      ⟨if staleAfterHours * hourMicroseconds < age ∨ sourceIsBehind = true then .stale else .fresh,
        some syncState.updatedAt, staleAfterHours⟩

/-- `get_dashboard` -/
def getDashboard (clock : Clock) (database : Database) (asOf : Option Date)
    (staleAfterHours : Nat) : Except ServiceError DashboardResponse := do
  let active ← orRaise (conflictError .configRequired "Create a configuration first".toList)
    database.config.active
  require (environment.zoneInfo active.timezone = .found) zoneInfoFailure
  let windowEnd := asOf.getD (environment.localDate active.timezone clock.now)
  let categories ← (enabledRules database.config active.id).mapM
    (dashboardCategory database.ledger active.id windowEnd)
  let configHash ← editHashForConfig environment database.config active
  pure {
    asOf := windowEnd
    timezone := active.timezone
    displayCurrency := active.displayCurrency
    configVersion := active.version
    configHash := configHash
    pendingConfigVersion := database.config.pending.map ConfigVersion.version
    fullRebuildRequired := database.config.pending.isSome ∨
      database.syncState.map SyncState.configVersionId ≠ some active.id
    freshness := freshness clock database windowEnd staleAfterHours
    categories := categories }

end DashboardService

end RollingBudget
