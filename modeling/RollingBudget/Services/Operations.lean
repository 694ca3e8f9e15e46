import RollingBudget.Services.Calls

namespace RollingBudget

open ServiceError

/-! What the two interfaces do with the database: the writes, each a transaction of its own, and
three reads. -/

/-- `get_refresh_run` -/
def RefreshService.getRefreshRun (environment : Environment) (database : Database)
    (runId : Nat) : Except ServiceError RefreshRunView := do
  let run ← orRaise (notFoundError .refreshRunNotFound "Refresh run not found".toList)
    (database.refresh.run runId)
  pure (RefreshService.runView environment run)

/-- The settings that bound requests and responses. -/
structure Limits where
  maxBatchItems : Nat
  maxRequestBytes : Nat
  mcpMaxRequestBytes : Nat
  staleAfterHours : Nat

inductive Operation where
  | write (call : Call)
  | getConfig
  | getRefreshRun (runId : Nat)
  | getDashboard (asOf : Option Date) (staleAfterHours : Nat)
deriving DecidableEq

/-- What an operation returns. -/
inductive Result where
  | written (response : Response)
  | config (view : ConfigView)
  | run (view : RefreshRunView)
  | dashboard (response : DashboardResponse)
deriving DecidableEq

namespace Operation

variable (environment : Environment) (clock : Clock) (database : Database)

/-- The write in an operation. -/
def call : Operation → Option Call
  | .write call => some call
  | _ => none

/-- The database after the operation. A session that only reads commits nothing. -/
def committed (operation : Operation) : Database :=
  match operation.call with
  | some call => Event.next environment database ⟨call, clock⟩
  | none => database

def result : Operation → Except ServiceError Result
  | .write call => (Event.outcome environment database ⟨call, clock⟩).map fun completed =>
      .written completed.2
  | .getConfig => (ConfigService.getConfig environment database.config database.syncState).map
      .config
  | .getRefreshRun runId => (RefreshService.getRefreshRun environment database runId).map .run
  | .getDashboard asOf staleAfterHours =>
      (DashboardService.getDashboard environment clock database asOf staleAfterHours).map
        .dashboard

end Operation

end RollingBudget
