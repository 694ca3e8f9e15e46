import RollingBudget.Refresh.Errors
import RollingBudget.System.Representations
import RollingBudget.System.Windows

namespace RollingBudget

open ConfigService RefreshService DashboardService Outcome

/-! The range of Python dates. Three places subtract the length of a window from a date of a
request, and only one of them does so before a run is written: a run whose windows would
start before the first date can be opened and filled, but never commits. One more
arithmetic error waits in the commit, where a request can ask for a list that is too long. -/

variable {environment : Environment} {database committed : Database} {event : Event}
  {response : Response} {run : RefreshRun}

/-- A request that opens a run ends late enough for every rule of the version it binds. -/
def RefreshBeginRequest.Fits (request : RefreshBeginRequest) (database : Database)
    (idempotencyKey : Text) : Prop :=
  Table.get RefreshRun.idempotencyKey database.refresh.refreshRuns idempotencyKey = none →
    ∀ target, beginTarget database.config request = .ok target →
      WindowsFit (rulesForConfig database.config target.id) request.sourceToDate

/-- The condition on a call of a history; only `begin_refresh` has one. -/
def Event.Fits (database : Database) (event : Event) : Prop :=
  match event.call with
  | .beginRefresh raw idempotencyKey _ _ =>
      ∀ request, raw.validate = some request → request.Fits database idempotencyKey
  | _ => True

/-- What fits one state of the configuration fits every later one. -/
theorem RunFits.mono {before after : ConfigTables} (fits : RunFits before run)
    (wellFormed : WellFormed environment before) (grows : before.Extends after)
    {target : ConfigVersion} (found : before.configVersion run.configVersionId = some target) :
    RunFits after run := by
  have targetId : target.id = run.configVersionId := Table.key_of_get found
  have member := Table.mem_of_get found
  intro row rowMember
  rw [← targetId] at rowMember
  rcases grows.exists_before (wellFormed.find_version member) (wellFormed.sound target member)
    rowMember with ⟨row', row'Member, same⟩
  rw [same.rule]
  rw [targetId] at row'Member
  exact fits row' row'Member

private theorem RunFits.next (invariant : SystemInvariant environment database)
    {before : RefreshRun} (fits : RunFits database.config before)
    (member : before ∈ database.refresh.refreshRuns)
    (version : run.configVersionId = before.configVersionId)
    (lastDay : run.sourceToDate = before.sourceToDate) (event : Event) :
    RunFits (event.next environment database).config run := by
  rcases (invariant.refresh.runs before member).bound with ⟨target, bound, -⟩
  have later := fits.mono invariant.config.wellFormed (invariant.extends_next event).config
    bound.found
  unfold RunFits at later ⊢
  rwa [version, lastDay]

namespace Sample

end Sample

end RollingBudget
