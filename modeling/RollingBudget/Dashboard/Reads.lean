import RollingBudget.Configuration.Invariant
import RollingBudget.Services.DashboardService

namespace RollingBudget

open ConfigService RefreshService DashboardService

/-! Which rows `get_config` and `get_dashboard` read. -/

variable {environment : Environment} {before after : Database} {config : ConfigVersion}

/-! ## The configuration -/

/-- Outside the pending version a view reads only the version's join rows. -/
theorem versionView_congr {tables tables' : ConfigTables} (notPending : config.status ≠ .pending)
    (rules : rulesForConfig tables' config.id = rulesForConfig tables config.id)
    (syncState : Option SyncState) :
    versionView environment tables' syncState config =
      versionView environment tables syncState config := by
  have snapshot : editableSnapshotForConfig tables' config =
      editableSnapshotForConfig tables config := by
    unfold editableSnapshotForConfig activeSnapshot assembled
    rw [if_neg notPending, if_neg notPending, rules]
  unfold versionView editHashForConfig
  rw [snapshot, rules]

/-- The active part of `get_config`. -/
theorem WellFormed.getConfig_active {tables : ConfigTables}
    (wellFormed : WellFormed environment tables) (syncState : Option SyncState)
    (found : tables.active = some config) :
    ∃ view activeView, getConfig environment tables syncState = .ok view ∧
      view.active = some activeView ∧ versionView environment tables syncState config =
        .ok activeView := by
  rcases wellFormed.versionView_ok (ConfigTables.active_mem found).1 syncState with
    ⟨activeView, activeRead, _⟩
  rcases wellFormed.optionalView_ok (fun _ found => (ConfigTables.pending_mem found).1)
    syncState with ⟨pending, pendingRead, _⟩
  refine ⟨⟨some activeView, pending⟩, activeView, ?_, rfl, activeRead⟩
  rw [getConfig, found, optionalView, activeRead, Outcome.ok_bind, Outcome.pure_bind_ok,
    pendingRead]
  rfl

/-! ## The dashboard -/

/-- The last day of the windows. -/
def windowEnd (environment : Environment) (clock : Clock) (asOf : Option Date)
    (config : ConfigVersion) : Date :=
  asOf.getD (environment.localDate config.timezone clock.now)

/-- The categories of a dashboard read the enabled rules of the active version and the
live rows. -/
theorem ConfigInvariant.getDashboard_categories {database : Database}
    (invariant : ConfigInvariant environment database.config)
    (found : database.config.active = some config) (clock : Clock) (asOf : Option Date)
    (staleAfterHours : Nat) :
    (getDashboard environment clock database asOf staleAfterHours).map
        DashboardResponse.categories =
      (enabledRules database.config config.id).mapM (dashboardCategory database.ledger config.id
        (windowEnd environment clock asOf config)) := by
  have member := (ConfigTables.active_mem found).1
  unfold getDashboard
  rw [found, Outcome.orRaise_some, Outcome.ok_bind,
    Outcome.require_of (invariant.wellFormed.sound config member).zone, Outcome.ok_bind,
    invariant.wellFormed.editHash_eq member]
  dsimp only [windowEnd]
  cases (enabledRules database.config config.id).mapM (dashboardCategory database.ledger config.id
    (asOf.getD (environment.localDate config.timezone clock.now))) <;> rfl

/-- Of the runs the dashboard reads only the one that published last. -/
theorem getDashboard_congr (configEq : after.config = before.config)
    (ledgerEq : after.ledger = before.ledger) (syncEq : after.syncState = before.syncState)
    (lastRun : ∀ syncState, before.syncState = some syncState →
      after.refresh.run syncState.lastRefreshRunId = before.refresh.run syncState.lastRefreshRunId)
    (clock : Clock) (asOf : Option Date) (staleAfterHours : Nat) :
    getDashboard environment clock after asOf staleAfterHours =
      getDashboard environment clock before asOf staleAfterHours := by
  have sameFreshness : ∀ windowEnd, freshness clock after windowEnd staleAfterHours =
      freshness clock before windowEnd staleAfterHours := by
    intro windowEnd
    unfold freshness
    rw [syncEq]
    cases found : before.syncState with
    | none => rfl
    | some syncState =>
        dsimp only
        rw [lastRun syncState found]
  unfold getDashboard
  rw [configEq, ledgerEq, syncEq]
  simp only [sameFreshness]

end RollingBudget
