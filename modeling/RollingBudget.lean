import RollingBudget.Foundation.Calendar
import RollingBudget.Foundation.Table
import RollingBudget.Foundation.History
import RollingBudget.Foundation.Outcome
import RollingBudget.Schemas.Refresh
import RollingBudget.Services.Calls
import RollingBudget.Configuration.Growth
import RollingBudget.Configuration.WellFormed
import RollingBudget.Configuration.Selection
import RollingBudget.Configuration.Presentation
import RollingBudget.Configuration.Snapshots
import RollingBudget.Configuration.Shape
import RollingBudget.Configuration.Writes
import RollingBudget.Configuration.Invariant
import RollingBudget.Configuration.Hashes
import RollingBudget.Configuration.Publishing
import RollingBudget.Dashboard.Reads
import RollingBudget.Refresh.Steps
import RollingBudget.Refresh.Invariant
import RollingBudget.Refresh.Publication
import RollingBudget.Refresh.Rebuild
import RollingBudget.Refresh.Growth
import RollingBudget.System.Steps
import RollingBudget.System.Invariant
import RollingBudget.System.Configurations
import RollingBudget.System.Representations
import RollingBudget.System.Revisions
import RollingBudget.System.Protocol
import RollingBudget.System.Locking
import RollingBudget.System.Isolation
import RollingBudget.System.LiveData
import RollingBudget.System.Gates
import RollingBudget.System.Replacements
import RollingBudget.System.Rebuild
import RollingBudget.System.Reference
import RollingBudget.System.DateRange
import RollingBudget.System.Windows
import RollingBudget.System.Batching
import RollingBudget.System.Receipts
import RollingBudget.Schemas.CanonicalContent
import RollingBudget.Core.Auth
import RollingBudget.Foundation.DecimalText
import RollingBudget.Dashboard.Arithmetic
import RollingBudget.Foundation.Bytes
import RollingBudget.Foundation.QueryString
import RollingBudget.Foundation.JsonReader
import RollingBudget.OAuth.AccessTokens
import RollingBudget.OAuth.AuthorizationCodes
import RollingBudget.OAuth.ConsentTokens
import RollingBudget.OAuth.Redirects
import RollingBudget.Migrations.MoneyScaleRepair
import RollingBudget.Migrations.HealthyDatabases
import RollingBudget.Migrations.StaleRuns
import RollingBudget.Migrations.UpgradesAgree
import RollingBudget.Migrations.MigratedHashes
import RollingBudget.Migrations.RoundTrip
import RollingBudget.Guards.Journal
import RollingBudget.Api.Routes
import RollingBudget.Application.Authorization
import RollingBudget.Application.Revocation
import RollingBudget.System.Uploads
