import McpSqlServer.Library.Transition
import McpSqlServer.Library.Ownership
import McpSqlServer.Library.Admission
import McpSqlServer.Library.SortedSets
import McpSqlServer.Library.Effect
import McpSqlServer.Pool.HandOut
import McpSqlServer.Pool.Representation
import McpSqlServer.Pool.Wakeup
import McpSqlServer.Pool.Overrides
import McpSqlServer.Pool.Shutdown
import McpSqlServer.Pool.Databases
import McpSqlServer.ConnectionManager.Attempts
import McpSqlServer.ConnectionManager.Commit
import McpSqlServer.WriteGuard.ObjectNames
import McpSqlServer.WriteGuard.Comments
import McpSqlServer.WriteGuard.WriteDetection
import McpSqlServer.Security
import McpSqlServer.AuditLog
import McpSqlServer.SessionManager.Lifetime
import McpSqlServer.RateLimiter.Local
import McpSqlServer.RateLimiter.Redis
import McpSqlServer.RateLimiter.Backends
import McpSqlServer.RateLimiter.Concurrent
import McpSqlServer.Tools.Dashboards
import McpSqlServer.Tools.GateOrder
import McpSqlServer.Tools.HeadBlockers
import McpSqlServer.Tools.Registration
import McpSqlServer.Tools.CallTraces
import McpSqlServer.Tools.AuditEvents
import McpSqlServer.Tools.ErrorCodes
import McpSqlServer.Tools.DenialCounter
import McpSqlServer.Tools.Procedures
import McpSqlServer.Tools.InstanceBinding
import McpSqlServer.Tools.CallerText
import McpSqlServer.Tools.DashboardAccess
import McpSqlServer.Tools.ActorQuotas
import McpSqlServer.ConnectionManager.ConnectionString
import McpSqlServer.Tools.DatabaseNames
import McpSqlServer.Security.TokenVerifier
import McpSqlServer.Security.TokenSoundness
import McpSqlServer.Security.KeyRotation
import McpSqlServer.Tools.DashboardHtml
import McpSqlServer.Tools.DashboardMarkup
import McpSqlServer.Library.ExpiringMap
import McpSqlServer.Library.Python.DeepCopy
import McpSqlServer.Tools.PageStore
import McpSqlServer.Tools.PageRefinement
import McpSqlServer.Pool.Diagnostics
import McpSqlServer.WriteGuard.TokenBoundary
import McpSqlServer.Library.Ledger
import McpSqlServer.ConnectionManager.Retirement
import McpSqlServer.ConnectionManager.Durability
import McpSqlServer.Library.DirectedCycle
import McpSqlServer.Library.Python.Set
import McpSqlServer.Tools.ModelGraph
import McpSqlServer.ConnectionManager.UniqueColumns
import McpSqlServer.ConnectionManager.Acquisition
import McpSqlServer.WriteGuard.PlainNames
import McpSqlServer.Library.Text.WordRuns
import McpSqlServer.WriteGuard.Denylist
import McpSqlServer.Tools.AppHeadBlockers
import McpSqlServer.Tools.SchemaFilter
import McpSqlServer.Tools.TableHealth
import McpSqlServer.Tools.DatatypeConsistency
import McpSqlServer.Tools.DataModel
import McpSqlServer.Tools.StatementSources
import McpSqlServer.Tools.RequestIds
import McpSqlServer.Tools.ErrorNumbers
import McpSqlServer.Library.Python.FString
import McpSqlServer.Tools.QueryCatalog
import McpSqlServer.Library.Sql.Lexer
import McpSqlServer.Tools.HistogramQuery
import McpSqlServer.Security.GroupPrivileges
import McpSqlServer.AuditLog.Accounting
import McpSqlServer.Library.Following
import McpSqlServer.Tools.ChainSections
import McpSqlServer.Tools.DashboardRefresh
import McpSqlServer.Library.Playback
import McpSqlServer.ConnectionManager.ToolView
import McpSqlServer.Tools.SecurityConfig
import McpSqlServer.Tools.ReportRefinement
import McpSqlServer.Tools.ResourceBounds
import McpSqlServer.ConfigLoader.Overrides
import McpSqlServer.Tools.FlagControl
import McpSqlServer.Tools.ReportAccounting
import McpSqlServer.Tools.PolicyTightening
import McpSqlServer.ConnectionManager.Lifecycle
import McpSqlServer.App.Life
import McpSqlServer.App.FailClosed
import McpSqlServer.Tools.AppDisclosure
import McpSqlServer.ConnectionManager.Readiness
import McpSqlServer.Tools.ToolListing
