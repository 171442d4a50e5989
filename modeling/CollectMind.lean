import CollectMind.Library.Runs
import CollectMind.Library.Processes
import CollectMind.Library.Passes
import CollectMind.Library.Calls
import CollectMind.Library.Checked
import CollectMind.Library.ExpiringStore
import CollectMind.Library.ReadThrough
import CollectMind.Library.ChangeLog
import CollectMind.Library.Forever
import CollectMind.Library.BatchQueue
import CollectMind.Library.Truth
import CollectMind.Library.RowSecurity
import CollectMind.Library.Session
import CollectMind.Library.Assoc
import CollectMind.Library.Json
import CollectMind.Library.JsonText
import CollectMind.Library.JsonRead
import CollectMind.Library.CanonicalJson
import CollectMind.Library.Decimal
import CollectMind.Library.PyText
import CollectMind.Library.Segments
import CollectMind.Library.Replacement
import CollectMind.Library.Regex
import CollectMind.Library.Capture
import CollectMind.Errors
import CollectMind.Auth.JwtVerifier
import CollectMind.Ratelimit.TokenBucket
import CollectMind.Ratelimit.RateBound
import CollectMind.Ratelimit.RateDrift
import CollectMind.Ratelimit.Middleware
import CollectMind.Ratelimit.Neighbours
import CollectMind.Ratelimit.Waiting
import CollectMind.Ratelimit.ExactBucket
import CollectMind.Ratelimit.ConfigListener
import CollectMind.Redis.Client
import CollectMind.Cache.Ownership
import CollectMind.Cache.Staleness
import CollectMind.Registry.Migrations
import CollectMind.Registry.Rollback
import CollectMind.Registry.Schema
import CollectMind.Registry.Pool
import CollectMind.Registry.Isolation
import CollectMind.Registry.Immutable
import CollectMind.Registry.Audit
import CollectMind.Registry.Repository
import CollectMind.Registry.TenantVehicles
import CollectMind.Registry.FleetTransfer
import CollectMind.Registry.TenantConfig
import CollectMind.Registry.ConfigCache
import CollectMind.Ingest.Finding
import CollectMind.Ingest.PostFinding
import CollectMind.Ingest.ForwardCompat
import CollectMind.Ingest.Interleaving
import CollectMind.Ingest.Retry
import CollectMind.Ingest.TenantView
import CollectMind.Ingest.Noninterference
import CollectMind.Ingest.AuditLog
import CollectMind.Validator.PolicySpec
import CollectMind.Validator.PolicyValidator
import CollectMind.Validator.Decision
import CollectMind.Graph.Session
import CollectMind.Graph.Run
import CollectMind.Graph.Sent
import CollectMind.Graph.Bounded
import CollectMind.Graph.Runner
import CollectMind.Graph.FailurePoints
import CollectMind.Graph.Rejections
import CollectMind.Graph.Prompt
import CollectMind.Graph.PromptTrace
import CollectMind.Slm.Fingerprint
import CollectMind.Slm.DevDefault
import CollectMind.Slm.ReadBack
import CollectMind.Slm.LocalRun
import CollectMind.Deployer.ScopeCheck
import CollectMind.Deployer.Signing
import CollectMind.Feedback.Worker
import CollectMind.Feedback.Evaluator
import CollectMind.Feedback.Simulation
import CollectMind.Feedback.Interleaving
import CollectMind.Feedback.Passes
import CollectMind.Feedback.Backlog
import CollectMind.Feedback.Starvation
import CollectMind.Erasure.Dispatcher
import CollectMind.Erasure.Frame
import CollectMind.Erasure.OperatorRecords
import CollectMind.AuditAdmin.BreakGlass
import CollectMind.Query.AuditEvents
import CollectMind.Query.ConfigTrail
import CollectMind.Query.Policies
import CollectMind.Query.Routes
import CollectMind.Query.Metrics
import CollectMind.Observability.Logging
import CollectMind.Loop.Database
import CollectMind.Loop.History
import CollectMind.Loop.Provenance
import CollectMind.Loop.Requests
