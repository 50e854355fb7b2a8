import NvidiaBuildLb.Foundation.Table
import NvidiaBuildLb.Foundation.ListEdit
import NvidiaBuildLb.Foundation.Run
import NvidiaBuildLb.Foundation.ByteText
import NvidiaBuildLb.Core.Load
import NvidiaBuildLb.Core.Evolution
import NvidiaBuildLb.Core.Invariant
import NvidiaBuildLb.Foundation.Transaction
import NvidiaBuildLb.Gateway.Database
import NvidiaBuildLb.Gateway.Delta
import NvidiaBuildLb.Gateway.DeltaRefinement
import NvidiaBuildLb.Gateway.SnapshotRefinement
import NvidiaBuildLb.Gateway.VaultStore
import NvidiaBuildLb.Core.Authentication
import NvidiaBuildLb.Core.CredentialHistory
import NvidiaBuildLb.Gateway.TwoCopies
import NvidiaBuildLb.Foundation.Interleaving
import NvidiaBuildLb.Gateway.Permits
import NvidiaBuildLb.Gateway.Admission
import NvidiaBuildLb.Foundation.RowLocking
import NvidiaBuildLb.Gateway.Ledger
import NvidiaBuildLb.Gateway.TerminalOnce
import NvidiaBuildLb.Foundation.Program
import NvidiaBuildLb.Gateway.Retirement
import NvidiaBuildLb.Hermes.Configuration
import NvidiaBuildLb.Hermes.World
import NvidiaBuildLb.Hermes.Helper
import NvidiaBuildLb.Hermes.Rules
import NvidiaBuildLb.Hermes.Invariant
import NvidiaBuildLb.Hermes.Routines
import NvidiaBuildLb.Hermes.Recovery
import NvidiaBuildLb.Hermes.Retiring
import NvidiaBuildLb.Hermes.Apply
import NvidiaBuildLb.Hermes.Commit
import NvidiaBuildLb.Hermes.Cutover
import NvidiaBuildLb.Hermes.Runs
import NvidiaBuildLb.Hermes.Recording
import NvidiaBuildLb.Hermes.RecordedRuns
import NvidiaBuildLb.Hermes.History
import NvidiaBuildLb.Hermes.Driver
import NvidiaBuildLb.Hermes.Reliable
import NvidiaBuildLb.Hermes.Resumption
import NvidiaBuildLb.Hermes.Atomicity
import NvidiaBuildLb.Foundation.Framing
import NvidiaBuildLb.Gateway.SseValidator
import NvidiaBuildLb.Foundation.Tasks
import NvidiaBuildLb.Qa.Records
import NvidiaBuildLb.Qa.Statements
import NvidiaBuildLb.Qa.Completion
import NvidiaBuildLb.Qa.Runner
import NvidiaBuildLb.Qa.Changes
import NvidiaBuildLb.Qa.CompletionChanges
import NvidiaBuildLb.Qa.Entries
import NvidiaBuildLb.Qa.Effects
import NvidiaBuildLb.Qa.Invariant
import NvidiaBuildLb.Qa.Interference
import NvidiaBuildLb.Qa.Programs
import NvidiaBuildLb.Qa.Reachable
import NvidiaBuildLb.Qa.Verdict
import NvidiaBuildLb.Qa.Driver
import NvidiaBuildLb.Qa.Closure
import NvidiaBuildLb.Qa.Finality
import NvidiaBuildLb.Gateway.ClientUpdates
import NvidiaBuildLb.Gateway.LostUpdates
import NvidiaBuildLb.Gateway.FullSync
import NvidiaBuildLb.Core.RoundTrip
import NvidiaBuildLb.Gateway.RoundTrip
import NvidiaBuildLb.Gateway.Eligibility
import NvidiaBuildLb.Gateway.EligibilityAgreement
import NvidiaBuildLb.Foundation.Mutex
import NvidiaBuildLb.Hermes.Processes
import NvidiaBuildLb.Hermes.LockHolder
import NvidiaBuildLb.Hermes.Scheduler
import NvidiaBuildLb.Hermes.Critical
import NvidiaBuildLb.Hermes.SoleGeneration
import NvidiaBuildLb.Hermes.SoleRoutines
import NvidiaBuildLb.Hermes.SoleRecovery
import NvidiaBuildLb.Hermes.SoleRetiring
import NvidiaBuildLb.Hermes.OneCommit
import NvidiaBuildLb.Core.Router
import NvidiaBuildLb.Core.Cooldown
import NvidiaBuildLb.Core.OutOfRouting
import NvidiaBuildLb.Gateway.RetryAfter
import NvidiaBuildLb.Gateway.KeyRows
import NvidiaBuildLb.Gateway.KeyStanding
import NvidiaBuildLb.Gateway.KeyRouting
import NvidiaBuildLb.Gateway.RoutingPolicy
import NvidiaBuildLb.Gateway.RoutedCooldown
import NvidiaBuildLb.Gateway.Media
import NvidiaBuildLb.Gateway.SseFraming
import NvidiaBuildLb.Foundation.Utf8
import NvidiaBuildLb.Gateway.SseEvents
import NvidiaBuildLb.Gateway.SseReemission
import NvidiaBuildLb.Qa.Exercise
import NvidiaBuildLb.Gateway.Evidence
import NvidiaBuildLb.Gateway.ProxyStream
import NvidiaBuildLb.Foundation.Monitor
import NvidiaBuildLb.Gateway.Proxy
import NvidiaBuildLb.Gateway.ProxyProtocol
import NvidiaBuildLb.Foundation.Keyset
import NvidiaBuildLb.Operations.Incidents
import NvidiaBuildLb.Operations.IncidentAnswers
import NvidiaBuildLb.Operations.IncidentResolution
import NvidiaBuildLb.Operations.Pagination
import NvidiaBuildLb.Operations.KeysetWalks
import NvidiaBuildLb.Operations.Rollup
import NvidiaBuildLb.Operations.Retention
import NvidiaBuildLb.Operations.RetentionAges
import NvidiaBuildLb.Operations.RollupRuns
import NvidiaBuildLb.Operations.Percentile
import NvidiaBuildLb.Foundation.Occurrences
import NvidiaBuildLb.Hermes.SecretScan
import NvidiaBuildLb.Foundation.Numbering
import NvidiaBuildLb.Gateway.SlotNumbers
import NvidiaBuildLb.Gateway.SlotHistories
import NvidiaBuildLb.Foundation.Splitting
import NvidiaBuildLb.Gateway.HostGate
import NvidiaBuildLb.Gateway.HostAuthority
import NvidiaBuildLb.Foundation.Outline
import NvidiaBuildLb.Hermes.BlockMapping
import NvidiaBuildLb.Hermes.YamlUpdate
import NvidiaBuildLb.Hermes.YamlChildren
import NvidiaBuildLb.Hermes.YamlIntended
import NvidiaBuildLb.Foundation.Checked
import NvidiaBuildLb.Gateway.MediaChecks
import NvidiaBuildLb.Foundation.Double
import NvidiaBuildLb.Gateway.ModalityRequests
import NvidiaBuildLb.Gateway.Multipart
import NvidiaBuildLb.Gateway.ModalityPreparation
import NvidiaBuildLb.Foundation.Cutting
import NvidiaBuildLb.Foundation.FormLayout
import NvidiaBuildLb.Gateway.LossyText
import NvidiaBuildLb.Gateway.FormSearch
import NvidiaBuildLb.Gateway.FormAdmission
import NvidiaBuildLb.Foundation.FormData
import NvidiaBuildLb.Gateway.ProxyRules
import NvidiaBuildLb.Gateway.ProxyStreamWalk
import NvidiaBuildLb.Gateway.ProxyWalk
import NvidiaBuildLb.Gateway.ProxyAttemptWalk
import NvidiaBuildLb.Gateway.ProxyHandlersWalk
import NvidiaBuildLb.Gateway.ProxyServed
import NvidiaBuildLb.Gateway.ProxyRuns
import NvidiaBuildLb.Gateway.TerminalValues
import NvidiaBuildLb.Gateway.RateLimitOutcome
import NvidiaBuildLb.Gateway.EvidenceFailures
import NvidiaBuildLb.Gateway.AcceptedOnce
import NvidiaBuildLb.Gateway.RequestRows
import NvidiaBuildLb.Gateway.FailoverDiscipline
import NvidiaBuildLb.Gateway.LedgerClosure
import NvidiaBuildLb.Gateway.Orphans
import NvidiaBuildLb.Gateway.StreamContract
import NvidiaBuildLb.Gateway.Selection
import NvidiaBuildLb.Gateway.SelectionTurns
import NvidiaBuildLb.Foundation.Completion
import NvidiaBuildLb.Foundation.Frame
import NvidiaBuildLb.Gateway.SyncFrames
import NvidiaBuildLb.Gateway.UnheardSync
import NvidiaBuildLb.Gateway.Atomicity
import NvidiaBuildLb.Gateway.AuditTrail
import NvidiaBuildLb.Gateway.Revocation
import NvidiaBuildLb.Foundation.PercentEncoding
import NvidiaBuildLb.Foundation.KeysetReader
import NvidiaBuildLb.Hermes.AdminPages
import NvidiaBuildLb.Hermes.RequestCorrelation
import NvidiaBuildLb.Hermes.ClientRevocation
import NvidiaBuildLb.Hermes.TreeScan
import NvidiaBuildLb.Operations.OffsetPages
