import LintWatch.Api.Answer
import LintWatch.Api.Classify
import LintWatch.Api.Cli
import LintWatch.Api.Config
import LintWatch.Api.Detector
import LintWatch.Api.Fields
import LintWatch.Api.Filter
import LintWatch.Api.Guard
import LintWatch.Api.History
import LintWatch.Api.Metrics
import LintWatch.Api.Scheduler
import LintWatch.Api.Scratch
import LintWatch.Api.Service
import LintWatch.Api.Text
import LintWatch.Api.Watch
import LintWatch.Change
import LintWatch.Cli.Args
import LintWatch.Cli.Run
import LintWatch.Config.Basic
import LintWatch.Config.Check
import LintWatch.Config.Decode
import LintWatch.Config.Encode
import LintWatch.Config.Store
import LintWatch.Decimal.Render
import LintWatch.Decimal.Shortest
import LintWatch.Error
import LintWatch.FileSystem
import LintWatch.FileSystem.Listing
import LintWatch.Glob.Braced.Match
import LintWatch.Glob.Braced.Parse
import LintWatch.Glob.Wildcard
import LintWatch.Guard
import LintWatch.Json.Parse
import LintWatch.Json.Print
import LintWatch.Json.Schema
import LintWatch.Json.Value
import LintWatch.Main
import LintWatch.Metrics.Aggregator
import LintWatch.Metrics.Counters
import LintWatch.Metrics.Effectiveness
import LintWatch.Metrics.FloatRules
import LintWatch.Metrics.History
import LintWatch.Metrics.HistoryFile
import LintWatch.Metrics.Ring
import LintWatch.Metrics.Timestamp
import LintWatch.Path
import LintWatch.Proofs.Components
import LintWatch.Proofs.FileSystem.Writes
import LintWatch.Proofs.Guard.Budget
import LintWatch.Proofs.Metrics.Aggregation
import LintWatch.Proofs.Metrics.Retention
import LintWatch.Proofs.Metrics.Window
import LintWatch.Proofs.Pending.Aging
import LintWatch.Proofs.Pending.Batch
import LintWatch.Proofs.Pending.Cap
import LintWatch.Proofs.Pending.Invariant
import LintWatch.Proofs.Pending.Merge
import LintWatch.Proofs.Pending.Operations
import LintWatch.Proofs.Rules.LineLocal
import LintWatch.Proofs.Schedule.Debounce
import LintWatch.Proofs.Schedule.Delays
import LintWatch.Proofs.Service.Accounting
import LintWatch.Proofs.Service.Backpressure
import LintWatch.Proofs.Service.Drain
import LintWatch.Proofs.Service.Fingerprints
import LintWatch.Proofs.Service.Lifecycle
import LintWatch.Proofs.Service.SortedDrain
import LintWatch.Proofs.Watch.Scan
import LintWatch.Rules.Lines
import LintWatch.Rules.Patterns
import LintWatch.Rules.Validate
import LintWatch.Schedule.Cost
import LintWatch.Schedule.Debounce
import LintWatch.Schedule.Pending
import LintWatch.Schedule.Priority
import LintWatch.Service.Core
import LintWatch.Service.Processor
import LintWatch.Text.Classes
import LintWatch.Toml.Parse
import LintWatch.Toml.Print
import LintWatch.Toml.Table
import LintWatch.Toml.Value
import LintWatch.Violation
import LintWatch.Watch.Detector
import LintWatch.Watch.Event
import LintWatch.Watch.Filter
import LintWatch.Watch.Scan
