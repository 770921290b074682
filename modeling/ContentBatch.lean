import ContentBatch.Action
import ContentBatch.Asset.Basic
import ContentBatch.Asset.Format
import ContentBatch.Asset.Freshness
import ContentBatch.Batch.Basic
import ContentBatch.Catalog
import ContentBatch.Datum.Basic
import ContentBatch.Datum.OfJson
import ContentBatch.Environment
import ContentBatch.Error
import ContentBatch.Filter
import ContentBatch.Held
import ContentBatch.Journal.Basic
import ContentBatch.Journal.Event
import ContentBatch.Journal.Span
import ContentBatch.Json.Basic
import ContentBatch.Json.Format
import ContentBatch.Json.Reader
import ContentBatch.Json.Record
import ContentBatch.Json.Writer
import ContentBatch.Keyed
import ContentBatch.Logging.Basic
import ContentBatch.Logging.Filter
import ContentBatch.Number.Binary64
import ContentBatch.Number.Digits
import ContentBatch.Pattern.Assertion
import ContentBatch.Pattern.Engine
import ContentBatch.Pattern.CharSet
import ContentBatch.Pattern.Class
import ContentBatch.Pattern.Escape
import ContentBatch.Pattern.Expression
import ContentBatch.Pattern.Fault
import ContentBatch.Pattern.Flags
import ContentBatch.Pattern.Path
import ContentBatch.Pattern.Reader
import ContentBatch.Pattern.Scan
import ContentBatch.Pattern.Token
import ContentBatch.Proofs.Asset.Address
import ContentBatch.Proofs.Asset.Deletions
import ContentBatch.Proofs.Asset.FanOut
import ContentBatch.Proofs.Asset.Names
import ContentBatch.Proofs.Asset.Order
import ContentBatch.Proofs.Asset.Regeneration
import ContentBatch.Proofs.Asset.Removal
import ContentBatch.Proofs.Asset.Verdict
import ContentBatch.Proofs.Composition
import ContentBatch.Proofs.Filter.Evaluation
import ContentBatch.Proofs.Filter.Subassets
import ContentBatch.Proofs.FirstFailure
import ContentBatch.Proofs.Journal.Added
import ContentBatch.Proofs.Journal.CallTree
import ContentBatch.Proofs.Json.Canonical
import ContentBatch.Proofs.Json.Written
import ContentBatch.Proofs.Number.Written
import ContentBatch.Proofs.Pattern.Acceptance
import ContentBatch.Proofs.Pattern.Classes
import ContentBatch.Proofs.Pattern.Continuation
import ContentBatch.Proofs.Pattern.Grouping
import ContentBatch.Proofs.Pattern.Matching
import ContentBatch.Proofs.Pattern.Tokens
import ContentBatch.Proofs.Pattern.Whole
import ContentBatch.Proofs.Retry.Accounting
import ContentBatch.Proofs.Retry.Binding
import ContentBatch.Proofs.Retry.Cancellation
import ContentBatch.Proofs.Retry.Completion
import ContentBatch.Proofs.Retry.Counters
import ContentBatch.Proofs.Retry.Course
import ContentBatch.Proofs.Retry.Diary
import ContentBatch.Proofs.Retry.Invariant
import ContentBatch.Proofs.Retry.LargerBudget
import ContentBatch.Proofs.Retry.Levels
import ContentBatch.Proofs.Retry.Orderly
import ContentBatch.Proofs.Retry.Protocol
import ContentBatch.Proofs.Retry.Reports
import ContentBatch.Proofs.Retry.Stages
import ContentBatch.Proofs.Retry.Staging
import ContentBatch.Proofs.Retry.Written
import ContentBatch.Proofs.RoundRobin.Cursors
import ContentBatch.Proofs.RoundRobin.Invocations
import ContentBatch.Proofs.RoundRobin.OneDrawEach
import ContentBatch.Proofs.RoundRobin.Script
import ContentBatch.Proofs.RoundRobin.Served
import ContentBatch.Proofs.RoundRobin.Workers
import ContentBatch.Proofs.RoundTrip
import ContentBatch.Proofs.Settings.Budget
import ContentBatch.Proofs.Settings.Fields
import ContentBatch.Proofs.Settings.Precedence
import ContentBatch.Proofs.Settings.Rewritten
import ContentBatch.Proofs.Spans
import ContentBatch.Proofs.Text.Lowercase
import ContentBatch.Proofs.Timestamp.Written
import ContentBatch.Proofs.Workflow.Marking
import ContentBatch.Rehearsal.Plan
import ContentBatch.Rehearsal.Scenario
import ContentBatch.Rehearsal.Tour
import ContentBatch.Rehearsal.World
import ContentBatch.Replication
import ContentBatch.Replication.Format
import ContentBatch.Repository
import ContentBatch.Retry.Attempts
import ContentBatch.Retry.Basic
import ContentBatch.Retry.Classifier
import ContentBatch.Retry.Policy
import ContentBatch.RoundRobin.Basic
import ContentBatch.RoundRobin.Rota
import ContentBatch.Settings.Basic
import ContentBatch.Settings.Environment
import ContentBatch.Settings.File
import ContentBatch.Settings.Folder
import ContentBatch.Settings.Format
import ContentBatch.Settings.Layers
import ContentBatch.Settings.Load
import ContentBatch.Text.CaseFolding
import ContentBatch.Text.CaseFolding.Table
import ContentBatch.Text.Category
import ContentBatch.Text.Category.Letters
import ContentBatch.Text.Category.Marking
import ContentBatch.Text.Category.Marks
import ContentBatch.Text.Category.Numbers
import ContentBatch.Text.CodeRun
import ContentBatch.Text.Lowercase
import ContentBatch.Text.Lowercase.Table
import ContentBatch.Text.Parts
import ContentBatch.Text.Quoted
import ContentBatch.Text.Shown
import ContentBatch.Timestamp.Basic
import ContentBatch.Timestamp.Date
import ContentBatch.Timestamp.Text
import ContentBatch.Toml.Document
import ContentBatch.Toml.Scalar
import ContentBatch.Toml.Table
import ContentBatch.Toml.Text
import ContentBatch.Work
import ContentBatch.Workflow
import ContentBatch.Workflow.Format
import ContentBatch.Yaml.Node
import ContentBatch.Yaml.Resolve
import ContentBatch.Yaml.Scalar
import ContentBatch.Yaml.Spot
