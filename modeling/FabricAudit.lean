import FabricAudit.Check.Basic
import FabricAudit.Check.Kind
import FabricAudit.Check.Params
import FabricAudit.Check.Phase
import FabricAudit.Check.Result
import FabricAudit.Check.Severity
import FabricAudit.CommandLine.Commands
import FabricAudit.CommandLine.Console
import FabricAudit.CommandLine.Invocation
import FabricAudit.CommandLine.Options
import FabricAudit.Decimal.Binary64
import FabricAudit.Decimal.Digits
import FabricAudit.Decimal.Shortest
import FabricAudit.Digest.Sha256
import FabricAudit.Document.Basic
import FabricAudit.Document.Draft
import FabricAudit.Document.Path
import FabricAudit.Document.Reading
import FabricAudit.Document.Tagged
import FabricAudit.Document.Written
import FabricAudit.Drift.Baseline
import FabricAudit.Drift.Configuration
import FabricAudit.Drift.Detection
import FabricAudit.Drift.Difference
import FabricAudit.Drift.Snapshot
import FabricAudit.Drift.Summary
import FabricAudit.Evidence.Collect
import FabricAudit.Evidence.Host
import FabricAudit.Evidence.Interfaces
import FabricAudit.Evidence.Record
import FabricAudit.Evidence.Sessions
import FabricAudit.Evidence.Store
import FabricAudit.Evidence.Transport
import FabricAudit.Fault
import FabricAudit.Files.Glob
import FabricAudit.Files.Path
import FabricAudit.Files.Tree
import FabricAudit.Files.Wildcard
import FabricAudit.Intent.Basic
import FabricAudit.Intent.File
import FabricAudit.Intent.Lint
import FabricAudit.Intent.Problem
import FabricAudit.Intent.Telemetry
import FabricAudit.Inventory.Basic
import FabricAudit.Inventory.Selector
import FabricAudit.Lab.Basic
import FabricAudit.Lab.Container
import FabricAudit.Lab.Reply
import FabricAudit.Lab.Scripted
import FabricAudit.Lab.Topology
import FabricAudit.LineDiff.Block
import FabricAudit.LineDiff.Compaction
import FabricAudit.LineDiff.Edit
import FabricAudit.LineDiff.Hunk
import FabricAudit.LineDiff.Meeting
import FabricAudit.LineDiff.Script
import FabricAudit.Main
import FabricAudit.Pattern.Basic
import FabricAudit.Pattern.Property
import FabricAudit.Pattern.Reading
import FabricAudit.Pattern.Tree
import FabricAudit.Proofs.Audit.Basic
import FabricAudit.Proofs.Audit.Determined
import FabricAudit.Proofs.Audit.Ending
import FabricAudit.Proofs.Audit.Exchange
import FabricAudit.Proofs.Audit.Halting
import FabricAudit.Proofs.Check.Report
import FabricAudit.Proofs.CommandLine.ExitCode
import FabricAudit.Proofs.CommandLine.Job
import FabricAudit.Proofs.Decimal.Digits
import FabricAudit.Proofs.Decimal.Layout
import FabricAudit.Proofs.Decimal.Rounding
import FabricAudit.Proofs.Decimal.Shortest
import FabricAudit.Proofs.Document.Injective
import FabricAudit.Proofs.Document.Members
import FabricAudit.Proofs.Document.Numbers
import FabricAudit.Proofs.Document.Path
import FabricAudit.Proofs.Document.Record
import FabricAudit.Proofs.Document.Redraft
import FabricAudit.Proofs.Document.Reordered
import FabricAudit.Proofs.Document.Reread
import FabricAudit.Proofs.Document.Same
import FabricAudit.Proofs.Document.Scalars
import FabricAudit.Proofs.Document.Sorted
import FabricAudit.Proofs.Drift.Accounting
import FabricAudit.Proofs.Drift.Baseline
import FabricAudit.Proofs.Drift.Classification
import FabricAudit.Proofs.Drift.Comparison
import FabricAudit.Proofs.Drift.Coverage
import FabricAudit.Proofs.Drift.Desired
import FabricAudit.Proofs.Drift.Difference
import FabricAudit.Proofs.Drift.Evidence
import FabricAudit.Proofs.Drift.Fingerprint
import FabricAudit.Proofs.Drift.Patch
import FabricAudit.Proofs.Drift.Rendered
import FabricAudit.Proofs.Drift.Snapshot
import FabricAudit.Proofs.Drift.Verdict
import FabricAudit.Proofs.Drift.Written
import FabricAudit.Proofs.Evidence.Collection
import FabricAudit.Proofs.Evidence.Commands
import FabricAudit.Proofs.Evidence.Downgrade
import FabricAudit.Proofs.Evidence.Faithful
import FabricAudit.Proofs.Evidence.Interfaces
import FabricAudit.Proofs.Evidence.Kind
import FabricAudit.Proofs.Evidence.Memo
import FabricAudit.Proofs.Evidence.Origin
import FabricAudit.Proofs.Evidence.Sessions
import FabricAudit.Proofs.Evidence.Settled
import FabricAudit.Proofs.Evidence.Spending
import FabricAudit.Proofs.Evidence.Tables
import FabricAudit.Proofs.Files.Frame
import FabricAudit.Proofs.Files.Glob
import FabricAudit.Proofs.Files.Order
import FabricAudit.Proofs.Files.Save
import FabricAudit.Proofs.Intent.Accepted
import FabricAudit.Proofs.Intent.Essence
import FabricAudit.Proofs.Intent.Lint
import FabricAudit.Proofs.Inventory.Selection
import FabricAudit.Proofs.Inventory.Written
import FabricAudit.Proofs.Lab.Topology
import FabricAudit.Proofs.LineDiff.Block
import FabricAudit.Proofs.LineDiff.Compaction
import FabricAudit.Proofs.LineDiff.Hunk
import FabricAudit.Proofs.LineDiff.Rendering
import FabricAudit.Proofs.LineDiff.Script
import FabricAudit.Proofs.Report.Sections
import FabricAudit.Proofs.Session.Basic
import FabricAudit.Proofs.Session.Frame
import FabricAudit.Proofs.Session.Frozen
import FabricAudit.Proofs.Session.Transparency
import FabricAudit.Proofs.Text.Filled
import FabricAudit.Proofs.Text.Keyed
import FabricAudit.Proofs.Text.Lines
import FabricAudit.Proofs.Text.Output
import FabricAudit.Proofs.Text.Search
import FabricAudit.Proofs.Text.Trimmed
import FabricAudit.Proofs.Text.Words
import FabricAudit.Proofs.Time.RoundTrip
import FabricAudit.Proofs.Verdict.Complete
import FabricAudit.Proofs.Verdict.Determined
import FabricAudit.Proofs.Verdict.Distinct
import FabricAudit.Proofs.Verdict.Frame
import FabricAudit.Proofs.Verdict.Interfaces
import FabricAudit.Proofs.Verdict.Linted
import FabricAudit.Proofs.Verdict.Phases
import FabricAudit.Proofs.Verdict.Probes
import FabricAudit.Proofs.Verdict.ReturnCode
import FabricAudit.Proofs.Verdict.Scope
import FabricAudit.Proofs.Verdict.Sessions
import FabricAudit.Proofs.Verdict.Switches
import FabricAudit.Proofs.Verdict.Threshold
import FabricAudit.Proofs.Verdict.Wording
import FabricAudit.Proofs.Yaml.Lookup
import FabricAudit.Proofs.Yaml.Reordered
import FabricAudit.Report.File
import FabricAudit.Report.Markdown
import FabricAudit.Report.Table
import FabricAudit.Report.Terminal
import FabricAudit.Text.Blank
import FabricAudit.Text.Case
import FabricAudit.Text.CaseTable
import FabricAudit.Text.CategoryTable
import FabricAudit.Text.FoldTable
import FabricAudit.Text.HiddenTable
import FabricAudit.Text.Keyed
import FabricAudit.Text.Lines
import FabricAudit.Text.Quoted
import FabricAudit.Text.Ranges
import FabricAudit.Text.ScriptTable
import FabricAudit.Text.Search
import FabricAudit.Text.Utf8
import FabricAudit.Text.Width
import FabricAudit.Time.Calendar
import FabricAudit.Time.Epoch
import FabricAudit.Time.Reading
import FabricAudit.Time.Timestamp
import FabricAudit.Verdict.Configuration
import FabricAudit.Verdict.Distinct
import FabricAudit.Verdict.Interfaces
import FabricAudit.Verdict.Probes
import FabricAudit.Verdict.Routes
import FabricAudit.Verdict.Run
import FabricAudit.Verdict.Sessions
import FabricAudit.Verdict.Subject
import FabricAudit.Word
import FabricAudit.Yaml.Anchor
import FabricAudit.Yaml.Cursor
import FabricAudit.Yaml.Node
import FabricAudit.Yaml.Reading
import FabricAudit.Yaml.Scalar
import FabricAudit.Yaml.Token
import FabricAudit.Yaml.Tree
import FabricAudit.Yaml.Written
