import Triage.Address
import Triage.CommandLine
import Triage.Config
import Triage.Context
import Triage.Entries
import Triage.Environment
import Triage.Error
import Triage.Files.Disk
import Triage.Files.Error
import Triage.Files.Load
import Triage.Files.Path
import Triage.Graph.Basic
import Triage.Graph.Builder
import Triage.Job
import Triage.Log
import Triage.Log.Filter
import Triage.Main
import Triage.Message
import Triage.Message.Source
import Triage.Number.Binary64
import Triage.Number.Decimal
import Triage.Number.Power
import Triage.Number.Shortest
import Triage.Outcome
import Triage.Parameter.Coercion
import Triage.Parameter.Resolution
import Triage.Parameter.Spec
import Triage.Pattern.Basic
import Triage.Pattern.CharSet
import Triage.Pattern.Property
import Triage.Pattern.Reader
import Triage.Program
import Triage.Prompt
import Triage.Proofs.Address
import Triage.Proofs.Batch.Alone
import Triage.Proofs.Batch.Apart
import Triage.Proofs.Batch.Confined
import Triage.Proofs.Batch.Filing
import Triage.Proofs.Batch.Interleaving
import Triage.Proofs.Batch.Phase
import Triage.Proofs.Batch.Shared
import Triage.Proofs.Batch.Silent
import Triage.Proofs.Batch.Unattended
import Triage.Proofs.Config
import Triage.Proofs.Entries
import Triage.Proofs.Files.Disk
import Triage.Proofs.Files.Path
import Triage.Proofs.Graph.Forest
import Triage.Proofs.Graph.Growth
import Triage.Proofs.Graph.Listing
import Triage.Proofs.Graph.Rooted
import Triage.Proofs.Job
import Triage.Proofs.Number.Decimal
import Triage.Proofs.Number.Numeral
import Triage.Proofs.Parameter.Declared
import Triage.Proofs.Parameter.Moment
import Triage.Proofs.Parameter.Moves
import Triage.Proofs.Parameter.Normalization
import Triage.Proofs.Parameter.Nulls
import Triage.Proofs.Parameter.Numeral
import Triage.Proofs.Parameter.Replacement
import Triage.Proofs.Parameter.Resolution
import Triage.Proofs.Registry
import Triage.Proofs.Renderer
import Triage.Proofs.Renderer.Answers
import Triage.Proofs.Renderer.Ink
import Triage.Proofs.Renderer.Progress
import Triage.Proofs.Report
import Triage.Proofs.Report.Document
import Triage.Proofs.Report.FileName
import Triage.Proofs.Resource
import Triage.Proofs.Retention
import Triage.Proofs.Run.Abort
import Triage.Proofs.Run.Account
import Triage.Proofs.Run.Asks
import Triage.Proofs.Run.Attempt
import Triage.Proofs.Run.AttributeCheck
import Triage.Proofs.Run.Chain
import Triage.Proofs.Run.Conduct
import Triage.Proofs.Run.CutShort
import Triage.Proofs.Run.DepthFirst
import Triage.Proofs.Run.EndStep
import Triage.Proofs.Run.Engine
import Triage.Proofs.Run.Exchange
import Triage.Proofs.Run.Execution
import Triage.Proofs.Run.Failure
import Triage.Proofs.Run.Filing
import Triage.Proofs.Run.Heard
import Triage.Proofs.Run.Hearing
import Triage.Proofs.Run.HumanTask
import Triage.Proofs.Run.Kept
import Triage.Proofs.Run.Lookup
import Triage.Proofs.Run.Notes
import Triage.Proofs.Run.Occasion
import Triage.Proofs.Run.Operator
import Triage.Proofs.Run.Order
import Triage.Proofs.Run.Ordinary
import Triage.Proofs.Run.Parameters
import Triage.Proofs.Run.Project
import Triage.Proofs.Run.Reason
import Triage.Proofs.Run.Render
import Triage.Proofs.Run.Replies
import Triage.Proofs.Run.Retests
import Triage.Proofs.Run.Scopes
import Triage.Proofs.Run.Silent
import Triage.Proofs.Run.Spelling
import Triage.Proofs.Run.Stay
import Triage.Proofs.Run.Story
import Triage.Proofs.Run.Surroundings
import Triage.Proofs.Run.Traversal
import Triage.Proofs.Run.Unseen
import Triage.Proofs.Run.Walk
import Triage.Proofs.Run.Within
import Triage.Proofs.Run.Yields
import Triage.Proofs.Runbook.Calls
import Triage.Proofs.Runbook.Conducts
import Triage.Proofs.Runbook.Confinement
import Triage.Proofs.Runbook.Diagnosis
import Triage.Proofs.Runbook.Finding
import Triage.Proofs.Runbook.Results
import Triage.Proofs.Snapshot
import Triage.Proofs.Step.Profile
import Triage.Proofs.Step.Uses
import Triage.Proofs.Text.Chars
import Triage.Proofs.Text.Conservation
import Triage.Proofs.Text.Fold
import Triage.Proofs.Text.Kebab
import Triage.Proofs.Text.Layout
import Triage.Proofs.Text.Lower
import Triage.Proofs.Text.Placeholder
import Triage.Proofs.Text.Truncate
import Triage.Proofs.Text.Words
import Triage.Proofs.Text.Wrap
import Triage.Proofs.Time.Calendar
import Triage.Proofs.Time.Lenient
import Triage.Proofs.Time.Reader
import Triage.Proofs.Time.Stamp
import Triage.Proofs.Trace
import Triage.Proofs.Tree.Uses
import Triage.Proofs.Value.Basic
import Triage.Proofs.Value.Json
import Triage.Proofs.Value.Syntax
import Triage.Proofs.Verdict
import Triage.Registry.Basic
import Triage.Registry.Id
import Triage.Renderer.Basic
import Triage.Renderer.Display
import Triage.Renderer.EventLog
import Triage.Renderer.Terminal
import Triage.Report.Basic
import Triage.Report.Document
import Triage.Report.File
import Triage.Resource
import Triage.Run.Batch
import Triage.Run.BatchSpec
import Triage.Run.Engine
import Triage.Run.Operator
import Triage.Run.Scopes
import Triage.Run.Session
import Triage.Run.Surroundings
import Triage.Run.Walk
import Triage.Runbook.Shipped
import Triage.Runbook.VmRunningState
import Triage.Snapshot
import Triage.Status
import Triage.Step.Basic
import Triage.Step.Builtin
import Triage.Step.Frame
import Triage.Step.Profile
import Triage.Text.Case
import Triage.Text.Chars
import Triage.Text.CodePoints
import Triage.Text.Debug
import Triage.Text.Letter
import Triage.Text.LineBreak
import Triage.Text.Placeholder
import Triage.Text.Table.Breaks
import Triage.Text.Table.CaseMaps
import Triage.Text.Table.Cases
import Triage.Text.Table.Categories
import Triage.Text.Table.Folds
import Triage.Text.Table.Letters
import Triage.Text.Table.Scripts
import Triage.Text.Table.Widths
import Triage.Text.Width
import Triage.Text.Words
import Triage.Text.Wrap
import Triage.Time.Calendar
import Triage.Time.Format
import Triage.Time.Reader
import Triage.Tree.Basic
import Triage.Tree.Blueprint
import Triage.Value.Basic
import Triage.Value.Json
import Triage.Value.Syntax
import Triage.Yaml.Node
import Triage.Yaml.Scalar
import Triage.Yaml.Schema
import Triage.Yaml.Token
