/-
Run proofs in a batch: find them below a directory, have each configured by a
bounded crew of workers, hand the jobs to a build tool, and summarize the
finished build.
-/
import ProofBatch.BuildSummary
import ProofBatch.BuildSummary.RunFile
import ProofBatch.Capability
import ProofBatch.Capability.Report
import ProofBatch.CommandLine.Parse
import ProofBatch.CommandLine.Vocabulary
import ProofBatch.Commands
import ProofBatch.Discovery
import ProofBatch.Error
import ProofBatch.FileTree
import ProofBatch.Identifier
import ProofBatch.IoError
import ProofBatch.Journal
import ProofBatch.Json.Limits
import ProofBatch.Json.Token
import ProofBatch.Json.Value
import ProofBatch.Litani
import ProofBatch.Machine
import ProofBatch.Main
import ProofBatch.Make
import ProofBatch.Path
import ProofBatch.Pools
import ProofBatch.Process
import ProofBatch.Progress
import ProofBatch.ProofUnit
import ProofBatch.Registry
import ProofBatch.Run
import ProofBatch.Session
import ProofBatch.Settings
import ProofBatch.Settings.File
import ProofBatch.Settings.Yaml
import ProofBatch.Shell.Builtin
import ProofBatch.Shell.Bytes
import ProofBatch.Shell.Condition
import ProofBatch.Shell.Evaluation
import ProofBatch.Shell.Pattern
import ProofBatch.Shell.Printing
import ProofBatch.Shell.Program
import ProofBatch.Shell.Reader
import ProofBatch.Shell.State
import ProofBatch.Shell.Syntax
import ProofBatch.Signal
import ProofBatch.Status
import ProofBatch.Table
import ProofBatch.Text.Blank
import ProofBatch.Text.Case
import ProofBatch.Text.Letter
import ProofBatch.Text.Lines
import ProofBatch.Text.Quoted
import ProofBatch.Text.Ranges
import ProofBatch.Text.Utf8
import ProofBatch.Text.Word
import ProofBatch.Workers
import ProofBatch.Yaml.Cursor
import ProofBatch.Yaml.Document
import ProofBatch.Yaml.Scalar
import ProofBatch.Yaml.Token
import ProofBatch.Proofs.Journal
import ProofBatch.Proofs.Json.Grammar
import ProofBatch.Proofs.Path
import ProofBatch.Proofs.Text
import ProofBatch.Proofs.Identifier
import ProofBatch.Proofs.Registry
import ProofBatch.Proofs.Registry.Sequence
import ProofBatch.Proofs.FileTree.Places
import ProofBatch.Proofs.FileTree.Resolution
import ProofBatch.Proofs.FileTree.Visits
import ProofBatch.Proofs.FileTree.Tour
import ProofBatch.Proofs.Discovery.Scan
import ProofBatch.Proofs.Discovery.Exact
import ProofBatch.Proofs.Discovery.Requested
import ProofBatch.Proofs.Discovery.Found
import ProofBatch.Proofs.Workers.Interleaving
import ProofBatch.Proofs.Workers.Books
import ProofBatch.Proofs.Workers.Queue
import ProofBatch.Proofs.Workers.Pass
import ProofBatch.Proofs.Workers.Conservation
import ProofBatch.Proofs.Workers.Standing
import ProofBatch.Proofs.Run.Course
import ProofBatch.Proofs.Run.Protocol
import ProofBatch.Proofs.Run.Verdict
import ProofBatch.Proofs.Run.Exclusive
import ProofBatch.Proofs.Run.Collision
import ProofBatch.Proofs.Progress
import ProofBatch.Proofs.Workers.Acceptance
import ProofBatch.Proofs.Workers.Display
import ProofBatch.Proofs.Run.Agreement
import ProofBatch.Proofs.FileTree.Aliases
import ProofBatch.Proofs.Discovery.Link
import ProofBatch.Proofs.Workers.Termination
import ProofBatch.Proofs.Run.Lockstep
import ProofBatch.Proofs.CommandLine.Default
import ProofBatch.Proofs.CommandLine.Groups
import ProofBatch.Proofs.CommandLine.RoundTrip
import ProofBatch.Proofs.Session.Activity
import ProofBatch.Proofs.Session.Launches
import ProofBatch.Proofs.Session.Environment
import ProofBatch.Proofs.Session.Course
import ProofBatch.Proofs.Json.Token
import ProofBatch.Proofs.Json.Value
import ProofBatch.Proofs.Pools
import ProofBatch.Proofs.Table.Columns
import ProofBatch.Proofs.Table.Lines
import ProofBatch.Proofs.Table.Layout
import ProofBatch.Proofs.Table.Reading
import ProofBatch.Proofs.BuildSummary.Tally
import ProofBatch.Proofs.Status
import ProofBatch.Proofs.Table.Markdown
import ProofBatch.Proofs.BuildSummary.Markdown
import ProofBatch.Proofs.Json.Writing
import ProofBatch.Proofs.BuildSummary.RunFile
import ProofBatch.Proofs.BuildSummary.Likeness
import ProofBatch.Proofs.Settings
import ProofBatch.Proofs.Progress.Terminal
