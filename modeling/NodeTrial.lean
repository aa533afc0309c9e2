import NodeTrial.Check
import NodeTrial.CommandLine.Options
import NodeTrial.CommandLine.Session
import NodeTrial.Config.Basic
import NodeTrial.Config.Check
import NodeTrial.Config.Document
import NodeTrial.Config.Loading
import NodeTrial.Contract.Address
import NodeTrial.Contract.Call
import NodeTrial.Contract.Document
import NodeTrial.Dialogue
import NodeTrial.FileTree.Basic
import NodeTrial.FileTree.Change
import NodeTrial.FileTree.Error
import NodeTrial.FileTree.Lookup
import NodeTrial.FileTree.Text
import NodeTrial.Interruption
import NodeTrial.Json.Printer
import NodeTrial.Json.Reader
import NodeTrial.Json.Value
import NodeTrial.Launch
import NodeTrial.Ledger
import NodeTrial.Machine.Basic
import NodeTrial.Machine.Care
import NodeTrial.Machine.Date
import NodeTrial.Machine.Installation
import NodeTrial.Machine.Session
import NodeTrial.Machine.Tool
import NodeTrial.Main
import NodeTrial.Network
import NodeTrial.Node.Care
import NodeTrial.Node.Handle
import NodeTrial.Node.Slot
import NodeTrial.Number.Binary64
import NodeTrial.Number.Hexadecimal
import NodeTrial.Number.Quantity
import NodeTrial.Number.Shortest
import NodeTrial.Outcome
import NodeTrial.Path
import NodeTrial.Pattern
import NodeTrial.Pattern.CaseFolding
import NodeTrial.Pattern.CharSet
import NodeTrial.Pattern.Matching
import NodeTrial.Pattern.Property
import NodeTrial.Pattern.Property.Basic
import NodeTrial.Pattern.Property.Binary
import NodeTrial.Pattern.Property.Categories
import NodeTrial.Pattern.Property.Scripts
import NodeTrial.Pattern.Property.Word
import NodeTrial.Pattern.Reader
import NodeTrial.Pattern.Size
import NodeTrial.Pattern.Syntax
import NodeTrial.Phase.Basic
import NodeTrial.Phase.Build
import NodeTrial.Phase.Environment
import NodeTrial.Phase.Integration
import NodeTrial.Phase.Runtime
import NodeTrial.Polling
import NodeTrial.Progress
import NodeTrial.Rehearsal
import NodeTrial.Rehearsal.Scripts
import NodeTrial.Report.Breakdown
import NodeTrial.Report.Cell
import NodeTrial.Report.Facts
import NodeTrial.Report.Page
import NodeTrial.Report.Storage
import NodeTrial.Run
import NodeTrial.Shell.Arithmetic
import NodeTrial.Shell.Builtin
import NodeTrial.Shell.Execution
import NodeTrial.Shell.Expansion
import NodeTrial.Shell.Format
import NodeTrial.Shell.Glob
import NodeTrial.Shell.Leaving
import NodeTrial.Shell.Loading
import NodeTrial.Shell.Process
import NodeTrial.Shell.Program
import NodeTrial.Shell.Reader
import NodeTrial.Shell.Starting
import NodeTrial.Shell.Syntax
import NodeTrial.Shell.Token
import NodeTrial.Shell.Utility
import NodeTrial.Surroundings
import NodeTrial.Text.Blank
import NodeTrial.Text.Lines
import NodeTrial.Text.Printable
import NodeTrial.Text.Quoted
import NodeTrial.Text.RangeTable
import NodeTrial.Text.Utf8
import NodeTrial.Tier
import NodeTrial.Toml.Outline
import NodeTrial.Toml.Reader
import NodeTrial.Toml.Scalar
import NodeTrial.Toml.Text
import NodeTrial.Toml.Value
import NodeTrial.Toml.Writer
import NodeTrial.Tool
import NodeTrial.Proofs.Dialogue.Transcript
import NodeTrial.Proofs.Ledger.Growth
import NodeTrial.Proofs.Run.Findings
import NodeTrial.Proofs.Run.Declared
import NodeTrial.Proofs.Run.Requests
import NodeTrial.Proofs.Run.Traffic
import NodeTrial.Proofs.Run.Unhealthy
import NodeTrial.Proofs.Run.Cascade
import NodeTrial.Proofs.Dialogue.World
import NodeTrial.Proofs.Node.Offspring
import NodeTrial.Proofs.Node.Handle
import NodeTrial.Proofs.Node.Keeping
import NodeTrial.Proofs.Node.Orphans
import NodeTrial.Proofs.Dialogue.Interleaving
import NodeTrial.Proofs.Node.StartSteps
import NodeTrial.Proofs.Node.Interrupted
import NodeTrial.Proofs.Contract.Success
import NodeTrial.Proofs.Contract.Variant
import NodeTrial.Proofs.Run.Coherence
import NodeTrial.Proofs.Node.HandleCases
import NodeTrial.Proofs.Node.Logs
import NodeTrial.Proofs.Node.Nursery
import NodeTrial.Proofs.Node.Signals
import NodeTrial.Proofs.Node.Files
import NodeTrial.Proofs.Node.Excerpt
import NodeTrial.Proofs.Node.Retired
import NodeTrial.Proofs.Run.Ending
import NodeTrial.Proofs.Report.Reading
import NodeTrial.Proofs.Config.RoundTrip
import NodeTrial.Proofs.Config.Partial
import NodeTrial.Proofs.Run.Cycle
import NodeTrial.Proofs.Dialogue.Determined
import NodeTrial.Proofs.Run.Containment
import NodeTrial.Proofs.FileTree.Lookup
import NodeTrial.Proofs.FileTree.Replacement
import NodeTrial.Proofs.Run.Outputs
import NodeTrial.Proofs.Run.Storing
import NodeTrial.Proofs.Run.Race
import NodeTrial.Proofs.Contract.Address
import NodeTrial.Proofs.Contract.Value
import NodeTrial.Proofs.Text.Replacement
import NodeTrial.Proofs.Capture
import NodeTrial.Proofs.Contract.FirstObject
import NodeTrial.Proofs.Contract.Cut
import NodeTrial.Proofs.Dialogue.Joint
import NodeTrial.Proofs.Node.Commons
import NodeTrial.Proofs.Node.Custody
import NodeTrial.Proofs.Node.Contended
import NodeTrial.Proofs.Json.Braces
import NodeTrial.Proofs.Contract.Surrounded
import NodeTrial.Proofs.Ledger.Calls
import NodeTrial.Proofs.Number.Quantity
import NodeTrial.Proofs.Polling
import NodeTrial.Proofs.Run.Production
import NodeTrial.Proofs.Polling.Budget
import NodeTrial.Proofs.FileTree.Ways
import NodeTrial.Proofs.Path
import NodeTrial.Proofs.Report.Breakdown
import NodeTrial.Proofs.Report.Replacing
import NodeTrial.Proofs.Report.Leftover
import NodeTrial.Proofs.Text.FirstLines
import NodeTrial.Proofs.Text.Stretches
import NodeTrial.Proofs.Report.LineEnds
import NodeTrial.Proofs.Pattern.Places
import NodeTrial.Proofs.Pattern.Matching
import NodeTrial.Proofs.Pattern.Case
import NodeTrial.Proofs.Pattern.Language
import NodeTrial.Proofs.Run.Limitation
