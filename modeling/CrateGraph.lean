import CrateGraph.CommandLine.Arguments
import CrateGraph.CommandLine.Help
import CrateGraph.CommandLine.Report
import CrateGraph.CommandLine.Session
import CrateGraph.Config
import CrateGraph.Config.Consistency
import CrateGraph.Config.Load
import CrateGraph.Context
import CrateGraph.Decimal.Binary64
import CrateGraph.Decimal.Places
import CrateGraph.Decimal.Shortest
import CrateGraph.Decode
import CrateGraph.Edge
import CrateGraph.FileTree
import CrateGraph.Glob
import CrateGraph.Graph
import CrateGraph.Graph.Edges
import CrateGraph.Json.Number
import CrateGraph.Json.Printer
import CrateGraph.Json.Token
import CrateGraph.Json.Tree
import CrateGraph.Log
import CrateGraph.Machine
import CrateGraph.Machine.Snapshot
import CrateGraph.Machine.System
import CrateGraph.Main
import CrateGraph.Metadata
import CrateGraph.Metadata.Document
import CrateGraph.Metadata.Source
import CrateGraph.Node
import CrateGraph.Package
import CrateGraph.Path
import CrateGraph.Path.Relative
import CrateGraph.Platform
import CrateGraph.Policy
import CrateGraph.Policy.Triggers
import CrateGraph.Process.Bounded
import CrateGraph.Process.Clock
import CrateGraph.Process.Executable
import CrateGraph.Process.Execution
import CrateGraph.Process.Interleaving
import CrateGraph.Process.Program
import CrateGraph.Process.Run
import CrateGraph.Process.Spawn
import CrateGraph.Process.Task
import CrateGraph.Process.World
import CrateGraph.Proofs.CommandLine.Check
import CrateGraph.Proofs.CommandLine.Configuration
import CrateGraph.Proofs.Config.Absent
import CrateGraph.Proofs.Config.Acceptance
import CrateGraph.Proofs.Config.Consistency
import CrateGraph.Proofs.Config.FirstFault
import CrateGraph.Proofs.Config.Layers
import CrateGraph.Proofs.Decode
import CrateGraph.Proofs.Decode.Absent
import CrateGraph.Proofs.Decode.Documents
import CrateGraph.Proofs.Decode.ReadBack
import CrateGraph.Proofs.Decode.Rearranged
import CrateGraph.Proofs.FileTree
import CrateGraph.Proofs.First
import CrateGraph.Proofs.Glob
import CrateGraph.Proofs.Graph.Classification
import CrateGraph.Proofs.Graph.Declarations
import CrateGraph.Proofs.Graph.Dependencies
import CrateGraph.Proofs.Graph.Edges
import CrateGraph.Proofs.Graph.Endpoints
import CrateGraph.Proofs.Graph.Locations
import CrateGraph.Proofs.Graph.Names
import CrateGraph.Proofs.Graph.Nodes
import CrateGraph.Proofs.Graph.Order
import CrateGraph.Proofs.Graph.Rebuilt
import CrateGraph.Proofs.Graph.RemoteEdges
import CrateGraph.Proofs.Graph.Unseen
import CrateGraph.Proofs.Json.Number
import CrateGraph.Proofs.Json.Printed
import CrateGraph.Proofs.Json.Strings
import CrateGraph.Proofs.Json.Tree
import CrateGraph.Proofs.Metadata.Projection
import CrateGraph.Proofs.Metadata.Remote
import CrateGraph.Proofs.Metadata.Version
import CrateGraph.Proofs.Path.Components
import CrateGraph.Proofs.Path.NormalForm
import CrateGraph.Proofs.Path.Relative
import CrateGraph.Proofs.Path.Unreachable
import CrateGraph.Proofs.Policy.Patterns
import CrateGraph.Proofs.Policy.Triggers
import CrateGraph.Proofs.Process.Arithmetic
import CrateGraph.Proofs.Process.Bounded
import CrateGraph.Proofs.Process.Clock
import CrateGraph.Proofs.Process.Interleaving
import CrateGraph.Proofs.Process.Outcomes
import CrateGraph.Proofs.Resolver
import CrateGraph.Proofs.Resolver.Precedence
import CrateGraph.Proofs.Success
import CrateGraph.Proofs.Synchronizer.Calls
import CrateGraph.Proofs.Synchronizer.Missing
import CrateGraph.Proofs.Synchronizer.Operation
import CrateGraph.Proofs.Synchronizer.Replies
import CrateGraph.Proofs.Synchronizer.Report
import CrateGraph.Proofs.Synchronizer.Snapshot
import CrateGraph.Proofs.Table
import CrateGraph.Proofs.Text.Pieces
import CrateGraph.Proofs.Text.Utf8
import CrateGraph.Resolver
import CrateGraph.SemVer
import CrateGraph.Shell.Arithmetic
import CrateGraph.Shell.Builtin.Names
import CrateGraph.Shell.Builtin.Places
import CrateGraph.Shell.Builtin.Printing
import CrateGraph.Shell.Builtin.Signals
import CrateGraph.Shell.Builtin.Variables
import CrateGraph.Shell.Children
import CrateGraph.Shell.Command
import CrateGraph.Shell.Condition
import CrateGraph.Shell.Evaluation
import CrateGraph.Shell.Expansion
import CrateGraph.Shell.Fields
import CrateGraph.Shell.Format
import CrateGraph.Shell.Launch
import CrateGraph.Shell.Lookup
import CrateGraph.Shell.Numeral
import CrateGraph.Shell.Options
import CrateGraph.Shell.Pattern
import CrateGraph.Shell.Printed
import CrateGraph.Shell.Reader
import CrateGraph.Shell.Redirection
import CrateGraph.Shell.Script
import CrateGraph.Shell.Session
import CrateGraph.Shell.Simple
import CrateGraph.Shell.Start
import CrateGraph.Synchronizer
import CrateGraph.Table
import CrateGraph.Text.Alphanumeric
import CrateGraph.Text.Basic
import CrateGraph.Text.Quoted
import CrateGraph.Text.Raw
import CrateGraph.Text.Regex
import CrateGraph.Text.Shapeless
import CrateGraph.Text.Utf8
import CrateGraph.Toml.Moment
import CrateGraph.Toml.Quoted
import CrateGraph.Toml.Scalar
import CrateGraph.Toml.Section
import CrateGraph.Toml.Tree
import CrateGraph.Tool.Basic
import CrateGraph.Tool.Catalog
import CrateGraph.Tool.Characters
import CrateGraph.Tool.Copying
import CrateGraph.Tool.Files
import CrateGraph.Tool.Grep
import CrateGraph.Tool.Lines
import CrateGraph.Tool.Numbers
import CrateGraph.Tool.Options
import CrateGraph.Tool.Running
import CrateGraph.Tool.Sed
import CrateGraph.Tool.Xargs
import CrateGraph.Value
