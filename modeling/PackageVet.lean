import PackageVet.Analysis
import PackageVet.Arena
import PackageVet.Behavior
import PackageVet.Behavior.Indexed
import PackageVet.Build.Assignment
import PackageVet.Build.Inlining
import PackageVet.Build.Invocation
import PackageVet.Build.Link
import PackageVet.Build.State
import PackageVet.Build.Walk
import PackageVet.Category
import PackageVet.CodeGraph
import PackageVet.CodeUnit
import PackageVet.CodeUnit.Indexed
import PackageVet.CommandLine.Arguments
import PackageVet.CommandLine.Command
import PackageVet.CommandLine.Output
import PackageVet.CommandLine.Run
import PackageVet.Config
import PackageVet.Dot.Graph
import PackageVet.Dot.Places
import PackageVet.Dot.Reader
import PackageVet.Dot.Token
import PackageVet.Duration
import PackageVet.Edges
import PackageVet.Error
import PackageVet.FileTree
import PackageVet.JavaScript.Expression
import PackageVet.JavaScript.Function
import PackageVet.JavaScript.Module
import PackageVet.JavaScript.Parser
import PackageVet.JavaScript.Pattern
import PackageVet.JavaScript.Shape
import PackageVet.JavaScript.Source
import PackageVet.JavaScript.Statement
import PackageVet.JavaScript.Token
import PackageVet.JavaScript.Tree
import PackageVet.Json.Decode
import PackageVet.Json.Printer
import PackageVet.Json.Reader
import PackageVet.Json.Value
import PackageVet.Knowledge.Overlay
import PackageVet.Knowledge.Registry
import PackageVet.Knowledge.Standard
import PackageVet.Knowledge.Tables
import PackageVet.Main
import PackageVet.Manifest
import PackageVet.Matching
import PackageVet.Path
import PackageVet.Pattern
import PackageVet.Pattern.Format
import PackageVet.Pattern.Library
import PackageVet.Proofs.Walk
import PackageVet.Reduced.Extract
import PackageVet.Reduced.Graph
import PackageVet.Reduced.Split
import PackageVet.Refine
import PackageVet.Report
import PackageVet.Scope
import PackageVet.Scope.Resolver
import PackageVet.Script
import PackageVet.Service.Chat
import PackageVet.Service.ContainerProbe
import PackageVet.Service.Error
import PackageVet.Service.Oracle
import PackageVet.Service.Probe
import PackageVet.Service.Rehearsal
import PackageVet.Service.Retry
import PackageVet.Service.Web
import PackageVet.Session
import PackageVet.Sorted
import PackageVet.Sources
import PackageVet.Status
import PackageVet.Table
import PackageVet.Text.Alphanumeric
import PackageVet.Text.Blank
import PackageVet.Text.Cut
import PackageVet.Text.Decimal
import PackageVet.Text.Double
import PackageVet.Text.Identifier
import PackageVet.Text.Printable
import PackageVet.Text.Quoted
import PackageVet.Text.Range
import PackageVet.Text.Word
import PackageVet.Toml.Decode
import PackageVet.Toml.Reader
import PackageVet.Toml.Scalar
import PackageVet.Toml.Value
import PackageVet.Proofs.Reduced.Search
import PackageVet.Proofs.Reduced.Graph
import PackageVet.Proofs.Reduced.Exact
import PackageVet.Proofs.Matching.Reach
import PackageVet.Proofs.Reduced.Split
import PackageVet.Proofs.Matching.Matches
import PackageVet.Proofs.Matching.Occurrence
import PackageVet.Proofs.Matching.Subsumption
import PackageVet.Proofs.Matching.Findings
import PackageVet.Proofs.Build.Graph
import PackageVet.Proofs.Build.Package
import PackageVet.Proofs.Build.Moments
import PackageVet.Proofs.Build.Coverage
import PackageVet.Proofs.Build.Sample
import PackageVet.Proofs.Build.Inlining
import PackageVet.Proofs.Build.Likeness
import PackageVet.Proofs.Build.Simulation
import PackageVet.Proofs.Build.Rebuild
import PackageVet.Proofs.Build.Accord
import PackageVet.Proofs.Build.Lone
import PackageVet.Proofs.Build.Termination
import PackageVet.Proofs.Session.Turns
import PackageVet.Proofs.Knowledge.Sharing
import PackageVet.Proofs.Matching.Steady
import PackageVet.Proofs.Session.Batch
import PackageVet.Proofs.Build.Restored
import PackageVet.Proofs.FileTree
import PackageVet.Proofs.Session.Steps
import PackageVet.Proofs.Session.Verdict
import PackageVet.Proofs.Session.Ids
import PackageVet.Proofs.Dot.Document
import PackageVet.Proofs.Dot.Scanning
import PackageVet.Proofs.Dot.RoundTrip
import PackageVet.Proofs.Behavior
import PackageVet.Proofs.Matching.Order
import PackageVet.Proofs.Matching.Loops
import PackageVet.Proofs.Reduced.Chains
import PackageVet.Proofs.Reduced.Elided
import PackageVet.Proofs.Reduced.Refinement
import PackageVet.Proofs.Behavior.Indexed
import PackageVet.Proofs.Behavior.Join
import PackageVet.Proofs.Behavior.Pull
import PackageVet.Proofs.Build.Returns
import PackageVet.Proofs.Scope
import PackageVet.Proofs.Build.Alias
import PackageVet.Proofs.Build.Underway
import PackageVet.Proofs.Build.OwnReturns
import PackageVet.Proofs.Build.Guard
import PackageVet.Proofs.CodeGraph
import PackageVet.Proofs.CodeUnit
import PackageVet.Proofs.CodeUnit.Indexed
import PackageVet.Proofs.Refine
import PackageVet.Proofs.Path
import PackageVet.Proofs.JavaScript.Places
import PackageVet.Proofs.Script
import PackageVet.Proofs.Session.Scripts
import PackageVet.Proofs.Service.Retry
import PackageVet.Proofs.Knowledge.Registration
import PackageVet.Proofs.Dot.WellFormed
import PackageVet.Proofs.Dot.Places
import PackageVet.Proofs.Reduced.Backtracking
