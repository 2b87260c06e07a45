import Forwarder.Accessor
import Forwarder.Analysis
import Forwarder.Analysis.Json
import Forwarder.Analysis.Lines
import Forwarder.Analysis.Signature
import Forwarder.Cancellation
import Forwarder.Cancellation.Clones
import Forwarder.Command.Emission
import Forwarder.Command.Fault
import Forwarder.Command.Run
import Forwarder.Command.Storage
import Forwarder.CommandLine
import Forwarder.Decimal.Shortest
import Forwarder.Declaration
import Forwarder.Decorator
import Forwarder.Decorator.Derivation
import Forwarder.Decorator.Json
import Forwarder.Diagnostic
import Forwarder.Diagnostic.MessageFormat
import Forwarder.Digest
import Forwarder.Digest.Compression
import Forwarder.Failure
import Forwarder.Files
import Forwarder.Files.Disk
import Forwarder.Files.Path
import Forwarder.Hook
import Forwarder.Inspection
import Forwarder.Json.Basic
import Forwarder.Json.Decode
import Forwarder.Json.Document
import Forwarder.Json.Number
import Forwarder.Json.Reader
import Forwarder.Json.StringLiteral
import Forwarder.Json.Writer
import Forwarder.Main
import Forwarder.PassingMode
import Forwarder.Report.Format
import Forwarder.Report.Style
import Forwarder.Report.Tree
import Forwarder.Scopes
import Forwarder.Session
import Forwarder.Session.Json
import Forwarder.Session.Report
import Forwarder.Session.Tally
import Forwarder.Settings
import Forwarder.Settings.Json
import Forwarder.Settings.Toml
import Forwarder.Snapshot
import Forwarder.Snapshot.Json
import Forwarder.Source
import Forwarder.Source.Generation
import Forwarder.Target
import Forwarder.TargetMap
import Forwarder.Template
import Forwarder.Template.Parse
import Forwarder.Text.Alphabetic
import Forwarder.Text.CodeRange
import Forwarder.Text.GlobalAlias
import Forwarder.Text.Identifier
import Forwarder.Text.Lines
import Forwarder.Text.Numeric
import Forwarder.Toml
import Forwarder.TypeExpr
import Forwarder.TypeExpr.Framework
import Forwarder.TypeExpr.Json
import Forwarder.TypeExpr.Printer
import Forwarder.TypeExpr.Substitution
import Forwarder.Proofs.Text.Identifier
import Forwarder.Proofs.Accessor
import Forwarder.Proofs.Derivation
import Forwarder.Proofs.Analysis.Diagnosis
import Forwarder.Proofs.Analysis.Members
import Forwarder.Proofs.Analysis.Requirements
import Forwarder.Proofs.Rendering
import Forwarder.Proofs.Source.Lines
import Forwarder.Proofs.TargetMap
import Forwarder.Proofs.Session.Examination
import Forwarder.Proofs.Session.Commitment
import Forwarder.Proofs.Session.Coherence
import Forwarder.Proofs.Session.Budget
import Forwarder.Proofs.Session.EventLog
import Forwarder.Proofs.Session.Rebuild
import Forwarder.Proofs.Session.Accounting
import Forwarder.Proofs.Files.Path
import Forwarder.Proofs.Session.Isolation
import Forwarder.Proofs.Session.UnitNames
import Forwarder.Proofs.Snapshot.Agreement
import Forwarder.Proofs.Session.DeclarationOrder
import Forwarder.Proofs.Files.Disk
import Forwarder.Proofs.Command.Storage
import Forwarder.Proofs.Command.UnitFiles
import Forwarder.Proofs.Command.Emission
import Forwarder.Proofs.Command.Confinement
import Forwarder.Proofs.Json.Text
import Forwarder.Proofs.Json.Decode
import Forwarder.Proofs.Snapshot.RoundTrip
import Forwarder.Proofs.RoundTrip
import Forwarder.Proofs.Json.Variation
import Forwarder.Proofs.Snapshot.Spelling
import Forwarder.Proofs.Session.Failures
import Forwarder.Proofs.Accessor.Policy
import Forwarder.Proofs.Analysis.Renames
import Forwarder.Proofs.Analysis.HookSignatures
import Forwarder.Proofs.TypeExpr.ArrayText
import Forwarder.Proofs.TypeExpr.Mentions
import Forwarder.Proofs.Snapshot.Construction
import Forwarder.Proofs.Session.Repetition
import Forwarder.Proofs.Snapshot.ParameterNames
import Forwarder.Proofs.Snapshot.Capture
import Forwarder.Proofs.Scopes
import Forwarder.Proofs.Analysis.ReportOrder
import Forwarder.Proofs.Session.Changes
import Forwarder.Proofs.Cancellation.Clones
import Forwarder.Proofs.Analysis.HookParameters
import Forwarder.Proofs.TypeExpr.DisplayPattern
import Forwarder.Proofs.Snapshot.Routing
import Forwarder.Proofs.Text.WordRuns
import Forwarder.Proofs.Diagnostic.FormatPieces
