import SchemaBootstrap.Bootstrap.Apply
import SchemaBootstrap.Bootstrap.Bootstrapper
import SchemaBootstrap.Bootstrap.Plan
import SchemaBootstrap.Bootstrap.Presence
import SchemaBootstrap.Bootstrap.Readiness
import SchemaBootstrap.Bootstrap.Verify
import SchemaBootstrap.Bson.Extended
import SchemaBootstrap.Bson.Json
import SchemaBootstrap.Bson.Moment
import SchemaBootstrap.Bson.Path
import SchemaBootstrap.Bson.Reading
import SchemaBootstrap.Bson.Scalar
import SchemaBootstrap.Bson.Text
import SchemaBootstrap.Bson.Uuid
import SchemaBootstrap.Bson.Value
import SchemaBootstrap.CommandLine.Arguments
import SchemaBootstrap.CommandLine.Commands
import SchemaBootstrap.CommandLine.Failure
import SchemaBootstrap.CommandLine.Notice
import SchemaBootstrap.CommandLine.Output
import SchemaBootstrap.CommandLine.Redaction
import SchemaBootstrap.CommandLine.Run
import SchemaBootstrap.CommandLine.Usage
import SchemaBootstrap.Config.Environment
import SchemaBootstrap.Config.FileTree
import SchemaBootstrap.Config.Layer
import SchemaBootstrap.Config.Loading
import SchemaBootstrap.Config.Logging
import SchemaBootstrap.Config.Origin
import SchemaBootstrap.Config.ProjectFile
import SchemaBootstrap.Config.Reading
import SchemaBootstrap.Config.Settings
import SchemaBootstrap.Config.Validation
import SchemaBootstrap.Decimal.Double
import SchemaBootstrap.Decimal.Power
import SchemaBootstrap.Decimal.Reading
import SchemaBootstrap.Decimal.Shortest
import SchemaBootstrap.Decimal.Spelling
import SchemaBootstrap.Decoding.Fault
import SchemaBootstrap.Decoding.Fields
import SchemaBootstrap.Json.Decoding
import SchemaBootstrap.Json.Number
import SchemaBootstrap.Json.Reading
import SchemaBootstrap.Json.Text
import SchemaBootstrap.Json.Value
import SchemaBootstrap.Main
import SchemaBootstrap.Proofs.Bootstrap.ApplyRun
import SchemaBootstrap.Proofs.Bootstrap.CallOrder
import SchemaBootstrap.Proofs.Bootstrap.Comparison
import SchemaBootstrap.Proofs.Bootstrap.ConcurrentRuns
import SchemaBootstrap.Proofs.Bootstrap.Convergence
import SchemaBootstrap.Proofs.Bootstrap.DeclaredStore
import SchemaBootstrap.Proofs.Bootstrap.DryRun
import SchemaBootstrap.Proofs.Bootstrap.Effect
import SchemaBootstrap.Proofs.Bootstrap.Inspection
import SchemaBootstrap.Proofs.Bootstrap.Refusal
import SchemaBootstrap.Proofs.Bootstrap.Report
import SchemaBootstrap.Proofs.Bootstrap.Underway
import SchemaBootstrap.Proofs.Bson.Sameness
import SchemaBootstrap.Proofs.Config.AcceptedSettings
import SchemaBootstrap.Proofs.Record.Nodes
import SchemaBootstrap.Proofs.Schema.IndexKeys
import SchemaBootstrap.Proofs.Schema.Validity
import SchemaBootstrap.Proofs.Store.BuildOrder
import SchemaBootstrap.Proofs.Store.Contents
import SchemaBootstrap.Proofs.Store.CreationOutcome
import SchemaBootstrap.Proofs.Store.Discipline
import SchemaBootstrap.Proofs.Store.Growth
import SchemaBootstrap.Proofs.Store.IndexCount
import SchemaBootstrap.Proofs.Store.IndexCreation
import SchemaBootstrap.Proofs.Store.IndexOrigin
import SchemaBootstrap.Proofs.Store.Interleaving
import SchemaBootstrap.Proofs.Store.KeySeparation
import SchemaBootstrap.Proofs.Store.ProgramRun
import SchemaBootstrap.Proofs.Store.Reachable
import SchemaBootstrap.Proofs.Store.Recreation
import SchemaBootstrap.Proofs.Store.Refusals
import SchemaBootstrap.Proofs.Store.UniqueKeys
import SchemaBootstrap.Record.Insert
import SchemaBootstrap.Record.Kinds
import SchemaBootstrap.Schema.Definition
import SchemaBootstrap.Schema.Index
import SchemaBootstrap.Schema.Json
import SchemaBootstrap.Server.Connection
import SchemaBootstrap.Server.Failure
import SchemaBootstrap.Server.IndexModel
import SchemaBootstrap.Server.Script
import SchemaBootstrap.Store.Basic
import SchemaBootstrap.Store.Catalog
import SchemaBootstrap.Store.Faults
import SchemaBootstrap.Store.Memory
import SchemaBootstrap.Store.Program
import SchemaBootstrap.Store.Unreachable
import SchemaBootstrap.Text.Base64
import SchemaBootstrap.Text.Blank
import SchemaBootstrap.Text.Case
import SchemaBootstrap.Text.CaseMapping
import SchemaBootstrap.Text.Columns
import SchemaBootstrap.Text.DisplayWidth
import SchemaBootstrap.Text.Order
import SchemaBootstrap.Text.Pieces
import SchemaBootstrap.Text.Quoted
import SchemaBootstrap.Text.Style
import SchemaBootstrap.Text.Unprintable
import SchemaBootstrap.Text.Width
import SchemaBootstrap.Yaml.Cursor
import SchemaBootstrap.Yaml.Node
import SchemaBootstrap.Yaml.Scalar
import SchemaBootstrap.Yaml.ScalarText
import SchemaBootstrap.Yaml.Token
import SchemaBootstrap.Proofs.CommandLine.OneDocument
import SchemaBootstrap.Proofs.Config.Trimming
import SchemaBootstrap.Proofs.Config.Merging
import SchemaBootstrap.Proofs.Config.TidyLayers
import SchemaBootstrap.Proofs.Config.LeafFaults
import SchemaBootstrap.Proofs.Config.Precedence
import SchemaBootstrap.Proofs.Bootstrap.ReadinessWait
import SchemaBootstrap.Proofs.CommandLine.StoreWait
import SchemaBootstrap.Proofs.Schema.FirstViolation
import SchemaBootstrap.Proofs.Bson.Resolution
import SchemaBootstrap.Proofs.Decoding.ReadFields
import SchemaBootstrap.Proofs.Record.IndexedFields
import SchemaBootstrap.Proofs.Record.RoundTrip
import SchemaBootstrap.Proofs.CommandLine.HiddenCredentials
import SchemaBootstrap.Proofs.Server.FailureReading
import SchemaBootstrap.Proofs.Config.NamedFile
import SchemaBootstrap.Proofs.Config.LogNames
import SchemaBootstrap.Proofs.Bson.DottedPaths
import SchemaBootstrap.Proofs.Schema.KeyDirections
import SchemaBootstrap.Proofs.Server.RetoldIndexes
import SchemaBootstrap.Proofs.Json.OmittedMembers
import SchemaBootstrap.Proofs.Json.WrittenForms
