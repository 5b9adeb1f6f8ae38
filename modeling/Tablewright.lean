import Tablewright.Arguments
import Tablewright.Calendar
import Tablewright.CommandLine.Reading
import Tablewright.CommandLine.Request
import Tablewright.CommandLine.Run
import Tablewright.CommandLine.Syntax
import Tablewright.CommandLine.Token
import Tablewright.Console.Layout
import Tablewright.Console.Markup
import Tablewright.Console.Print
import Tablewright.Definition.Column
import Tablewright.Definition.Hooks
import Tablewright.Definition.Model
import Tablewright.Definition.Parts
import Tablewright.Definition.Record
import Tablewright.Definition.Relationship
import Tablewright.Fault
import Tablewright.Files
import Tablewright.Hook.Run
import Tablewright.Identifier
import Tablewright.Main
import Tablewright.ModelFile
import Tablewright.Named
import Tablewright.Number.Binary
import Tablewright.Number.Decimal
import Tablewright.Number.Reading
import Tablewright.Number.Shortest
import Tablewright.Query.Call
import Tablewright.Query.Statement
import Tablewright.Query.Table
import Tablewright.Registry
import Tablewright.ResolvedModel
import Tablewright.Schema.Compile
import Tablewright.Schema.Index
import Tablewright.Schema.Literal
import Tablewright.Schema.Statement
import Tablewright.Schema.Storage
import Tablewright.Schema.Table
import Tablewright.Schema.Trigger
import Tablewright.Schema.View
import Tablewright.Schema.ViewFile
import Tablewright.Session.DatabaseOperation
import Tablewright.Session.Log
import Tablewright.Session.Options
import Tablewright.Session.RowOperation
import Tablewright.Session.Rows
import Tablewright.Session.Schema
import Tablewright.Session.World
import Tablewright.Text.Blank
import Tablewright.Text.CaseTable
import Tablewright.Text.Casing
import Tablewright.Text.Digit
import Tablewright.Text.Hex
import Tablewright.Text.Padded
import Tablewright.Text.Printable
import Tablewright.Text.Quoted
import Tablewright.Text.Ranges
import Tablewright.Text.Utf8
import Tablewright.Text.Width
import Tablewright.Text.Word
import Tablewright.Validation.Pattern
import Tablewright.Validation.Row
import Tablewright.Validation.Rule
import Tablewright.Value.Access
import Tablewright.Value.Basic
import Tablewright.Value.Equality
import Tablewright.Value.Json
import Tablewright.Value.Json.Reader
import Tablewright.Value.Json.Token
import Tablewright.Value.Membership
import Tablewright.Value.Numeric
import Tablewright.Value.Shape
import Tablewright.Value.Storable
import Tablewright.Value.Text
import Tablewright.Proofs.Fallible
import Tablewright.Proofs.Named
import Tablewright.Proofs.Number.Text
import Tablewright.Proofs.Number.Rounding
import Tablewright.Proofs.Number.Shortest
import Tablewright.Proofs.Registry.Arrange
import Tablewright.Proofs.Registry.CreationOrder
import Tablewright.Proofs.Registry.Stability
import Tablewright.Proofs.Registry.Registered
import Tablewright.Proofs.Registry.Graph
import Tablewright.Proofs.Identifier
import Tablewright.Proofs.ResolvedModel
import Tablewright.Proofs.Session.Schema
import Tablewright.Proofs.Schema.ForeignKey
import Tablewright.Proofs.Schema.Statement
import Tablewright.Proofs.Schema.Table
import Tablewright.Proofs.Session.SchemaText
import Tablewright.Proofs.Session.Stages
import Tablewright.Proofs.ModelFile
import Tablewright.Proofs.CommandLine.Apply
import Tablewright.Proofs.Query.Layout
import Tablewright.Proofs.Query.Places
import Tablewright.Proofs.Query.Table
import Tablewright.Proofs.Query.Request
import Tablewright.Proofs.Query.Parameters
import Tablewright.Proofs.Query.Refusal
import Tablewright.Proofs.Query.Columns
import Tablewright.Proofs.Query.Outline
import Tablewright.Proofs.Query.Grammar
import Tablewright.Proofs.Session.Parts
import Tablewright.Proofs.Session.Emission
import Tablewright.Proofs.Session.Rows
import Tablewright.Proofs.Session.Reachable
import Tablewright.Proofs.Session.Sync
import Tablewright.Proofs.Hook.Run
import Tablewright.Proofs.Session.Engine
import Tablewright.Proofs.Session.Logged
import Tablewright.Proofs.Session.Logging
import Tablewright.Proofs.Session.Reads
import Tablewright.Proofs.DeclaredColumns
import Tablewright.Proofs.BareNames
import Tablewright.Proofs.Schema.PrimaryKey
import Tablewright.Proofs.Schema.IndexName
import Tablewright.Proofs.Schema.Naming
import Tablewright.Proofs.Schema.ReferentialAction
import Tablewright.Proofs.Schema.Trigger
import Tablewright.Proofs.Text.Ending
import Tablewright.Proofs.Text.Hex
import Tablewright.Proofs.Text.Lines
import Tablewright.Proofs.Schema.ViewQuery
import Tablewright.Proofs.Schema.ViewFile
import Tablewright.Proofs.Text.Surrogate
import Tablewright.Proofs.Schema.Literal
import Tablewright.Proofs.Value.Storable
import Tablewright.Proofs.Schema.LiteralKind
import Tablewright.Proofs.Value.Json
import Tablewright.Proofs.Value.Json.Closed
import Tablewright.Proofs.Value.Nested
import Tablewright.Proofs.Value.SetOrder
import Tablewright.Proofs.Hook.Runner
import Tablewright.Proofs.Schema.TriggerBody
import Tablewright.Proofs.Catalog
import Tablewright.Proofs.Catalog.Kept
import Tablewright.Proofs.Validation.Row
import Tablewright.Proofs.Validation.Independence
import Tablewright.Proofs.Validation.Measure
import Tablewright.Proofs.Validation.Bounds
import Tablewright.Proofs.Validation.Pattern
import Tablewright.Proofs.Session.Validated
import Tablewright.Proofs.Session.Columns
import Tablewright.Proofs.Session.Rejected
import Tablewright.Proofs.Session.Relationships
import Tablewright.Proofs.Session.Writes
import Tablewright.Proofs.Session.Conditions
import Tablewright.Proofs.Session.Versions
import Tablewright.Proofs.Session.Recreated
import Tablewright.Proofs.Session.Lookups
import Tablewright.Proofs.Session.Isolation
import Tablewright.Proofs.Session.SingleWrite
import Tablewright.Proofs.Session.NamedRows
import Tablewright.Proofs.Session.Overwritten
import Tablewright.Proofs.Session.Revision
import Tablewright.Proofs.Session.Inserted
import Tablewright.Proofs.Session.Returned
import Tablewright.Proofs.Text.Order
import Tablewright.Proofs.Calendar
import Tablewright.Proofs.Definition.Built
import Tablewright.Proofs.Definition.Draft
import Tablewright.Proofs.Definition.Spelling
