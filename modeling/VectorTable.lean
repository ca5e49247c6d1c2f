import VectorTable.CommandLine.Command
import VectorTable.CommandLine.Run
import VectorTable.CommandLine.Usage
import VectorTable.CommandLine.Words
import VectorTable.Database
import VectorTable.Decimal.Double
import VectorTable.Decimal.Layout
import VectorTable.Decimal.Reader
import VectorTable.Decimal.Rounded
import VectorTable.Decimal.Shortest
import VectorTable.Distance
import VectorTable.Failure
import VectorTable.Fault
import VectorTable.Filter.Basic
import VectorTable.Filter.Display
import VectorTable.Filter.Predicate
import VectorTable.Json.Reader
import VectorTable.Json.Writer
import VectorTable.Log.Entry
import VectorTable.Log.Render
import VectorTable.Log.Setup
import VectorTable.Main
import VectorTable.Metric.Collector
import VectorTable.Metric.Measurement
import VectorTable.Metric.Sample
import VectorTable.Program.Basic
import VectorTable.Program.Block
import VectorTable.Program.Event
import VectorTable.Proofs.CommandLine.ColumnOption
import VectorTable.Proofs.CommandLine.Exit
import VectorTable.Proofs.CommandLine.Manage
import VectorTable.Proofs.CommandLine.Orders
import VectorTable.Proofs.CommandLine.Session
import VectorTable.Proofs.Database.Inner
import VectorTable.Proofs.Database.Pools
import VectorTable.Proofs.Decimal.Layout
import VectorTable.Proofs.Decimal.Numeral
import VectorTable.Proofs.Decimal.Range
import VectorTable.Proofs.Decimal.Shortest
import VectorTable.Proofs.Decimal.Whole
import VectorTable.Proofs.Failure.Local
import VectorTable.Proofs.Failure.Misfit
import VectorTable.Proofs.Filter.Chains
import VectorTable.Proofs.Filter.Composition
import VectorTable.Proofs.Filter.Precedence
import VectorTable.Proofs.Filter.Rejection
import VectorTable.Proofs.Filter.Renumbering
import VectorTable.Proofs.Filter.Selection
import VectorTable.Proofs.Filter.Tokens
import VectorTable.Proofs.Filter.Translator
import VectorTable.Proofs.Json.Grammar
import VectorTable.Proofs.Json.Number
import VectorTable.Proofs.Json.Writer
import VectorTable.Proofs.Log.Object
import VectorTable.Proofs.Log.Production
import VectorTable.Proofs.Log.Reports
import VectorTable.Proofs.Metric.Measurements
import VectorTable.Proofs.Metric.Totals
import VectorTable.Proofs.Program.Block
import VectorTable.Proofs.Program.Bracket
import VectorTable.Proofs.Program.Erasure
import VectorTable.Proofs.Program.InFlight
import VectorTable.Proofs.Program.Ledger
import VectorTable.Proofs.Program.Path
import VectorTable.Proofs.Program.Together
import VectorTable.Proofs.Program.Work
import VectorTable.Proofs.Record.Alignment
import VectorTable.Proofs.Record.JsonSlot
import VectorTable.Proofs.Record.RoundTrip
import VectorTable.Proofs.Schema.Columns
import VectorTable.Proofs.Schema.Created
import VectorTable.Proofs.Schema.Discovery
import VectorTable.Proofs.Schema.Naming
import VectorTable.Proofs.Schema.Resolved
import VectorTable.Proofs.Search.Columns
import VectorTable.Proofs.Search.Ranking
import VectorTable.Proofs.Search.Tuning
import VectorTable.Proofs.Setting.EnvFile
import VectorTable.Proofs.Setting.Fields
import VectorTable.Proofs.Sql.CreatedTable
import VectorTable.Proofs.Sql.Expression
import VectorTable.Proofs.Sql.Items
import VectorTable.Proofs.Sql.Lexing
import VectorTable.Proofs.Sql.Parsing
import VectorTable.Proofs.Sql.SelectList
import VectorTable.Proofs.Sql.Text
import VectorTable.Proofs.Sql.Token
import VectorTable.Proofs.Statement.Columns
import VectorTable.Proofs.Statement.Molds
import VectorTable.Proofs.Statement.Shape
import VectorTable.Proofs.Statement.Slots
import VectorTable.Proofs.Statement.Tokens
import VectorTable.Proofs.Store.Accounting
import VectorTable.Proofs.Store.Completion
import VectorTable.Proofs.Store.Concurrency
import VectorTable.Proofs.Store.Conduct
import VectorTable.Proofs.Store.Course
import VectorTable.Proofs.Store.Handling
import VectorTable.Proofs.Store.Insert
import VectorTable.Proofs.Store.Opened
import VectorTable.Proofs.Store.Operation
import VectorTable.Proofs.Store.Outcome
import VectorTable.Proofs.Store.Received
import VectorTable.Proofs.Store.Refusal
import VectorTable.Proofs.Store.TimeLimit
import VectorTable.Proofs.Store.Traced
import VectorTable.Proofs.Trace.Span
import VectorTable.Proofs.Value.Entries
import VectorTable.Proofs.Vector.RoundTrip
import VectorTable.Proofs.Vector.Text
import VectorTable.Query
import VectorTable.Record
import VectorTable.Schema.Basic
import VectorTable.Schema.Create
import VectorTable.Schema.Resolve
import VectorTable.SearchRequest
import VectorTable.Server.Script
import VectorTable.Setting.Complaint
import VectorTable.Setting.EnvFile
import VectorTable.Setting.General
import VectorTable.Setting.HostAddress
import VectorTable.Setting.Reading
import VectorTable.Setting.Source
import VectorTable.Setting.Store
import VectorTable.Setting.Url
import VectorTable.Sql.Piece
import VectorTable.Store.Basic
import VectorTable.Store.Create
import VectorTable.Store.Index
import VectorTable.Store.Match
import VectorTable.Store.Read
import VectorTable.Store.Write
import VectorTable.TableSetup
import VectorTable.Text.Blank
import VectorTable.Text.Case
import VectorTable.Text.Digit
import VectorTable.Text.Escape
import VectorTable.Text.Hex
import VectorTable.Text.Printable
import VectorTable.Text.Quoted
import VectorTable.Text.Similarity
import VectorTable.Text.Utf8
import VectorTable.Trace.Setup
import VectorTable.Trace.Span
import VectorTable.Tuning
import VectorTable.Value.Basic
import VectorTable.Value.Display
import VectorTable.Value.Entries
import VectorTable.Value.Equality
import VectorTable.Value.Number
import VectorTable.Value.Reading
import VectorTable.Value.Slot
import VectorTable.Value.Template
import VectorTable.VectorIndex
import VectorTable.VectorText
