import SplitTest.Assignments
import SplitTest.Audit
import SplitTest.Calendar.Date
import SplitTest.Calendar.DateTime
import SplitTest.Calendar.DayParts
import SplitTest.Calendar.Iso
import SplitTest.Calendar.Lenient
import SplitTest.Calendar.Word
import SplitTest.Command
import SplitTest.Command.Argument
import SplitTest.Command.Options
import SplitTest.Dialect
import SplitTest.Environment
import SplitTest.Export
import SplitTest.Fault
import SplitTest.ForkJoin
import SplitTest.Impact
import SplitTest.Layout
import SplitTest.Layout.Blank
import SplitTest.Layout.Construct
import SplitTest.Layout.Join
import SplitTest.Layout.Keyword
import SplitTest.Layout.Lexeme
import SplitTest.Layout.Lines
import SplitTest.Layout.Node
import SplitTest.Layout.Statement
import SplitTest.Layout.Token
import SplitTest.Log
import SplitTest.Log.Level
import SplitTest.Log.Record
import SplitTest.Log.Setup
import SplitTest.Log.Template
import SplitTest.Main
import SplitTest.Number.Decimal
import SplitTest.Number.Double
import SplitTest.Number.Numeral
import SplitTest.Number.Places
import SplitTest.Number.Shortest
import SplitTest.Proofs.Assignments
import SplitTest.Proofs.Audit
import SplitTest.Proofs.Calendar.Date
import SplitTest.Proofs.Calendar.Instant
import SplitTest.Proofs.Calendar.Reading
import SplitTest.Proofs.Calendar.Spelling
import SplitTest.Proofs.Calendar.Stamp
import SplitTest.Proofs.Calendar.Words
import SplitTest.Proofs.Dialect.Shift
import SplitTest.Proofs.Except
import SplitTest.Proofs.Export
import SplitTest.Proofs.ForkJoin.Invariant
import SplitTest.Proofs.ForkJoin.Law
import SplitTest.Proofs.ForkJoin.Outcome
import SplitTest.Proofs.ForkJoin.Run
import SplitTest.Proofs.ForkJoin.Schedule
import SplitTest.Proofs.ForkJoin.Trace
import SplitTest.Proofs.Impact
import SplitTest.Proofs.Json.Document
import SplitTest.Proofs.Json.Number
import SplitTest.Proofs.Json.Text
import SplitTest.Proofs.Log.Lines
import SplitTest.Proofs.Log.Setup
import SplitTest.Proofs.Log.Time
import SplitTest.Proofs.Number.FieldText
import SplitTest.Proofs.Number.Nearest
import SplitTest.Proofs.Number.Overflow
import SplitTest.Proofs.Number.Printed
import SplitTest.Proofs.Number.Rounded
import SplitTest.Proofs.Query.Accepted
import SplitTest.Proofs.Query.Bridging
import SplitTest.Proofs.Query.Caps
import SplitTest.Proofs.Query.Columns
import SplitTest.Proofs.Query.Composition
import SplitTest.Proofs.Query.Discovery
import SplitTest.Proofs.Query.Failure
import SplitTest.Proofs.Query.Fragments
import SplitTest.Proofs.Query.IdentifiesJoins
import SplitTest.Proofs.Query.Instants
import SplitTest.Proofs.Query.Matches
import SplitTest.Proofs.Query.Names
import SplitTest.Proofs.Query.Nesting
import SplitTest.Proofs.Query.Placeholders
import SplitTest.Proofs.Query.Qualified
import SplitTest.Proofs.Query.Readable
import SplitTest.Proofs.Query.Scope
import SplitTest.Proofs.Query.Shape
import SplitTest.Proofs.Query.Statement
import SplitTest.Proofs.Query.Varies
import SplitTest.Proofs.Query.WellScoped
import SplitTest.Proofs.Query.WindowJoin
import SplitTest.Proofs.Query.Windows
import SplitTest.Proofs.Query.Woven
import SplitTest.Proofs.Regex.Matching
import SplitTest.Proofs.Regex.Reading
import SplitTest.Proofs.Report
import SplitTest.Proofs.Results.Cells
import SplitTest.Proofs.Results.Counts
import SplitTest.Proofs.Results.DecimalCells
import SplitTest.Proofs.Results.Discovered
import SplitTest.Proofs.Results.Meeting
import SplitTest.Proofs.Results.Merged
import SplitTest.Proofs.Results.NumberCells
import SplitTest.Proofs.Results.PastRows
import SplitTest.Proofs.Results.Records
import SplitTest.Proofs.Results.RowOrder
import SplitTest.Proofs.Results.Series
import SplitTest.Proofs.Results.TextRows
import SplitTest.Proofs.Results.Times
import SplitTest.Proofs.Results.VariationFormats
import SplitTest.Proofs.Schema.Checked
import SplitTest.Proofs.Schema.Minimal
import SplitTest.Proofs.Schema.VariationKeys
import SplitTest.Proofs.Session.Batch
import SplitTest.Proofs.Session.Estimate
import SplitTest.Proofs.Session.Law
import SplitTest.Proofs.Session.Overrides
import SplitTest.Proofs.Settings.EmptyNames
import SplitTest.Proofs.Settings.Fields
import SplitTest.Proofs.Settings.Resolve
import SplitTest.Proofs.Sql.Lexemes
import SplitTest.Proofs.Sql.Literal
import SplitTest.Proofs.Sql.Mentions
import SplitTest.Proofs.Sql.Nesting
import SplitTest.Proofs.Sql.Occurrences
import SplitTest.Proofs.Sql.PlainTexts
import SplitTest.Proofs.Sql.Readable
import SplitTest.Proofs.Sql.Scan
import SplitTest.Proofs.Sql.Statement
import SplitTest.Proofs.Sql.Tokens
import SplitTest.Proofs.Sql.Varies
import SplitTest.Proofs.Sql.Woven
import SplitTest.Proofs.Text.Digits
import SplitTest.Proofs.Text.Runs
import SplitTest.Proofs.Warehouse.Execution
import SplitTest.Proofs.Warehouse.Insertion
import SplitTest.Proofs.Warehouse.Life
import SplitTest.Proofs.Warehouse.Session
import SplitTest.Query.Basic
import SplitTest.Query.Discovery
import SplitTest.Query.Experiment
import SplitTest.Query.Exploration
import SplitTest.Query.Identity
import SplitTest.Query.Metric
import SplitTest.Query.Override
import SplitTest.Report
import SplitTest.Results.Cell
import SplitTest.Results.Merge
import SplitTest.Results.Rows
import SplitTest.Schema.AnalysisConfig
import SplitTest.Schema.Checked
import SplitTest.Schema.Experiment
import SplitTest.Schema.Issue
import SplitTest.Schema.Metric
import SplitTest.Schema.Params
import SplitTest.Session
import SplitTest.Session.Order
import SplitTest.SourceSettings
import SplitTest.Sql
import SplitTest.Text.Blank
import SplitTest.Text.Case
import SplitTest.Text.Digit
import SplitTest.Text.Printable
import SplitTest.Text.Quoted
import SplitTest.Text.Replace
import SplitTest.Text.Word
import SplitTest.Value
import SplitTest.Value.Json
import SplitTest.Warehouse.Answer
import SplitTest.Warehouse.Cell
import SplitTest.Warehouse.Location
import SplitTest.Warehouse.Runner
import SplitTest.Warehouse.Tables
