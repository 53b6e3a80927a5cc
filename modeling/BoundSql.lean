import BoundSql.Calendar.Date
import BoundSql.Calendar.Pattern
import BoundSql.Calendar.Timestamp
import BoundSql.Condition.Basic
import BoundSql.Condition.Compile
import BoundSql.Condition.Filtered
import BoundSql.Decimal.Binary
import BoundSql.Decimal.Layout
import BoundSql.Decimal.Shortest
import BoundSql.Dialect.Backend
import BoundSql.Dialect.Basic
import BoundSql.Dialect.Literal
import BoundSql.Dialect.Preset
import BoundSql.Fragment.Basic
import BoundSql.Fragment.Marked
import BoundSql.Fragment.Placeholder
import BoundSql.Json.Document
import BoundSql.Json.Numeral
import BoundSql.Json.Printer
import BoundSql.Json.Reader
import BoundSql.Json.Tagged
import BoundSql.Keyed
import BoundSql.Proofs.Condition.Inlined
import BoundSql.Proofs.Condition.Terms
import BoundSql.Proofs.Fragment.Concatenation
import BoundSql.Proofs.Fragment.Inlined
import BoundSql.Proofs.Fragment.Positions
import BoundSql.Proofs.Fragment.Slices
import BoundSql.Proofs.Fragment.Template
import BoundSql.Proofs.Statement.Inlined
import BoundSql.Proofs.Statement.Raws
import BoundSql.Proofs.Statement.Reachable
import BoundSql.Row
import BoundSql.Schema.Change
import BoundSql.Schema.Column
import BoundSql.Schema.ColumnType
import BoundSql.Schema.Statement
import BoundSql.Statement.Assignments
import BoundSql.Statement.Basic
import BoundSql.Statement.Delete
import BoundSql.Statement.Insert
import BoundSql.Statement.Select
import BoundSql.Statement.SelectClauses
import BoundSql.Statement.Table
import BoundSql.Statement.Update
import BoundSql.Text.Blank
import BoundSql.Text.Digits
import BoundSql.Text.Hex
import BoundSql.Text.Quoted
import BoundSql.Uuid
import BoundSql.Value.Basic
import BoundSql.Value.Conversion
import BoundSql.Proofs.Condition.MapValues
import BoundSql.Proofs.Statement.MapValues
import BoundSql.Proofs.Condition.Normal
import BoundSql.Proofs.Condition.Plain
import BoundSql.Proofs.Condition.Tail
import BoundSql.Proofs.Condition.Readable
import BoundSql.Proofs.Condition.Calls
import BoundSql.Proofs.Statement.SelectCalls
import BoundSql.Proofs.Statement.Calls
import BoundSql.Proofs.Statement.Dialects
import BoundSql.Proofs.Fragment.Scan
import BoundSql.Proofs.Fragment.Quiet
import BoundSql.Proofs.Condition.Quiet
import BoundSql.Proofs.Statement.Scan
import BoundSql.Proofs.Text.Quoted
import BoundSql.Proofs.Decimal.Numerals
import BoundSql.Proofs.Dialect.Lexemes
import BoundSql.Proofs.Dialect.Literal
import BoundSql.Proofs.Schema.Lexemes
import BoundSql.Proofs.Schema.Quoted
import BoundSql.Proofs.Schema.ForeignKeys
import BoundSql.Proofs.Fragment.Escaped
import BoundSql.Proofs.Fragment.Parts
import BoundSql.Proofs.Dialect.Quotes
import BoundSql.Proofs.Condition.Runs
import BoundSql.Proofs.Fragment.Numbered
import BoundSql.Proofs.Condition.Leaves
import BoundSql.Proofs.Statement.Keywords
import BoundSql.Proofs.Statement.SameCondition
import BoundSql.Proofs.Fragment.Joins
import BoundSql.Proofs.Condition.Places
import BoundSql.Proofs.Fragment.RenderedPart
import BoundSql.Proofs.Statement.RenderedFirst
import BoundSql.Proofs.Row
import BoundSql.Proofs.Calendar.DayCount
import BoundSql.Proofs.Calendar.DayNumber
import BoundSql.Proofs.Text.Digits
import BoundSql.Proofs.Calendar.Reader
import BoundSql.Proofs.Calendar.Carry
import BoundSql.Proofs.Calendar.Written
import BoundSql.Proofs.Dialect.Instants
import BoundSql.Proofs.Text.Hex
import BoundSql.Proofs.Schema.Binary
import BoundSql.Proofs.Fragment.Cuts
