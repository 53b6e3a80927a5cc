import BoundSql.Calendar.Pattern
import BoundSql.Fragment.Placeholder
import BoundSql.Schema.ColumnType
import BoundSql.Text.Quoted

/-!
# Dialects

A dialect is a record of the places in which databases differ. Everything else is written the
same way for all of them.
-/

namespace BoundSql

/-- How an insertion hands back the inserted row: by a clause of its own, or by a second statement
that selects the row with the last generated key. -/
inductive InsertReturning
  | returning
  | lastInsertId
  deriving DecidableEq

/-- Where a foreign key is declared: in its column, or beside the columns of its table. -/
inductive ForeignKeyPlace
  | inline
  | tableConstraint
  deriving DecidableEq

/-- How binary literals are spelled. -/
inductive BytesLiteral
  | hex
  | bytea
  deriving DecidableEq

/-- How doubles that are not finite are spelled: by casting their name, by a number that
overflows, or as null. -/
inductive NonFinite
  | cast
  | overflow
  | null
  deriving DecidableEq

/-- How values are spelled inside a statement. The pattern of instants is made of the ten parts that
`Calendar.Part` lists, literal characters among them; it has no other part, such as the name of a
month. -/
structure LiteralStyle where
  bytes : BytesLiteral
  nonFinite : NonFinite
  backslashEscapes : Bool
  datetime : Calendar.Pattern
  currentTimestamp : String
  wrapBlobDefaults : Bool
  deriving DecidableEq

/-- The names of the column types. -/
structure TypeNames where
  int : String
  bigInt : String
  string : String
  bool : String
  double : String
  uuid : String
  date : String
  json : String
  bytes : String
  increments : String
  deriving DecidableEq

/-- The name of a column type. A type that is named outright keeps its name. -/
def TypeNames.name (names : TypeNames) : ColumnType → String
  | .int => names.int
  | .bigInt => names.bigInt
  | .string => names.string
  | .bool => names.bool
  | .double => names.double
  | .uuid => names.uuid
  | .date => names.date
  | .json => names.json
  | .bytes => names.bytes
  | .increments => names.increments
  | .custom name => name

/-- All that differs between databases. -/
structure Dialect where
  name : String
  identifierQuote : Char
  placeholder : Placeholder
  locking : Bool
  insertReturning : InsertReturning
  unboundedLimit : Option String
  foreignKeys : ForeignKeyPlace
  literals : LiteralStyle
  types : TypeNames
  deriving DecidableEq

namespace Dialect

/-- How identifiers are quoted. -/
def identifierQuoting (d : Dialect) : Text.Quoting :=
  ⟨d.identifierQuote, false⟩

/-- An identifier in quotes, the quote character in it written twice. -/
def quoteIdentifier (d : Dialect) (name : String) : String :=
  d.identifierQuoting.write name

/-- The fragment with the placeholders of the dialect for its markers. -/
def render (d : Dialect) (f : Fragment) : Fragment :=
  f.render d.placeholder

end Dialect

end BoundSql
