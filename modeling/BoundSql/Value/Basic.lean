import BoundSql.Calendar.Timestamp
import BoundSql.Json.Document
import BoundSql.Uuid

/-!
# Values

A value is what may be bound into a statement and what a row holds in a cell. No value is ever
turned into one of another kind.
-/

namespace BoundSql

/-- A scalar of the database. -/
inductive Value
  | null
  | bool (b : Bool)
  | int (n : Int64)
  | double (x : Float)
  | string (s : String)
  | date (t : Calendar.Timestamp)
  | bytes (bytes : List UInt8)
  | uuid (id : Uuid)
  | json (document : Json.Document)
  deriving Inhabited

namespace Value

/-- The kinds of values. -/
inductive Kind
  | null
  | bool
  | int
  | double
  | string
  | date
  | bytes
  | uuid
  | json
  deriving DecidableEq

/-- The name of a kind. -/
def Kind.name : Kind → String
  | .null => "null"
  | .bool => "bool"
  | .int => "int"
  | .double => "double"
  | .string => "string"
  | .date => "date"
  | .bytes => "bytes"
  | .uuid => "uuid"
  | .json => "json"

/-- The kind of a value. -/
def kind : Value → Kind
  | .null => .null
  | .bool _ => .bool
  | .int _ => .int
  | .double _ => .double
  | .string _ => .string
  | .date _ => .date
  | .bytes _ => .bytes
  | .uuid _ => .uuid
  | .json _ => .json

/-- Whether a value is the null value. -/
def isNull : Value → Bool
  | .null => true
  | _ => false

/-- Equality of values. Doubles are compared as numbers, so the two zeros are equal and a value
that is not a number differs from itself. -/
def beq : Value → Value → Bool
  | .null, .null => true
  | .bool a, .bool b => a == b
  | .int a, .int b => a == b
  | .double a, .double b => a == b
  | .string a, .string b => a == b
  | .date a, .date b => a == b
  | .bytes a, .bytes b => a == b
  | .uuid a, .uuid b => a == b
  | .json a, .json b => a == b
  | _, _ => false

instance : BEq Value := ⟨beq⟩

end Value

end BoundSql
