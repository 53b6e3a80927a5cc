import BoundSql.Schema.ColumnType
import BoundSql.Value.Basic

/-!
# Columns of tables

A column has a name, a type and constraints in the order in which they were given.
-/

namespace BoundSql

/-- What a column holds where a row gives no value for it. -/
inductive DefaultValue
  | value (v : Value)
  | currentTimestamp
  | expression (text : String)

/-- A constraint on a column. -/
inductive ColumnConstraint
  | primary
  | notNull
  | unique
  | default (d : DefaultValue)
  | references (table column : String)

namespace DefaultValue

/-- Equality of defaults; values are compared as values. -/
def beq : DefaultValue → DefaultValue → Bool
  | .value v, .value v' => v == v'
  | .currentTimestamp, .currentTimestamp => true
  | .expression e, .expression e' => e == e'
  | _, _ => false

instance : BEq DefaultValue := ⟨beq⟩

end DefaultValue

namespace ColumnConstraint

/-- Equality of constraints; values are compared as values. -/
def beq : ColumnConstraint → ColumnConstraint → Bool
  | .primary, .primary => true
  | .notNull, .notNull => true
  | .unique, .unique => true
  | .default d, .default d' => d == d'
  | .references t c, .references t' c' => t == t' && c == c'
  | _, _ => false

instance : BEq ColumnConstraint := ⟨beq⟩

end ColumnConstraint

/-- A column of a table. -/
structure Column where
  name : String
  type : ColumnType
  constraints : List ColumnConstraint
  deriving BEq

namespace Column

/-- A column without constraints. -/
def ofType (type : ColumnType) (name : String) : Column :=
  ⟨name, type, []⟩

/-- A column of whole numbers of thirty-two bits. -/
def integer : String → Column := ofType .int

/-- A column of whole numbers of sixty-four bits. -/
def bigInt : String → Column := ofType .bigInt

/-- A column of texts. -/
def string : String → Column := ofType .string

/-- A column of truth values. -/
def boolean : String → Column := ofType .bool

/-- A column of doubles. -/
def double : String → Column := ofType .double

/-- A column of unique identifiers. -/
def uuid : String → Column := ofType .uuid

/-- A column of timestamps. -/
def timestamp : String → Column := ofType .date

/-- A column of JSON documents. -/
def json : String → Column := ofType .json

/-- A column of byte sequences. -/
def bytes : String → Column := ofType .bytes

/-- A primary key that the database counts up. -/
def increments : String → Column := ofType .increments

/-- Add a constraint at the end. -/
def addConstraint (c : Column) (constraint : ColumnConstraint) : Column :=
  { c with constraints := c.constraints ++ [constraint] }

/-- The column is the primary key. -/
def primary (c : Column) : Column :=
  c.addConstraint .primary

/-- The column holds no null. -/
def notNull (c : Column) : Column :=
  c.addConstraint .notNull

/-- The column holds no value twice. -/
def unique (c : Column) : Column :=
  c.addConstraint .unique

/-- The column holds a value by default. -/
def withDefault (c : Column) (v : Value) : Column :=
  c.addConstraint (.default (.value v))

/-- The column holds the current time by default. -/
def defaultNow (c : Column) : Column :=
  c.addConstraint (.default .currentTimestamp)

/-- The column holds the value of an expression by default. -/
def defaultExpression (c : Column) (text : String) : Column :=
  c.addConstraint (.default (.expression text))

/-- The column holds keys of another table. -/
def references (c : Column) (table column : String) : Column :=
  c.addConstraint (.references table column)

end Column

end BoundSql
