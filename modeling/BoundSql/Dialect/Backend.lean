import BoundSql.Dialect.Preset
import BoundSql.Json.Tagged
import BoundSql.Text.Blank

/-!
# Databases by name

The name of a database is read without regard to case and to blank characters around it. Some
databases have more than one name.
-/

namespace BoundSql

/-- A database with a dialect of its own. -/
inductive Backend
  | postgres
  | mysql
  | sqlite
  deriving DecidableEq

/-- A name that no database has. -/
structure UnknownDialect where
  name : String
  deriving DecidableEq

/-- The words of the error. -/
def UnknownDialect.message (e : UnknownDialect) : String :=
  "unknown dialect: " ++ e.name

namespace Backend

/-- The dialect of a database. -/
def dialect : Backend → Dialect
  | .postgres => .postgres
  | .mysql => .mysql
  | .sqlite => .sqlite

/-- The name of a database. -/
def name : Backend → String
  | .postgres => "postgres"
  | .mysql => "mysql"
  | .sqlite => "sqlite"

/-- All names of the databases. -/
def aliases : List (String × Backend) :=
  [("postgres", .postgres), ("postgresql", .postgres), ("pg", .postgres), ("mysql", .mysql),
    ("mariadb", .mysql), ("sqlite", .sqlite), ("sqlite3", .sqlite)]

/-- The database of a name. An unknown name is reported as it was given. -/
def ofName (name : String) : Except UnknownDialect Backend :=
  match Keyed.find? (Text.lowerAscii (Text.trim name)) aliases with
  | some backend => .ok backend
  | none => .error ⟨name⟩

example : (ofName "PG\t").toOption = some .postgres := by decide +kernel

example : (ofName "post gres").toOption = none := by decide +kernel

/-- The databases under their tags in documents. -/
def tags : List (String × Backend) :=
  [.postgres, .mysql, .sqlite].map fun b => (b.name, b)

instance : Json.Tagged Backend where
  toDocument b := .string b.name
  ofDocument? := Json.ofTags? tags

end Backend

end BoundSql
