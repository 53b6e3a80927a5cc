import BoundSql.Schema.Column

/-!
# Changes of a schema

Tables are created, altered, dropped and renamed.
-/

namespace BoundSql

/-- A new table with its columns. -/
structure CreateTable where
  name : String
  columns : List Column
  ifNotExists : Bool
  deriving BEq

/-- Columns that a table gains and loses. -/
structure AlterTable where
  name : String
  added : List Column
  dropped : List String
  deriving BEq

/-- A table that is dropped. -/
structure DropTable where
  name : String
  ifExists : Bool
  deriving BEq

/-- A table that gets another name. -/
structure RenameTable where
  old : String
  new : String
  deriving BEq

/-- A change of a schema. -/
inductive SchemaChange
  | create (t : CreateTable)
  | alter (t : AlterTable)
  | drop (t : DropTable)
  | rename (t : RenameTable)
  deriving BEq

namespace CreateTable

/-- A table without columns. -/
def ofName (name : String) : CreateTable := ⟨name, [], false⟩

/-- Add a column at the end. -/
def addColumn (t : CreateTable) (c : Column) : CreateTable :=
  { t with columns := t.columns ++ [c] }

/-- Leave a table of this name as it is. -/
def unlessPresent (t : CreateTable) : CreateTable :=
  { t with ifNotExists := true }

end CreateTable

namespace AlterTable

/-- A table that stays as it is. -/
def ofName (name : String) : AlterTable := ⟨name, [], []⟩

/-- Add a column. -/
def addColumn (t : AlterTable) (c : Column) : AlterTable :=
  { t with added := t.added ++ [c] }

/-- Drop a column. -/
def dropColumn (t : AlterTable) (name : String) : AlterTable :=
  { t with dropped := t.dropped ++ [name] }

end AlterTable

namespace DropTable

/-- Drop a table. -/
def ofName (name : String) : DropTable := ⟨name, false⟩

/-- Accept that there is no such table. -/
def whenPresent (t : DropTable) : DropTable :=
  { t with ifExists := true }

end DropTable

end BoundSql
