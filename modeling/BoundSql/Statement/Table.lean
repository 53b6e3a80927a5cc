/-!
# Tables of statements

Names of tables are taken over as they stand; quoting them is up to the caller.
-/

namespace BoundSql

/-- The table that a statement works on, under another name where it has one. -/
structure Table where
  name : String
  aliasName : Option String
  deriving DecidableEq

namespace Table

/-- A table under its own name. -/
def ofName (name : String) : Table := ⟨name, none⟩

/-- A table under another name. -/
def aliased (name aliasName : String) : Table := ⟨name, some aliasName⟩

/-- The table as it is named in a statement. -/
def toString (t : Table) : String :=
  match t.aliasName with
  | some aliasName => t.name ++ " AS " ++ aliasName
  | none => t.name

end Table

end BoundSql
