import BoundSql.Dialect.Basic
import BoundSql.Statement.Assignments
import BoundSql.Statement.Table

/-!
# Insertions

An insertion is begun with its table and has a statement once it has a value. Columns that are to
be returned are handed back in the way of the dialect.
-/

namespace BoundSql

/-- An insertion without values yet. -/
structure Insert.Draft where
  table : Table
  returned : List String
  key : String

/-- An insertion of at least one value. The key is the column whose value the database generates. -/
structure Insert where
  table : Table
  assignments : Assignments
  returned : List String
  key : String

namespace Insert

/-- Begin an insertion into a table. -/
def into (table : Table) : Draft :=
  ⟨table, [], "id"⟩

namespace Draft

/-- The first value. -/
def value (d : Draft) (column : String) (value : Value) : Insert :=
  ⟨d.table, .single column value, d.returned, d.key⟩

/-- Return these columns of the inserted row. -/
def returning (d : Draft) (columns : List String) : Draft :=
  { d with returned := columns }

/-- Name the column whose value the database generates. -/
def withKey (d : Draft) (column : String) : Draft :=
  { d with key := column }

end Draft

/-- Further values, in order. -/
def values (i : Insert) (pairs : List (String × Value)) : Insert :=
  { i with assignments := i.assignments.addAll pairs }

/-- A further value. -/
def value (i : Insert) (column : String) (value : Value) : Insert :=
  { i with assignments := i.assignments.add column value }

/-- Return these columns of the inserted row. -/
def returning (i : Insert) (columns : List String) : Insert :=
  { i with returned := columns }

/-- Name the column whose value the database generates. -/
def withKey (i : Insert) (column : String) : Insert :=
  { i with key := column }

/-- The table, the columns and the bound values. -/
def valuesClause (i : Insert) : Fragment :=
  let columns := String.intercalate ", " i.assignments.columns
  let bound := Fragment.join ", " (i.assignments.values.map .ofValue)
  .ofText ("INSERT INTO " ++ i.table.toString ++ " (" ++ columns ++ ") VALUES ") ++ bound.parens

/-- What hands back the returned columns. The second statement names the table without its
alias. -/
def returningClause (i : Insert) (d : Dialect) : Fragment :=
  if i.returned.isEmpty then ∅
  else
    let columns := String.intercalate ", " i.returned
    match d.insertReturning with
    | .returning => .ofText (" RETURNING " ++ columns)
    | .lastInsertId =>
        .ofText ("; SELECT " ++ columns ++ " FROM " ++ i.table.name ++ " WHERE " ++ i.key ++
          " = LAST_INSERT_ID()")

/-- The clauses in order, with markers for the bound values. -/
def clauses (i : Insert) (d : Dialect) : Fragment :=
  i.valuesClause ++ i.returningClause d

/-- The statement of an insertion. -/
def compile (i : Insert) (d : Dialect) : Fragment :=
  d.render (i.clauses d)

end Insert

end BoundSql
