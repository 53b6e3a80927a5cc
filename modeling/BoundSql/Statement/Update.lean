import BoundSql.Condition.Compile
import BoundSql.Condition.Filtered
import BoundSql.Dialect.Basic
import BoundSql.Statement.Assignments
import BoundSql.Statement.Table

/-!
# Updates

An update is begun with its table and has a statement once it has an assignment.
-/

namespace BoundSql

/-- An update without assignments yet. -/
structure Update.Draft where
  table : Table

/-- An update with at least one assignment of the rows on which its condition holds. -/
structure Update where
  table : Table
  assignments : Assignments
  filter : Condition

namespace Update

/-- Begin an update of a table. -/
def ofTable (table : Table) : Draft := ⟨table⟩

/-- The first assignment. -/
def Draft.set (d : Draft) (column : String) (value : Value) : Update :=
  ⟨d.table, .single column value, ∅⟩

/-- A further assignment. -/
def set (u : Update) (column : String) (value : Value) : Update :=
  { u with assignments := u.assignments.add column value }

instance : Filtered Update := ⟨filter, fun u c => { u with filter := c }⟩

/-- A column and the bound value that it is set to. -/
def assignment (pair : String × Value) : Fragment :=
  (Fragment.ofText (pair.1 ++ " = ")).bind pair.2

/-- The table and the assignments. -/
def setClause (u : Update) : Fragment :=
  .ofText ("UPDATE " ++ u.table.toString ++ " SET ") ++
    .join ", " (u.assignments.pairs.map assignment)

/-- The clauses in order, with markers for the bound values. -/
def clauses (u : Update) : Fragment :=
  u.setClause ++ u.filter.clause " WHERE "

/-- The statement of an update. -/
def compile (u : Update) (d : Dialect) : Fragment :=
  d.render u.clauses

end Update

end BoundSql
