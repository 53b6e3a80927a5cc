import BoundSql.Condition.Compile
import BoundSql.Condition.Filtered
import BoundSql.Dialect.Basic
import BoundSql.Statement.Table

/-!
# Deletions

A deletion names its table and a condition. Where the condition leaves no text, all rows are
deleted.
-/

namespace BoundSql

/-- A deletion of the rows on which its condition holds. -/
structure Delete where
  table : Table
  filter : Condition

namespace Delete

/-- Delete all rows of a table. -/
def ofTable (table : Table) : Delete := ⟨table, ∅⟩

instance : Filtered Delete := ⟨filter, fun d c => { d with filter := c }⟩

/-- The clauses in order, with markers for the bound values. -/
def clauses (s : Delete) : Fragment :=
  .ofText ("DELETE FROM " ++ s.table.toString) ++ s.filter.clause " WHERE "

/-- The statement of a deletion. -/
def compile (s : Delete) (d : Dialect) : Fragment :=
  d.render s.clauses

end Delete

end BoundSql
