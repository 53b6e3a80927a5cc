import BoundSql.Statement.Delete
import BoundSql.Statement.Insert
import BoundSql.Statement.SelectClauses
import BoundSql.Statement.Update

/-!
# Statements

The four statements that work on rows, as one type. Each is written as clauses with markers, and
the markers are then replaced by the placeholders of the dialect.
-/

namespace BoundSql

/-- A statement that works on rows. -/
inductive Statement
  | select (s : Select)
  | insert (i : Insert)
  | update (u : Update)
  | delete (d : Delete)

namespace Statement

/-- The clauses in order, with markers for the bound values. -/
def clauses : Statement → Dialect → Fragment
  | .select s, d => s.clauses d
  | .insert i, d => i.clauses d
  | .update u, _ => u.clauses
  | .delete s, _ => s.clauses

/-- The finished statement. -/
def compile : Statement → Dialect → Fragment
  | .select s, d => s.compile d
  | .insert i, d => i.compile d
  | .update u, d => u.compile d
  | .delete s, d => s.compile d

/-- A statement is finished by rendering its clauses. -/
theorem compile_eq_render (s : Statement) (d : Dialect) : s.compile d = d.render (s.clauses d) := by
  cases s <;> rfl

end Statement

end BoundSql
