import BoundSql.Proofs.Condition.MapValues
import BoundSql.Proofs.Statement.Raws

/-!
# Other values in statements

Two statements that differ in their values only are finished as the same text. So whatever the
values are, they never become part of the text of a statement.
-/

namespace BoundSql

variable (g : Value → Value)

namespace Join

/-- A join with a function applied to each value in its condition. -/
def mapValues (j : Join) : Join :=
  { j with on := j.on.mapValues g }

theorem clause_mapValues (j : Join) : (j.mapValues g).clause = j.clause.mapValues g := by
  rw [clause, clause, Fragment.mapValues_append, Fragment.mapValues_ofText, mapValues,
    Condition.clause_mapValues]

end Join

namespace Select

/-- A selection with a function applied to each value in its conditions. -/
def mapValues (s : Select) : Select :=
  { s with
    joins := s.joins.map (Join.mapValues g)
    filter := s.filter.mapValues g
    having := s.having.mapValues g }

theorem clauses_mapValues (s : Select) (d : Dialect) :
    (s.mapValues g).clauses d = (s.clauses d).mapValues g := by
  have hjoins : (s.joins.map (Join.mapValues g)).map Join.clause =
      (s.joins.map Join.clause).map (Fragment.mapValues g) := by
    rw [List.map_map, List.map_map]
    exact List.map_congr_left fun j _ => j.clause_mapValues g
  rw [clauses, clauses, Fragment.mapValues_concat]
  -- The clauses that bind no value are the same before and after.
  simp only [List.map_cons, List.map_nil, Fragment.mapValues_concat, ← hjoins,
    ← Condition.clause_mapValues, s.isText_headClause.mapValues, s.isText_groupClause.mapValues,
    s.isText_orderClause.mapValues, (s.isText_limitClause d).mapValues,
    s.isText_offsetClause.mapValues, (s.isText_lockClause d).mapValues]
  rfl

end Select

namespace Assignments

/-- The same columns with a function applied to each of their values. -/
def mapValues (a : Assignments) : Assignments :=
  ⟨a.pairs.map fun pair => (pair.1, g pair.2), by simpa using a.pairs_ne_nil⟩

@[simp] theorem columns_mapValues (a : Assignments) : (a.mapValues g).columns = a.columns := by
  simp [columns, mapValues]

@[simp] theorem values_mapValues (a : Assignments) :
    (a.mapValues g).values = a.values.map g := by
  simp [values, mapValues]

end Assignments

namespace Insert

/-- An insertion with a function applied to each value that it inserts. -/
def mapValues (i : Insert) : Insert :=
  { i with assignments := i.assignments.mapValues g }

theorem clauses_mapValues (i : Insert) (d : Dialect) :
    (i.mapValues g).clauses d = (i.clauses d).mapValues g := by
  have hbound : ((i.assignments.mapValues g).values.map Fragment.ofValue) =
      (i.assignments.values.map Fragment.ofValue).map (Fragment.mapValues g) := by
    rw [Assignments.values_mapValues, List.map_map, List.map_map]
    rfl
  have hvalues : (i.mapValues g).valuesClause = i.valuesClause.mapValues g := by
    rw [valuesClause, valuesClause, Fragment.mapValues_append, Fragment.mapValues_ofText,
      Fragment.mapValues_parens, Fragment.mapValues_join, ← hbound, mapValues,
      Assignments.columns_mapValues]
  rw [clauses, clauses, Fragment.mapValues_append, hvalues,
    (i.isText_returningClause d).mapValues]
  rfl

end Insert

namespace Update

/-- An update with a function applied to each value that it assigns or compares with. -/
def mapValues (u : Update) : Update :=
  { u with assignments := u.assignments.mapValues g, filter := u.filter.mapValues g }

theorem clauses_mapValues (u : Update) : (u.mapValues g).clauses = u.clauses.mapValues g := by
  have hassigned : (u.assignments.mapValues g).pairs.map assignment =
      (u.assignments.pairs.map assignment).map (Fragment.mapValues g) := by
    rw [Assignments.mapValues, List.map_map, List.map_map]
    apply List.map_congr_left
    intro pair _
    simp [assignment]
  rw [clauses, clauses, setClause, setClause, Fragment.mapValues_append,
    Fragment.mapValues_append, Fragment.mapValues_ofText, Fragment.mapValues_join, ← hassigned,
    mapValues, Condition.clause_mapValues]

end Update

namespace Delete

/-- A deletion with a function applied to each value in its condition. -/
def mapValues (s : Delete) : Delete :=
  { s with filter := s.filter.mapValues g }

theorem clauses_mapValues (s : Delete) : (s.mapValues g).clauses = s.clauses.mapValues g := by
  rw [clauses, clauses, Fragment.mapValues_append, Fragment.mapValues_ofText, mapValues,
    Condition.clause_mapValues]

end Delete

namespace Statement

/-- A statement with a function applied to each value bound in it: values that are inserted or
assigned, and those in the conditions of joins, rows and groups. -/
def mapValues : Statement → Statement
  | .select s => .select (s.mapValues g)
  | .insert i => .insert (i.mapValues g)
  | .update u => .update (u.mapValues g)
  | .delete s => .delete (s.mapValues g)

theorem clauses_mapValues (s : Statement) (d : Dialect) :
    (s.mapValues g).clauses d = (s.clauses d).mapValues g := by
  cases s with
  | select s => exact s.clauses_mapValues g d
  | insert i => exact i.clauses_mapValues g d
  | update u => exact u.clauses_mapValues g
  | delete s => exact s.clauses_mapValues g

theorem compile_mapValues (s : Statement) (d : Dialect) :
    (s.mapValues g).compile d = (s.compile d).mapValues g := by
  rw [compile_eq_render, compile_eq_render, clauses_mapValues]
  exact Fragment.render_mapValues g d.placeholder (s.clauses d)

/-- A statement with other values is finished as the same text, and its values are the other ones
in the same order. Its raw fragments may hold any number of markers. -/
theorem text_independent_of_values (s : Statement) (d : Dialect) :
    ((s.mapValues g).compile d).text = (s.compile d).text ∧
      ((s.mapValues g).compile d).values = (s.compile d).values.map g := by
  constructor
  · rw [compile_mapValues, Fragment.text_mapValues]
  · rw [compile_mapValues, Fragment.values_mapValues]

end Statement

end BoundSql
