import BoundSql.Statement.Basic
import BoundSql.Proofs.Condition.Terms

/-!
# Raw fragments of statements

A statement takes over raw fragments in the conditions of its joins, of its rows and of its
groups. Whatever these have in common with text and markers holds of all its clauses.
-/

namespace BoundSql

/-- The raw fragments in the conditions of a selection, in the order of its clauses. -/
def Select.raws (s : Select) : List Fragment :=
  s.joins.flatMap (fun j => j.on.raws) ++ s.filter.raws ++ s.having.raws

/-- The raw fragments in a statement, at any depth of its conditions. -/
def Statement.raws : Statement → List Fragment
  | .select s => s.raws
  | .insert _ => []
  | .update u => u.filter.raws
  | .delete s => s.filter.raws

section Text
variable (s : Select) (d : Dialect)

theorem Select.isText_headClause : s.headClause.IsText :=
  Fragment.isText_ofText _

theorem Select.isText_groupClause : s.groupClause.IsText := by
  unfold groupClause
  split
  · exact Fragment.isText_empty
  · exact Fragment.isText_ofText _

theorem Select.isText_orderClause : s.orderClause.IsText := by
  unfold orderClause
  split
  · exact Fragment.isText_empty
  · exact Fragment.isText_ofText _

theorem Select.isText_limitClause : (s.limitClause d).IsText := by
  unfold limitClause
  split
  · exact Fragment.isText_ofText _
  · exact Fragment.isText_ofText _
  · exact Fragment.isText_empty

theorem Select.isText_offsetClause : s.offsetClause.IsText := by
  unfold offsetClause
  split
  · exact Fragment.isText_ofText _
  · exact Fragment.isText_empty

theorem Select.isText_lockClause : (s.lockClause d).IsText := by
  unfold lockClause
  split
  · split
    · exact Fragment.isText_ofText _
    · exact Fragment.isText_empty
  · exact Fragment.isText_empty

theorem Insert.isText_returningClause (i : Insert) : (i.returningClause d).IsText := by
  unfold returningClause
  split
  · exact Fragment.isText_empty
  · cases d.insertReturning <;> exact Fragment.isText_ofText _

end Text

theorem Select.raws_on_subset {s : Select} {j : Join} (hj : j ∈ s.joins) :
    j.on.raws ⊆ s.raws := by
  intro f hf
  have hmem : f ∈ s.joins.flatMap fun j => j.on.raws := List.mem_flatMap.mpr ⟨j, hj, hf⟩
  simp [Select.raws, hmem]

namespace Fragment.Closed

variable {P : Fragment → Prop}

theorem joinClause (hP : Closed P) {j : Join} (h : ∀ f ∈ j.on.raws, P f) : P j.clause :=
  hP.append (hP.ofText _) (hP.clause " ON " h)

/-- The property holds of each clause of a selection. -/
theorem forall_selectClauses (hP : Closed P) {s : Select} (d : Dialect)
    (h : ∀ f ∈ s.raws, P f) :
    ∀ f ∈ [s.headClause, .concat (s.joins.map Join.clause), s.filter.clause " WHERE ",
      s.groupClause, s.having.clause " HAVING ", s.orderClause, s.limitClause d, s.offsetClause,
      s.lockClause d], P f := by
  have hjoins : P (.concat (s.joins.map Join.clause)) := by
    apply hP.concat
    intro f hf
    obtain ⟨j, hj, rfl⟩ := List.mem_map.mp hf
    exact hP.joinClause fun g hg => h g (Select.raws_on_subset hj hg)
  have hfilter : P (s.filter.clause " WHERE ") :=
    hP.clause _ fun f hf => h f (by simp [Select.raws, hf])
  have hhaving : P (s.having.clause " HAVING ") :=
    hP.clause _ fun f hf => h f (by simp [Select.raws, hf])
  simpa using ⟨hP.of_isText s.isText_headClause, hjoins, hfilter,
    hP.of_isText s.isText_groupClause, hhaving, hP.of_isText s.isText_orderClause,
    hP.of_isText (s.isText_limitClause d), hP.of_isText s.isText_offsetClause,
    hP.of_isText (s.isText_lockClause d)⟩

theorem valuesClause (hP : Closed P) (i : Insert) : P i.valuesClause := by
  apply hP.append (hP.ofText _)
  apply hP.parens
  apply hP.join
  intro f hf
  obtain ⟨value, -, rfl⟩ := List.mem_map.mp hf
  exact hP.ofValue value

theorem setClause (hP : Closed P) (u : Update) : P u.setClause := by
  apply hP.append (hP.ofText _)
  apply hP.join
  intro f hf
  obtain ⟨pair, -, rfl⟩ := List.mem_map.mp hf
  exact hP.bind (hP.ofText _) pair.2

/-- A property that text, markers and the raw fragments of a statement have holds of its
clauses. -/
theorem clauses (hP : Closed P) {s : Statement} (d : Dialect) (h : ∀ f ∈ s.raws, P f) :
    P (s.clauses d) := by
  cases s with
  | select s => exact hP.concat (hP.forall_selectClauses d h)
  | insert i => exact hP.append (hP.valuesClause i) (hP.of_isText (i.isText_returningClause d))
  | update u => exact hP.append (hP.setClause u) (hP.clause " WHERE " h)
  | delete s => exact hP.append (hP.ofText _) (hP.clause " WHERE " h)

end Fragment.Closed

end BoundSql
