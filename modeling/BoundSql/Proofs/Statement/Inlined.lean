import BoundSql.Dialect.Literal
import BoundSql.Dialect.Preset
import BoundSql.Proofs.Condition.Inlined
import BoundSql.Proofs.Statement.Reachable

/-!
# Statements written inline

A statement can be written without placeholders, by one recursion over its fields that spells each
value in the clause that it belongs to. The finished statement has its placeholders exactly where
the spelled values stand, in the same order, and all other text is that of the written statement. So
no value is lost, repeated or bound to the placeholder of another clause.
-/

namespace BoundSql

variable (spell : Value → String)

namespace Join

/-- A joined table and its condition with its values spelled. -/
def inlined (j : Join) : String :=
  " " ++ j.kind.keyword ++ " " ++ j.table.toString ++ j.on.inlinedClause spell " ON "

end Join

/-- A keyword and the entries after it, or nothing where there is none. -/
def listing (keyword : String) (entries : List String) : String :=
  if entries = [] then "" else keyword ++ String.intercalate ", " entries

namespace Select

/-- The bounds on the rows. An offset alone stands behind the bound of the dialect, if it has
one. -/
def bounds (s : Select) (d : Dialect) : String :=
  (match s.limit with
    | some n => " LIMIT " ++ toString n
    | none => if s.offset.isSome then d.unboundedLimit.elim "" (" LIMIT " ++ ·) else "") ++
  s.offset.elim "" fun n => " OFFSET " ++ toString n

/-- The lock on the rows, which some dialects leave out. -/
def locked (s : Select) (d : Dialect) : String :=
  match d.locking, s.lock with
  | true, some ⟨.update, none⟩ => " FOR UPDATE"
  | true, some ⟨.update, some .noWait⟩ => " FOR UPDATE NOWAIT"
  | true, some ⟨.update, some .skipLocked⟩ => " FOR UPDATE SKIP LOCKED"
  | true, some ⟨.share, none⟩ => " FOR SHARE"
  | true, some ⟨.share, some .noWait⟩ => " FOR SHARE NOWAIT"
  | true, some ⟨.share, some .skipLocked⟩ => " FOR SHARE SKIP LOCKED"
  | _, _ => ""

/-- A selection with its values spelled in its conditions. No other clause binds a value. -/
def inlined (s : Select) (d : Dialect) : String :=
  "SELECT " ++ (if s.distinct then "DISTINCT " else "") ++
    (if s.columns = [] then "*" else String.intercalate ", " s.columns) ++
    " FROM " ++ s.table.toString ++ String.join (s.joins.map (Join.inlined spell)) ++
    s.filter.inlinedClause spell " WHERE " ++ listing " GROUP BY " s.groups ++
    s.having.inlinedClause spell " HAVING " ++
    listing " ORDER BY " (s.order.map fun key => key.column ++ " " ++ key.direction.keyword) ++
    s.bounds d ++ s.locked d

end Select

namespace Insert

/-- What hands back the returned columns: a clause of its own, or a second statement. -/
def handingBack (i : Insert) (d : Dialect) : String :=
  match d.insertReturning with
  | .returning => listing " RETURNING " i.returned
  | .lastInsertId =>
      if i.returned = [] then ""
      else "; SELECT " ++ String.intercalate ", " i.returned ++ " FROM " ++ i.table.name ++
        " WHERE " ++ i.key ++ " = LAST_INSERT_ID()"

/-- An insertion with its values spelled after their columns. -/
def inlined (i : Insert) (d : Dialect) : String :=
  "INSERT INTO " ++ i.table.toString ++ " (" ++ String.intercalate ", " i.assignments.columns ++
    ") VALUES " ++ ("(" ++ String.intercalate ", " (i.assignments.values.map spell) ++ ")") ++
    i.handingBack d

end Insert

namespace Update

/-- An update with its values spelled in its assignments and its condition. -/
def inlined (u : Update) : String :=
  "UPDATE " ++ u.table.toString ++ " SET " ++
    String.intercalate ", " (u.assignments.pairs.map fun pair => pair.1 ++ " = " ++ spell pair.2) ++
    u.filter.inlinedClause spell " WHERE "

end Update

namespace Delete

/-- A deletion with its values spelled in its condition. -/
def inlined (s : Delete) : String :=
  "DELETE FROM " ++ s.table.toString ++ s.filter.inlinedClause spell " WHERE "

end Delete

namespace Statement

/-- A statement with its values spelled where they belong. -/
def inlined : Statement → Dialect → String
  | .select s, d => s.inlined spell d
  | .insert i, d => i.inlined spell d
  | .update u, _ => u.inlined spell
  | .delete s, _ => s.inlined spell

end Statement

theorem Join.inlined_clause {j : Join} (h : ∀ f ∈ j.on.raws, f.Aligned) :
    j.clause.inlined spell = j.inlined spell := by
  rw [clause, Fragment.inlined_ofText_append, Condition.inlined_clause spell " ON " h, inlined]

namespace Select

variable (s : Select)

theorem text_headClause : s.headClause.text =
    "SELECT " ++ (if s.distinct then "DISTINCT " else "") ++
      (if s.columns = [] then "*" else String.intercalate ", " s.columns) ++
      " FROM " ++ s.table.toString := by
  simp only [headClause, columnList, Fragment.text_ofText, List.isEmpty_iff]

theorem text_groupClause : s.groupClause.text = listing " GROUP BY " s.groups := by
  unfold groupClause listing
  simp only [List.isEmpty_iff]
  split <;> rfl

theorem text_orderClause : s.orderClause.text =
    listing " ORDER BY " (s.order.map fun key => key.column ++ " " ++ key.direction.keyword) := by
  unfold orderClause listing
  simp only [List.isEmpty_iff, List.map_eq_nil_iff]
  split <;> rfl

theorem text_limitClause_append (d : Dialect) :
    (s.limitClause d).text ++ s.offsetClause.text = s.bounds d := by
  unfold limitClause offsetClause bounds
  cases s.limit with
  | some n => cases s.offset <;> rfl
  | none => cases s.offset <;> cases d.unboundedLimit <;> rfl

theorem text_lockClause (d : Dialect) : (s.lockClause d).text = s.locked d := by
  unfold lockClause locked
  cases s.lock with
  | none => cases d.locking <;> rfl
  | some lock =>
      obtain ⟨strength, wait⟩ := lock
      cases d.locking with
      | false => rfl
      | true => rcases wait with - | ⟨- | -⟩ <;> cases strength <;> rfl

/-- The clauses that bind no value are the written ones. -/
theorem inlined_eq_append (d : Dialect) :
    s.inlined spell d = s.headClause.text ++ (String.join (s.joins.map (Join.inlined spell)) ++
      (s.filter.inlinedClause spell " WHERE " ++ (s.groupClause.text ++
      (s.having.inlinedClause spell " HAVING " ++ (s.orderClause.text ++ ((s.limitClause d).text ++
      (s.offsetClause.text ++ (s.lockClause d).text))))))) := by
  have hbounds : (s.limitClause d).text ++ (s.offsetClause.text ++ (s.lockClause d).text) =
      s.bounds d ++ s.locked d := by
    rw [← String.append_assoc, text_limitClause_append, text_lockClause]
  rw [hbounds, text_headClause, text_groupClause, text_orderClause]
  unfold inlined
  simp only [String.append_assoc]

end Select

theorem Insert.text_returningClause (i : Insert) (d : Dialect) :
    (i.returningClause d).text = i.handingBack d := by
  unfold returningClause handingBack listing
  simp only [List.isEmpty_iff]
  split
  · cases d.insertReturning <;> rfl
  · cases d.insertReturning <;> exact Fragment.text_ofText _

theorem Select.inlined_clauses {s : Select} (d : Dialect) (h : ∀ f ∈ s.raws, f.Aligned) :
    (s.clauses d).inlined spell = s.inlined spell d := by
  have hjoin : ∀ j ∈ s.joins, ∀ f ∈ j.on.raws, f.Aligned := fun j hj f hf =>
    h f (raws_on_subset hj hf)
  have hclauses : ∀ f ∈ s.joins.map Join.clause, f.Aligned := by
    intro f hf
    obtain ⟨j, hj, rfl⟩ := List.mem_map.mp hf
    exact Fragment.closed_aligned.joinClause (hjoin j hj)
  have hjoins : (Fragment.concat (s.joins.map Join.clause)).inlined spell =
      String.join (s.joins.map (Join.inlined spell)) := by
    have hspelled : (s.joins.map Join.clause).map (Fragment.inlined spell) =
        s.joins.map (Join.inlined spell) := by
      rw [List.map_map]
      apply List.map_congr_left
      intro j hj
      exact Join.inlined_clause spell (hjoin j hj)
    rw [Fragment.inlined_concat spell hclauses, hspelled]
  have hfilter := Condition.inlined_clause spell (c := s.filter) " WHERE " fun f hf =>
    h f (by simp [raws, hf])
  have hhaving := Condition.inlined_clause spell (c := s.having) " HAVING " fun f hf =>
    h f (by simp [raws, hf])
  rw [clauses, Fragment.inlined_concat spell (Fragment.closed_aligned.forall_selectClauses d h)]
  simp only [List.map_cons, List.map_nil, String.join_cons, String.join_nil, hjoins, hfilter,
    hhaving, s.isText_headClause.inlined, s.isText_groupClause.inlined,
    s.isText_orderClause.inlined, (s.isText_limitClause d).inlined,
    s.isText_offsetClause.inlined, (s.isText_lockClause d).inlined, inlined_eq_append,
    String.append_empty]

theorem Insert.inlined_clauses (i : Insert) (d : Dialect) :
    (i.clauses d).inlined spell = i.inlined spell d := by
  have hbound : ∀ f ∈ i.assignments.values.map Fragment.ofValue, f.Aligned ∧ f.isEmpty = false := by
    intro f hf
    obtain ⟨value, -, rfl⟩ := List.mem_map.mp hf
    exact ⟨Fragment.closed_aligned.ofValue value, Fragment.isEmpty_ofValue value⟩
  have haligned := Fragment.closed_aligned.join ", " fun f hf => (hbound f hf).1
  rw [clauses, (Fragment.closed_aligned.valuesClause i).inlined_append,
    (i.isText_returningClause d).inlined, i.text_returningClause, valuesClause,
    Fragment.inlined_ofText_append, haligned.inlined_parens,
    Fragment.inlined_join spell ", " (fun f hf => (hbound f hf).1) fun f hf => (hbound f hf).2]
  unfold inlined
  simp [Function.comp_def, String.append_assoc]

theorem Update.inlined_clauses {u : Update} (h : ∀ f ∈ u.filter.raws, f.Aligned) :
    u.clauses.inlined spell = u.inlined spell := by
  have hset : ∀ f ∈ u.assignments.pairs.map assignment, f.Aligned ∧ f.isEmpty = false := by
    intro f hf
    obtain ⟨pair, -, rfl⟩ := List.mem_map.mp hf
    exact ⟨Fragment.closed_aligned.bind (Fragment.closed_aligned.ofText _) pair.2,
      Fragment.isEmpty_bind _ _⟩
  have hspelled (pair : String × Value) :
      (assignment pair).inlined spell = pair.1 ++ " = " ++ spell pair.2 := by
    rw [assignment, (Fragment.closed_aligned.ofText _).inlined_bind, Fragment.inlined_ofText]
  rw [clauses, (Fragment.closed_aligned.setClause u).inlined_append,
    Condition.inlined_clause spell " WHERE " h, setClause, Fragment.inlined_ofText_append,
    Fragment.inlined_join spell ", " (fun f hf => (hset f hf).1) fun f hf => (hset f hf).2, inlined]
  simp [Function.comp_def, hspelled, String.append_assoc]

theorem Delete.inlined_clauses {s : Delete} (h : ∀ f ∈ s.filter.raws, f.Aligned) :
    s.clauses.inlined spell = s.inlined spell := by
  rw [clauses, Fragment.inlined_ofText_append, Condition.inlined_clause spell " WHERE " h, inlined]

namespace Statement

/-- Spelling the values in the clauses of a statement gives the statement written inline. -/
theorem inlined_clauses {s : Statement} (d : Dialect) (h : ∀ f ∈ s.raws, f.Aligned) :
    (s.clauses d).inlined spell = s.inlined spell d := by
  cases s with
  | select s => exact s.inlined_clauses spell d h
  | insert i => exact i.inlined_clauses spell d
  | update u => exact Update.inlined_clauses spell h
  | delete s => exact Delete.inlined_clauses spell h

/-- Where the placeholders in order are the spellings of the bound values, the finished statement is
the one written inline. -/
theorem text_compile_eq_inlined {spell : Value → String} {s : Statement} (d : Dialect)
    (h : ∀ f ∈ s.raws, f.Aligned)
    (hspell : (s.compile d).values.map spell =
      (List.range' 1 (s.compile d).values.length).map d.placeholder.text) :
    (s.compile d).text = s.inlined spell d := by
  have haligned : (s.clauses d).Aligned := Fragment.closed_aligned.clauses d h
  rw [compile_eq_render] at hspell ⊢
  rw [Dialect.render, haligned.wellMarked.text_render, haligned.markerCount_eq,
    ← inlined_clauses spell d h, Fragment.inlined]
  exact congrArg (fun spelled => String.ofList ((s.clauses d).template.fill spelled)) hspell.symm

end Statement

end BoundSql
