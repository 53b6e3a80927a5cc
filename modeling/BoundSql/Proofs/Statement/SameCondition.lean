import BoundSql.Proofs.Condition.Calls
import BoundSql.Proofs.Statement.Keywords

/-!
# The same condition in every statement

A run of calls makes the same condition on its own, in a deletion, in an update and in a selection.
The statement is then the one without the calls, with the condition written behind WHERE. Its
placeholders are numbered behind those in front of it, those behind it are numbered further, and its
values stand between the values of both sides.
-/

namespace BoundSql

open Filtered (Call Lawful)

namespace Condition

theorem values_clause (keyword : String) (c : Condition) :
    (c.clause keyword).values = c.compile.values := by
  rw [clause]
  split
  · rename_i h
    rw [compile_eq_empty h]
  · rw [Fragment.values_append, Fragment.values_ofText, List.nil_append]

theorem numberedClause_eq_ite (style : Placeholder) (start : Nat) (keyword : String)
    (c : Condition) :
    c.numberedClause style start keyword =
      if c.compile.isEmpty then "" else keyword ++ c.compile.numbered style start := by
  rw [← numbered_clause, clause]
  split
  · rw [Fragment.numbered_empty]
  · rw [Fragment.numbered_ofText_append]

@[simp] theorem compile_empty : (∅ : Condition).compile = ∅ := rfl

@[simp] theorem numberedClause_empty (style : Placeholder) (start : Nat) (keyword : String) :
    (∅ : Condition).numberedClause style start keyword = "" := by
  rw [← numbered_clause, clause_empty, Fragment.numbered_empty]

end Condition

namespace Delete

instance : Lawful Delete := ⟨fun _ _ => rfl, fun _ => rfl, fun _ _ _ => rfl⟩

theorem values_compile (s : Delete) (d : Dialect) :
    (s.compile d).values =
      ({ s with filter := ∅ }.compile d).values ++ s.filter.compile.values := by
  change s.clauses.values = { s with filter := ∅ }.clauses.values ++ s.filter.compile.values
  rw [clauses_without_filter, clauses, Fragment.values_append, Condition.values_clause]

end Delete

namespace Update

instance : Lawful Update := ⟨fun _ _ => rfl, fun _ => rfl, fun _ _ _ => rfl⟩

theorem values_compile (u : Update) (d : Dialect) :
    (u.compile d).values =
      ({ u with filter := ∅ }.compile d).values ++ u.filter.compile.values := by
  change u.clauses.values = { u with filter := ∅ }.clauses.values ++ u.filter.compile.values
  rw [clauses_without_filter, clauses, Fragment.values_append, Condition.values_clause]

end Update

namespace Select

instance : Lawful Select := ⟨fun _ _ => rfl, fun _ => rfl, fun _ _ _ => rfl⟩

theorem values_compile (s : Select) (d : Dialect) :
    (s.compile d).values =
      s.beforeFilter.values ++ s.filter.compile.values ++ (s.afterFilter d).values := by
  change (s.clauses d).values = _
  rw [clauses_eq_append, Fragment.values_append, Fragment.values_append, Condition.values_clause,
    List.append_assoc]

variable {s : Select}

/-- Without condition on rows a selection is what stands in front of it and behind it. -/
theorem text_compile_of_filter_eq_empty (d : Dialect) (hfilter : s.filter = ∅)
    (h : ∀ f ∈ s.raws, f.WellMarked) :
    (s.compile d).text = s.beforeFilter.numbered d.placeholder 0 ++
      (s.afterFilter d).numbered d.placeholder s.joinMarkerCount := by
  rw [text_compile d h, hfilter, Condition.numberedClause_empty, String.append_empty,
    Condition.compile_empty, Fragment.markerCount_empty, Nat.add_zero]

theorem values_compile_of_filter_eq_empty (d : Dialect) (hfilter : s.filter = ∅) :
    (s.compile d).values = s.beforeFilter.values ++ (s.afterFilter d).values := by
  rw [values_compile, hfilter, Condition.compile_empty, Fragment.values_empty, List.append_nil]

theorem forall_raws_with_filter {P : Fragment → Prop} {c : Condition} (hs : ∀ f ∈ s.raws, P f)
    (hc : ∀ f ∈ c.raws, P f) : ∀ f ∈ { s with filter := c }.raws, P f := by
  intro f hf
  simp only [raws, List.mem_append] at hf
  rcases hf with (hjoins | hfilter) | hhaving
  · exact hs f (by simp [raws, hjoins])
  · exact hc f hfilter
  · exact hs f (by simp [raws, hhaving])

end Select

namespace Statement

/-- Calls on a deletion, an update or a selection without condition write the condition that they
make on their own behind WHERE. Its placeholders are numbered behind those of the assignments or of
the joins, and those behind it in a selection are moved on by the number of its markers. Its values
stand between those of both sides. -/
theorem calls_insert_condition (d : Dialect) (calls : List Call)
    (hcalls : ∀ f ∈ (Filtered.run calls (∅ : Condition)).raws, f.Reachable) :
    let c := (Filtered.run calls (∅ : Condition)).compile
    let inserted (start : Nat) : String :=
      if c.isEmpty then "" else " WHERE " ++ c.numbered d.placeholder start
    (∀ table : Table,
      let bare := Delete.ofTable table
      let s := Filtered.run calls bare
      (s.compile d).text = (bare.compile d).text ++ inserted 0 ∧
        (s.compile d).values = (bare.compile d).values ++ c.values) ∧
    (∀ (table : Table) (assignments : Assignments),
      let bare : Update := ⟨table, assignments, ∅⟩
      let u := Filtered.run calls bare
      (u.compile d).text = (bare.compile d).text ++ inserted assignments.pairs.length ∧
        (u.compile d).values = (bare.compile d).values ++ c.values) ∧
    ∀ bare : Select, bare.filter = ∅ → (∀ f ∈ bare.raws, f.Reachable) →
      let s := Filtered.run calls bare
      let before := bare.beforeFilter
      let after := bare.afterFilter d
      let joined := bare.joinMarkerCount
      (bare.compile d).text =
          before.numbered d.placeholder 0 ++ after.numbered d.placeholder joined ∧
        (s.compile d).text = before.numbered d.placeholder 0 ++ inserted joined ++
          after.numbered d.placeholder (joined + c.markerCount) ∧
        (bare.compile d).values = before.values ++ after.values ∧
        (s.compile d).values = before.values ++ c.values ++ after.values := by
  intro c inserted
  have hmarked : ∀ f ∈ (Filtered.run calls (∅ : Condition)).raws, f.WellMarked :=
    fun f hf => (hcalls f hf).wellMarked
  have hinserted (start : Nat) : (Filtered.run calls (∅ : Condition)).numberedClause
      d.placeholder start " WHERE " = inserted start :=
    Condition.numberedClause_eq_ite d.placeholder start " WHERE " _
  refine ⟨?_, ?_, ?_⟩
  · intro table bare s
    have hs : s = { bare with filter := Filtered.run calls ∅ } :=
      Filtered.run_eq_withCondition calls bare
    rw [hs, ← hinserted]
    exact ⟨Delete.text_compile d hmarked, Delete.values_compile _ d⟩
  · intro table assignments bare u
    have hu : u = { bare with filter := Filtered.run calls ∅ } :=
      Filtered.run_eq_withCondition calls bare
    rw [hu, ← hinserted]
    exact ⟨Update.text_compile d hmarked, Update.values_compile _ d⟩
  · intro bare hfilter hraws s before after joined
    have hbare : ∀ f ∈ bare.raws, f.WellMarked := fun f hf => (hraws f hf).wellMarked
    have hs : s = { bare with filter := Filtered.run calls ∅ } := by
      rw [← hfilter]
      exact Filtered.run_eq_withCondition calls bare
    rw [hs, ← hinserted]
    refine ⟨?_, ?_, ?_, ?_⟩
    · exact Select.text_compile_of_filter_eq_empty d hfilter hbare
    · exact Select.text_compile d (Select.forall_raws_with_filter hbare hmarked)
    · exact Select.values_compile_of_filter_eq_empty d hfilter
    · exact Select.values_compile _ d

/-- A group in a group with a raw fragment, behind nothing, behind an assignment, and between the
condition of a join and one on groups. -/
theorem calls_insert_nested_group :
    let calls : List Call := [.andWhere "a" .eq (.int 1), .orWhereGroup fun c =>
      Filtered.orWhereGroup (Filtered.andWhereIn "b" [.int 2, .int 3])
        (Filtered.andWhereRaw (.ofMarked "e ?? ?" [.int 4]) c)]
    let on : Condition := ⟨[(.and, .compare "u.x" .gt (.int 5))]⟩
    let having : Condition := ⟨[(.and, .compare "n" .lt (.int 6))]⟩
    let bare : Select := { Select.ofTable (.ofName "t") with
      joins := [⟨.left, .ofName "u", on⟩], having := having }
    (∀ f ∈ (Filtered.run calls (∅ : Condition)).raws, f.Reachable) ∧
      bare.filter = ∅ ∧ (∀ f ∈ bare.raws, f.Reachable) ∧
      ((Filtered.run calls (Delete.ofTable (.ofName "t"))).compile .postgres).text =
        "DELETE FROM t WHERE a = $1 OR (e ? $2 OR (b IN ($3, $4)))" ∧
      ((Filtered.run calls (⟨.ofName "t", .single "n" .null, ∅⟩ : Update)).compile .postgres).text =
        "UPDATE t SET n = $1 WHERE a = $2 OR (e ? $3 OR (b IN ($4, $5)))" ∧
      (bare.compile .postgres).text = "SELECT * FROM t LEFT JOIN u ON u.x > $1 HAVING n < $2" ∧
      ((Filtered.run calls bare).compile .postgres).text =
        "SELECT * FROM t LEFT JOIN u ON u.x > $1 WHERE a = $2 OR (e ? $3 OR (b IN ($4, $5))) " ++
          "HAVING n < $6" ∧
      ((Filtered.run calls bare).compile .postgres).values =
        [.int 5, .int 1, .int 4, .int 2, .int 3, .int 6] := by
  intro calls on having bare
  have hcalls : ∀ f ∈ (Filtered.run calls (∅ : Condition)).raws, f.Reachable := by
    intro f hf
    obtain rfl : f = .ofMarked "e ?? ?" [.int 4] := List.mem_singleton.mp hf
    exact .ofMarked "e ?? ?" [.int 4]
  have hbare : ∀ f ∈ bare.raws, f.Reachable := by
    intro f hf
    exact absurd hf List.not_mem_nil
  obtain ⟨hdelete, hupdate, hselect⟩ := calls_insert_condition .postgres calls hcalls
  obtain ⟨hwithout, htext, -, hvalues⟩ := hselect bare rfl hbare
  refine ⟨hcalls, rfl, hbare, ?_, ?_, ?_, ?_, ?_⟩
  · exact (hdelete (.ofName "t")).1.trans (by decide +kernel)
  · exact (hupdate (.ofName "t") (.single "n" .null)).1.trans (by decide +kernel)
  · exact hwithout.trans (by decide +kernel)
  · exact htext.trans (by decide +kernel)
  · exact hvalues.trans rfl

end Statement

end BoundSql
