import BoundSql.Dialect.Preset
import BoundSql.Proofs.Condition.Leaves
import BoundSql.Proofs.Fragment.Numbered
import BoundSql.Proofs.Statement.Reachable

/-!
# Keywords of conditions

The text of a finished statement, written clause by clause. The keyword of a condition is written
exactly where some leaf of the condition is not blank, so no condition that tests anything is lost:
WHERE stands in a selection, an update or a deletion, and ON and HAVING stand in a selection,
wherever their conditions hold such a leaf at some depth. The placeholders of a clause are numbered
behind those of the clauses in front of it.
-/

namespace BoundSql

variable (style : Placeholder) (start : Nat)

namespace Condition

/-- A keyword and the condition after it with its placeholders numbered behind `start`, if some leaf
of the condition is not blank, and nothing otherwise. -/
def numberedClause (keyword : String) (c : Condition) : String :=
  if ∃ leaf ∈ c.leaves, leaf.isBlank = false then keyword ++ c.compile.numbered style start else ""

variable {c : Condition}

theorem isEmpty_compile_eq_false_iff (c : Condition) :
    c.compile.isEmpty = false ↔ ∃ leaf ∈ c.leaves, leaf.isBlank = false := by
  rw [Bool.eq_false_iff, ne_eq, c.isEmpty_compile_iff]
  simp

theorem numbered_clause (keyword : String) (c : Condition) :
    (c.clause keyword).numbered style start = c.numberedClause style start keyword := by
  rw [clause, numberedClause]
  by_cases h : ∃ leaf ∈ c.leaves, leaf.isBlank = false
  · rw [if_pos h, c.isEmpty_compile_eq_false_iff.mpr h, if_neg Bool.false_ne_true,
      Fragment.numbered_ofText_append]
  · have hempty : c.compile.isEmpty :=
      Bool.of_not_eq_false (mt c.isEmpty_compile_eq_false_iff.mp h)
    rw [if_neg h, if_pos hempty, Fragment.numbered_empty]

theorem markerCount_clause (keyword : String) (c : Condition) :
    (c.clause keyword).markerCount = c.compile.markerCount := by
  rw [clause]
  split
  · rename_i h
    rw [compile_eq_empty h]
  · rw [Fragment.markerCount_append, Fragment.markerCount_ofText, Nat.zero_add]

@[simp] theorem clause_empty (keyword : String) : (∅ : Condition).clause keyword = ∅ := rfl

/-- Where a condition with a comparison or a membership at some depth is written behind other text,
its keyword stands there with something behind it. -/
theorem exists_text_eq_of_isTest {text front : String} (keyword : String)
    (hraws : ∀ f ∈ c.raws, f.WellMarked)
    (htext : text = front ++ c.numberedClause style start keyword)
    (h : ∃ leaf ∈ c.leaves, leaf.isTest) :
    ∃ tests, tests ≠ "" ∧ text = front ++ (keyword ++ tests) := by
  obtain ⟨leaf, hmem, htest⟩ := h
  have hleaf : ∃ leaf ∈ c.leaves, leaf.isBlank = false :=
    ⟨leaf, hmem, Term.isBlank_eq_false_of_isTest htest⟩
  have hclause : c.numberedClause style start keyword =
      keyword ++ c.compile.numbered style start := if_pos hleaf
  have hmarked : c.compile.WellMarked := Fragment.closed_wellMarked.compileCondition hraws
  refine ⟨c.compile.numbered style start, ?_, htext.trans (by rw [hclause])⟩
  exact hmarked.numbered_ne_empty style start (c.isEmpty_compile_eq_false_iff.mpr hleaf)

/-- Behind other clauses a condition is written after its keyword, its placeholders numbered behind
theirs. -/
theorem text_render_append_clause {front : Fragment} (hfront : front.WellMarked) (keyword : String)
    (h : ∀ f ∈ c.raws, f.WellMarked) :
    ((front ++ c.clause keyword).render style).text =
      (front.render style).text ++ c.numberedClause style front.markerCount keyword := by
  have happend : (front ++ c.clause keyword).WellMarked :=
    Fragment.closed_wellMarked.append hfront (Fragment.closed_wellMarked.clause keyword h)
  rw [happend.text_render_eq_numbered, hfront.numbered_append, numbered_clause, Nat.zero_add,
    hfront.text_render_eq_numbered]

end Condition

namespace Select

/-- The clauses in front of the condition on rows. -/
def beforeFilter (s : Select) : Fragment :=
  s.headClause ++ .concat (s.joins.map Join.clause)

/-- The clauses behind the condition on rows. -/
def afterFilter (s : Select) (d : Dialect) : Fragment :=
  .concat [s.groupClause, s.having.clause " HAVING ", s.orderClause, s.limitClause d,
    s.offsetClause, s.lockClause d]

theorem clauses_eq_append (s : Select) (d : Dialect) :
    s.clauses d = s.beforeFilter ++ (s.filter.clause " WHERE " ++ s.afterFilter d) := by
  simp [clauses, beforeFilter, afterFilter, Fragment.append_assoc]

/-- The number of markers in the conditions of the joins. -/
def joinMarkerCount (s : Select) : Nat :=
  (s.joins.flatMap fun j => j.on.compile.markers).length

theorem markerCount_joins (joins : List Join) :
    (Fragment.concat (joins.map Join.clause)).markerCount =
      (joins.flatMap fun j => j.on.compile.markers).length := by
  induction joins with
  | nil => rfl
  | cons j rest ih =>
      rw [List.map_cons, Fragment.concat_cons, Fragment.markerCount_append, ih, Join.clause,
        Fragment.markerCount_append, Fragment.markerCount_ofText, Condition.markerCount_clause,
        Nat.zero_add, List.flatMap_cons, List.length_append]
      rfl

theorem markerCount_beforeFilter (s : Select) : s.beforeFilter.markerCount = s.joinMarkerCount := by
  rw [beforeFilter, Fragment.markerCount_append, s.isText_headClause.markerCount_eq_zero,
    Nat.zero_add, markerCount_joins]
  rfl

/-- The text of joins, the placeholders of each numbered behind those in front of it. -/
def numberedJoins : Nat → List Join → String
  | _, [] => ""
  | start, j :: rest =>
      " " ++ j.kind.keyword ++ " " ++ j.table.toString ++
        j.on.numberedClause style start " ON " ++
        numberedJoins (start + j.on.compile.markerCount) rest

/-- The text of a selection, written clause by clause. -/
def numbered (s : Select) (d : Dialect) : String :=
  s.headClause.text ++ numberedJoins d.placeholder 0 s.joins ++
    s.filter.numberedClause d.placeholder s.joinMarkerCount " WHERE " ++ s.groupClause.text ++
    s.having.numberedClause d.placeholder (s.joinMarkerCount + s.filter.compile.markerCount)
      " HAVING " ++
    s.orderClause.text ++ (s.limitClause d).text ++ s.offsetClause.text ++ (s.lockClause d).text

variable {s : Select} (d : Dialect)

theorem wellMarked_beforeFilter (h : ∀ f ∈ s.raws, f.WellMarked) : s.beforeFilter.WellMarked := by
  apply Fragment.closed_wellMarked.append (Fragment.closed_wellMarked.ofText _)
  apply Fragment.closed_wellMarked.concat
  intro f hf
  obtain ⟨j, hj, rfl⟩ := List.mem_map.mp hf
  exact Fragment.closed_wellMarked.joinClause fun g hg => h g (raws_on_subset hj hg)

/-- The text of a selection in front of its condition on rows, in the condition, and behind it. -/
theorem text_compile (h : ∀ f ∈ s.raws, f.WellMarked) :
    (s.compile d).text =
      s.beforeFilter.numbered d.placeholder 0 ++
        s.filter.numberedClause d.placeholder s.joinMarkerCount " WHERE " ++
        (s.afterFilter d).numbered d.placeholder
          (s.joinMarkerCount + s.filter.compile.markerCount) := by
  have hclauses : (s.clauses d).WellMarked :=
    Fragment.closed_wellMarked.concat (Fragment.closed_wellMarked.forall_selectClauses d h)
  have hfilter : (s.filter.clause " WHERE ").WellMarked :=
    Fragment.closed_wellMarked.clause _ fun f hf => h f (by simp [raws, hf])
  calc
    (s.compile d).text
    _ = (s.clauses d).numbered d.placeholder 0 := hclauses.text_render_eq_numbered d.placeholder
    _ = s.beforeFilter.numbered d.placeholder 0 ++
          ((s.filter.clause " WHERE ").numbered d.placeholder s.joinMarkerCount ++
            (s.afterFilter d).numbered d.placeholder
              (s.joinMarkerCount + s.filter.compile.markerCount)) := by
        rw [clauses_eq_append, (wellMarked_beforeFilter h).numbered_append,
          hfilter.numbered_append, markerCount_beforeFilter, Condition.markerCount_clause,
          Nat.zero_add]
    _ = _ := by rw [Condition.numbered_clause, String.append_assoc]

theorem numbered_joins {joins : List Join} (h : ∀ j ∈ joins, ∀ f ∈ j.on.raws, f.WellMarked) :
    (Fragment.concat (joins.map Join.clause)).numbered style start =
      numberedJoins style start joins := by
  induction joins generalizing start with
  | nil => simp [numberedJoins]
  | cons j rest ih =>
      have hj : j.clause.WellMarked :=
        Fragment.closed_wellMarked.joinClause (h j List.mem_cons_self)
      have hcount : j.clause.markerCount = j.on.compile.markerCount := by
        rw [Join.clause, Fragment.markerCount_append, Fragment.markerCount_ofText,
          Condition.markerCount_clause, Nat.zero_add]
      rw [List.map_cons, Fragment.concat_cons, hj.numbered_append, hcount,
        ih _ fun k hk => h k (List.mem_cons_of_mem _ hk), Join.clause,
        Fragment.numbered_ofText_append, Condition.numbered_clause, numberedJoins]

theorem numbered_beforeFilter (h : ∀ f ∈ s.raws, f.WellMarked) :
    s.beforeFilter.numbered style start =
      s.headClause.text ++ numberedJoins style start s.joins := by
  rw [beforeFilter, s.isText_headClause.numbered_append,
    numbered_joins style start fun j hj f hf => h f (raws_on_subset hj hf)]

theorem numbered_afterFilter (h : ∀ f ∈ s.raws, f.WellMarked) :
    (s.afterFilter d).numbered style start =
      s.groupClause.text ++ s.having.numberedClause style start " HAVING " ++
        s.orderClause.text ++ (s.limitClause d).text ++ s.offsetClause.text ++
        (s.lockClause d).text := by
  have hhaving : (s.having.clause " HAVING ").WellMarked :=
    Fragment.closed_wellMarked.clause _ fun f hf => h f (by simp [raws, hf])
  simp only [afterFilter, Fragment.concat_cons, Fragment.concat_nil, hhaving.numbered_append,
    s.isText_groupClause.numbered_append, s.isText_orderClause.numbered_append,
    (s.isText_limitClause d).numbered_append, s.isText_offsetClause.numbered_append,
    (s.isText_lockClause d).numbered_append, Condition.numbered_clause, Fragment.numbered_empty,
    String.append_empty, String.append_assoc]

theorem text_compile_eq_numbered (h : ∀ f ∈ s.raws, f.WellMarked) :
    (s.compile d).text = s.numbered d := by
  rw [text_compile d h, numbered_beforeFilter _ _ h, numbered_afterFilter _ _ d h, numbered]
  simp only [String.append_assoc]

end Select

namespace Update

/-- Each assignment has one marker. -/
theorem markerCount_setClause (u : Update) :
    u.setClause.markerCount = u.assignments.pairs.length := by
  have hset : ∀ f ∈ u.assignments.pairs.map assignment, f.isEmpty = false ∧ f.markerCount = 1 := by
    intro f hf
    obtain ⟨pair, -, rfl⟩ := List.mem_map.mp hf
    exact ⟨Fragment.isEmpty_bind _ _, Fragment.markerCount_bind _ _⟩
  rw [setClause, Fragment.markerCount_append, Fragment.markerCount_ofText, Nat.zero_add,
    Fragment.markerCount_join _ (fun f hf => (hset f hf).1) fun f hf => (hset f hf).2,
    List.length_map]

variable {u : Update} (d : Dialect)

theorem clauses_without_filter (u : Update) : { u with filter := ∅ }.clauses = u.setClause := by
  rw [clauses, Condition.clause_empty, Fragment.append_empty]
  rfl

/-- The condition of an update is written behind the update of all rows. -/
theorem text_compile (h : ∀ f ∈ u.filter.raws, f.WellMarked) :
    (u.compile d).text = ({ u with filter := ∅ }.compile d).text ++
      u.filter.numberedClause d.placeholder u.assignments.pairs.length " WHERE " := by
  have hset : u.setClause.WellMarked := Fragment.closed_wellMarked.setClause u
  have htext := Condition.text_render_append_clause d.placeholder hset " WHERE " h
  rw [markerCount_setClause] at htext
  rw [compile, compile, u.clauses_without_filter]
  exact htext

end Update

namespace Delete

variable {s : Delete} (d : Dialect)

theorem clauses_without_filter (s : Delete) :
    { s with filter := ∅ }.clauses = .ofText ("DELETE FROM " ++ s.table.toString) := by
  rw [clauses, Condition.clause_empty, Fragment.append_empty]

/-- The condition of a deletion is written behind the deletion of all rows. -/
theorem text_compile (h : ∀ f ∈ s.filter.raws, f.WellMarked) :
    (s.compile d).text = ({ s with filter := ∅ }.compile d).text ++
      s.filter.numberedClause d.placeholder 0 " WHERE " := by
  have hhead := Fragment.closed_wellMarked.ofText ("DELETE FROM " ++ s.table.toString)
  have htext := Condition.text_render_append_clause d.placeholder hhead " WHERE " h
  rw [compile, compile, s.clauses_without_filter]
  exact htext

end Delete

namespace Statement

/-- A condition leaves no text exactly where all its leaves are raw fragments without text. So in
every finished statement the keyword of a condition is written exactly where one of the leaves is
none of these. An update or a deletion whose condition holds a comparison or a membership at some
depth, even one in no values, has a WHERE with something behind it. -/
theorem keyword_written_iff_leaf (d : Dialect) :
    (∀ c : Condition, c.compile.isEmpty ↔ ∀ leaf ∈ c.leaves, leaf.isBlank) ∧
    (∀ s : Select, (∀ f ∈ s.raws, f.Reachable) → (s.compile d).text = s.numbered d) ∧
    (∀ u : Update, (∀ f ∈ u.filter.raws, f.Reachable) →
      let unfiltered : Update := { u with filter := ∅ }
      (u.compile d).text = (unfiltered.compile d).text ++
        u.filter.numberedClause d.placeholder u.assignments.pairs.length " WHERE " ∧
      ((∃ leaf ∈ u.filter.leaves, leaf.isTest) → ∃ tests, tests ≠ "" ∧
        (u.compile d).text = (unfiltered.compile d).text ++ (" WHERE " ++ tests))) ∧
    ∀ s : Delete, (∀ f ∈ s.filter.raws, f.Reachable) →
      let unfiltered : Delete := { s with filter := ∅ }
      (s.compile d).text = (unfiltered.compile d).text ++
        s.filter.numberedClause d.placeholder 0 " WHERE " ∧
      ((∃ leaf ∈ s.filter.leaves, leaf.isTest) → ∃ tests, tests ≠ "" ∧
        (s.compile d).text = (unfiltered.compile d).text ++ (" WHERE " ++ tests)) := by
  refine ⟨Condition.isEmpty_compile_iff, ?_, ?_, ?_⟩
  · intro s h
    exact s.text_compile_eq_numbered d fun f hf => (h f hf).wellMarked
  · intro u h unfiltered
    have hmarked : ∀ f ∈ u.filter.raws, f.WellMarked := fun f hf => (h f hf).wellMarked
    have htext := Update.text_compile d hmarked
    exact ⟨htext, Condition.exists_text_eq_of_isTest d.placeholder _ " WHERE " hmarked htext⟩
  · intro s h unfiltered
    have hmarked : ∀ f ∈ s.filter.raws, f.WellMarked := fun f hf => (h f hf).wellMarked
    have htext := Delete.text_compile d hmarked
    exact ⟨htext, Condition.exists_text_eq_of_isTest d.placeholder _ " WHERE " hmarked htext⟩

/-- Membership in no values keeps its WHERE, in a group beside an empty one and behind a raw
fragment without text. -/
theorem keyword_written_before_false :
    let filter : Condition := ⟨[(.and, .raw (.ofText "")),
      (.or, .group [(.and, .group []), (.or, .membership "id" [] false)])]⟩
    let blank : Condition := ⟨[(.or, .group [(.and, .raw (.ofText ""))])]⟩
    let s : Delete := ⟨.ofName "t", filter⟩
    let u : Update := ⟨.ofName "t", .single "n" (.int 1), filter⟩
    let r : Select := { Select.ofTable (.ofName "t") with filter := filter, having := blank }
    (∀ f ∈ s.filter.raws, f.Reachable) ∧ (∀ f ∈ u.filter.raws, f.Reachable) ∧
      (∀ f ∈ r.raws, f.Reachable) ∧ (∃ leaf ∈ filter.leaves, leaf.isTest) ∧
      (s.compile .postgres).text = "DELETE FROM t WHERE (1 = 0)" ∧
      (u.compile .postgres).text = "UPDATE t SET n = $1 WHERE (1 = 0)" ∧
      (r.compile .postgres).text = "SELECT * FROM t WHERE (1 = 0)" ∧
      r.numbered .postgres = "SELECT * FROM t WHERE (1 = 0)" ∧
      (∃ tests, tests ≠ "" ∧ (s.compile .postgres).text =
        ({ s with filter := ∅ }.compile .postgres).text ++ (" WHERE " ++ tests)) ∧
      ∃ tests, tests ≠ "" ∧ (u.compile .postgres).text =
        ({ u with filter := ∅ }.compile .postgres).text ++ (" WHERE " ++ tests) := by
  intro filter blank s u r
  have hblank : ∀ f ∈ [Fragment.ofText "", .ofText ""], f.Reachable := by
    intro f hf
    obtain rfl : f = .ofText "" := by simpa using hf
    exact .ofText ""
  have hfilter : ∀ f ∈ filter.raws, f.Reachable := fun f hf => hblank f (List.mem_cons_of_mem _ hf)
  have hleaf : ∃ leaf ∈ filter.leaves, leaf.isTest :=
    ⟨.membership "id" [] false, List.mem_cons_of_mem _ List.mem_cons_self, rfl⟩
  obtain ⟨-, hselect, hupdate, hdelete⟩ := keyword_written_iff_leaf .postgres
  have hdeleted : (s.compile .postgres).text = "DELETE FROM t WHERE (1 = 0)" := by decide +kernel
  have hupdated : (u.compile .postgres).text = "UPDATE t SET n = $1 WHERE (1 = 0)" := by
    decide +kernel
  have hselected : (r.compile .postgres).text = "SELECT * FROM t WHERE (1 = 0)" := by
    decide +kernel
  refine ⟨hfilter, hfilter, hblank, hleaf, hdeleted, hupdated, hselected, ?_, ?_, ?_⟩
  · rw [← hselect r hblank, hselected]
  · exact (hdelete s hfilter).2 hleaf
  · exact (hupdate u hfilter).2 hleaf

end Statement

end BoundSql
