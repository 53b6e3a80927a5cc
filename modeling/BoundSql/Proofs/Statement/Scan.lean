import BoundSql.Dialect.Backend
import BoundSql.Proofs.Condition.Quiet
import BoundSql.Proofs.Fragment.Inlined
import BoundSql.Proofs.Statement.Reachable

/-!
# Scanning finished statements

A statement takes over names and expressions as they stand, beside the raw fragments of its
conditions. Where a driver finds no placeholder in any of them but the markers of the raw
fragments, it reads the indices of the bound values in the finished statement, in order and each
of them once.
-/

namespace BoundSql

/-- The texts of a table that are taken over as they stand. -/
def Table.verbatim (t : Table) : List String :=
  t.name :: t.aliasName.toList

/-- The texts of a join that are taken over as they stand. -/
def Join.verbatim (j : Join) : List String :=
  j.table.verbatim ++ j.on.verbatim

/-- The texts of a selection that are taken over as they stand. -/
def Select.verbatim (s : Select) : List String :=
  s.table.verbatim ++ s.columns ++ s.joins.flatMap Join.verbatim ++ s.filter.verbatim ++
    s.groups ++ s.having.verbatim ++ s.order.map SortKey.column

/-- The texts of an insertion that are taken over as they stand. -/
def Insert.verbatim (i : Insert) : List String :=
  i.table.verbatim ++ i.assignments.columns ++ i.returned ++ [i.key]

/-- The texts of an update that are taken over as they stand. -/
def Update.verbatim (u : Update) : List String :=
  u.table.verbatim ++ u.assignments.columns ++ u.filter.verbatim

/-- The texts of a deletion that are taken over as they stand. -/
def Delete.verbatim (s : Delete) : List String :=
  s.table.verbatim ++ s.filter.verbatim

/-- The texts of a statement that are taken over as they stand, those of its conditions at any
depth. -/
def Statement.verbatim : Statement → List String
  | .select s => s.verbatim
  | .insert i => i.verbatim
  | .update u => u.verbatim
  | .delete s => s.verbatim

namespace Fragment.Quiet

variable {style : Placeholder}

theorem table {t : Table} (h : ∀ text ∈ t.verbatim, (Fragment.ofText text).Quiet style) :
    (Fragment.ofText t.toString).Quiet style := by
  obtain ⟨name, aliasName⟩ := t
  have hname := h name (by simp [Table.verbatim])
  cases aliasName with
  | none => exact hname
  | some other =>
      have hother := h other (by simp [Table.verbatim])
      exact (hname.text_append (.of_plain (by decide))).text_append hother

/-- Text behind a keyword is a clause of its own. -/
theorem text_clause {keyword text : String} (hkeyword : isKeyword keyword)
    (htext : (Fragment.ofText text).Quiet style) :
    (Fragment.ofText (keyword ++ text)).Attachable style := by
  rw [Fragment.ofText_append]
  exact .ofText_append hkeyword htext

theorem joinClause {j : Join} (htext : ∀ t ∈ j.verbatim, (Fragment.ofText t).Quiet style)
    (hraws : ∀ f ∈ j.on.raws, f.Quiet style) : j.clause.Attachable style := by
  have htable : (Fragment.ofText j.table.toString).Quiet style :=
    table fun t ht => htext t (by simp [Join.verbatim, ht])
  have hkeyword : isKeyword (" " ++ j.kind.keyword ++ " ") := by
    cases j.kind <;> decide
  have hon : (j.on.clause " ON ").Attachable style :=
    clause (by decide) (fun t ht => htext t (by simp [Join.verbatim, ht])) hraws
  have hhead := text_clause hkeyword htable
  exact hhead.append hon

section Select
variable {s : Select} {d : Dialect}

theorem headClause (h : ∀ t ∈ s.verbatim, (Fragment.ofText t).Quiet style) :
    s.headClause.Attachable style := by
  have hdistinct : isKeyword ("SELECT " ++ if s.distinct then "DISTINCT " else "") := by
    cases s.distinct <;> decide
  have hcolumns : (Fragment.ofText s.columnList).Quiet style := by
    unfold Select.columnList
    split
    · exact .of_plain (by decide)
    · exact text_intercalate (.of_plain (by decide)) fun t ht => h t (by simp [Select.verbatim, ht])
  have htable : (Fragment.ofText s.table.toString).Quiet style :=
    table fun t ht => h t (by simp [Select.verbatim, ht])
  have hfrom : (Fragment.ofText (" FROM " ++ s.table.toString)).Quiet style :=
    text_append (.of_plain (by decide)) htable
  have hclause := text_clause hdistinct (hcolumns.text_append hfrom)
  rwa [← String.append_assoc, ← String.append_assoc] at hclause

theorem groupClause (h : ∀ t ∈ s.verbatim, (Fragment.ofText t).Quiet style) :
    s.groupClause.Attachable style := by
  unfold Select.groupClause
  split
  · exact .empty
  · apply text_clause (by decide)
    exact text_intercalate (.of_plain (by decide)) fun t ht => h t (by simp [Select.verbatim, ht])

theorem orderClause (h : ∀ t ∈ s.verbatim, (Fragment.ofText t).Quiet style) :
    s.orderClause.Attachable style := by
  unfold Select.orderClause
  split
  · exact .empty
  · apply text_clause (by decide)
    apply text_intercalate (.of_plain (by decide))
    intro t ht
    obtain ⟨key, hkey, rfl⟩ := List.mem_map.mp ht
    have hcolumn := h key.column (by
      have hmem : key.column ∈ s.order.map SortKey.column := List.mem_map_of_mem hkey
      simp [Select.verbatim, hmem])
    have hdirection : (Fragment.ofText key.direction.keyword).Quiet style := by
      cases key.direction <;> exact .of_plain (by decide)
    exact (hcolumn.text_append (.of_plain (by decide))).text_append hdirection

theorem limitClause (h : ∀ all ∈ d.unboundedLimit, (Fragment.ofText all).Quiet style) :
    (s.limitClause d).Attachable style := by
  unfold Select.limitClause
  split
  · exact text_clause (by decide) (.of_digits _)
  · rename_i all _ _ hall
    exact text_clause (by decide) (h all hall)
  · exact .empty

theorem offsetClause : s.offsetClause.Attachable style := by
  unfold Select.offsetClause
  split
  · exact text_clause (by decide) (.of_digits _)
  · exact .empty

theorem lockClause : (s.lockClause d).Attachable style := by
  unfold Select.lockClause
  split
  · rename_i lock _
    obtain ⟨strength, wait⟩ := lock
    split
    · rcases wait with - | ⟨- | -⟩ <;> cases strength <;>
        exact text_clause (by decide) (.of_plain (by decide))
    · exact .empty
  · exact .empty

/-- The clauses of a selection are quiet where all that they take over is. -/
theorem selectClauses (hlimit : ∀ all ∈ d.unboundedLimit, (Fragment.ofText all).Quiet style)
    (htext : ∀ t ∈ s.verbatim, (Fragment.ofText t).Quiet style)
    (hraws : ∀ f ∈ s.raws, f.Quiet style) : (s.clauses d).Quiet style := by
  have hjoins : (Fragment.concat (s.joins.map Join.clause)).Attachable style := by
    apply Attachable.concat
    intro f hf
    obtain ⟨j, hj, rfl⟩ := List.mem_map.mp hf
    apply joinClause
    · intro t ht
      have hmem : t ∈ s.joins.flatMap Join.verbatim := List.mem_flatMap.mpr ⟨j, hj, ht⟩
      exact htext t (by simp [Select.verbatim, hmem])
    · exact fun f hf => hraws f (Select.raws_on_subset hj hf)
  have hfilter : (s.filter.clause " WHERE ").Attachable style :=
    clause (by decide)
      (fun t ht => htext t (by simp [Select.verbatim, ht]))
      fun f hf => hraws f (by simp [Select.raws, hf])
  have hhaving : (s.having.clause " HAVING ").Attachable style :=
    clause (by decide)
      (fun t ht => htext t (by simp [Select.verbatim, ht]))
      fun f hf => hraws f (by simp [Select.raws, hf])
  have hclauses : ∀ f ∈ [s.headClause, .concat (s.joins.map Join.clause),
      s.filter.clause " WHERE ", s.groupClause, s.having.clause " HAVING ", s.orderClause,
      s.limitClause d, s.offsetClause, s.lockClause d], f.Attachable style := by
    simpa using ⟨headClause htext, hjoins, hfilter, groupClause htext, hhaving,
      orderClause htext, limitClause hlimit, offsetClause, lockClause⟩
  exact (Attachable.concat hclauses).toQuiet

end Select

theorem valuesClause {i : Insert} (h : ∀ t ∈ i.verbatim, (Fragment.ofText t).Quiet style) :
    i.valuesClause.Quiet style := by
  have htable : (Fragment.ofText i.table.toString).Quiet style :=
    table fun t ht => h t (by simp [Insert.verbatim, ht])
  have hcolumns : (Fragment.ofText (String.intercalate ", " i.assignments.columns)).Quiet style :=
    text_intercalate (.of_plain (by decide)) fun t ht => h t (by simp [Insert.verbatim, ht])
  have hbound : (Fragment.join ", " (i.assignments.values.map .ofValue)).Quiet style := by
    apply join (by decide)
    intro f hf
    obtain ⟨value, -, rfl⟩ := List.mem_map.mp hf
    exact .ofValue value
  have hinto : (Fragment.ofText ("INSERT INTO " ++ i.table.toString)).Quiet style :=
    text_append (.of_plain (by decide)) htable
  exact (((hinto.text_append (.of_plain (by decide))).text_append hcolumns).text_append
    (.of_plain (by decide))).ofText_append hbound.parens

theorem returningClause {i : Insert} {d : Dialect}
    (h : ∀ t ∈ i.verbatim, (Fragment.ofText t).Quiet style) :
    (i.returningClause d).Attachable style := by
  have hcolumns : (Fragment.ofText (String.intercalate ", " i.returned)).Quiet style :=
    text_intercalate (.of_plain (by decide)) fun t ht => h t (by simp [Insert.verbatim, ht])
  have hname := h i.table.name (by simp [Insert.verbatim, Table.verbatim])
  have hkey := h i.key (by simp [Insert.verbatim])
  unfold Insert.returningClause
  split
  · exact .empty
  · cases d.insertReturning with
    | returning => exact text_clause (by decide) hcolumns
    | lastInsertId =>
        have hwhere : (Fragment.ofText (" WHERE " ++ (i.key ++ " = LAST_INSERT_ID()"))).Quiet
            style := text_append (.of_plain (by decide)) (hkey.text_append (.of_plain (by decide)))
        have hfrom : (Fragment.ofText (" FROM " ++ (i.table.name ++
            (" WHERE " ++ (i.key ++ " = LAST_INSERT_ID()"))))).Quiet style :=
          text_append (.of_plain (by decide)) (hname.text_append hwhere)
        simp only [String.append_assoc]
        exact text_clause (by decide) (hcolumns.text_append hfrom)

theorem setClause {u : Update} (h : ∀ t ∈ u.verbatim, (Fragment.ofText t).Quiet style) :
    u.setClause.Quiet style := by
  have htable : (Fragment.ofText u.table.toString).Quiet style :=
    table fun t ht => h t (by simp [Update.verbatim, ht])
  have hassignments : (Fragment.join ", " (u.assignments.pairs.map Update.assignment)).Quiet
      style := by
    apply join (by decide)
    intro f hf
    obtain ⟨pair, hpair, rfl⟩ := List.mem_map.mp hf
    have hcolumn := h pair.1 (by
      have hmem : pair.1 ∈ u.assignments.columns := List.mem_map_of_mem hpair
      simp [Update.verbatim, hmem])
    exact (hcolumn.text_append (.of_plain (by decide))).bind pair.2
  have hupdate : (Fragment.ofText ("UPDATE " ++ u.table.toString)).Quiet style :=
    text_append (.of_plain (by decide)) htable
  exact (hupdate.text_append (.of_plain (by decide))).ofText_append hassignments

/-- The clauses of a statement are quiet where all that they take over is. -/
theorem clauses {s : Statement} {d : Dialect}
    (hlimit : ∀ all ∈ d.unboundedLimit, (Fragment.ofText all).Quiet style)
    (htext : ∀ t ∈ s.verbatim, (Fragment.ofText t).Quiet style)
    (hraws : ∀ f ∈ s.raws, f.Quiet style) : (s.clauses d).Quiet style := by
  cases s with
  | select s => exact selectClauses hlimit htext hraws
  | insert i =>
      have hreturning : (i.returningClause d).Attachable style :=
        returningClause htext
      exact (valuesClause htext).append hreturning.toQuiet hreturning.apart
  | update u =>
      have hfilter : (u.filter.clause " WHERE ").Attachable style :=
        clause (by decide)
          (fun t ht => htext t (by simp [Statement.verbatim, Update.verbatim, ht])) hraws
      exact (setClause htext).append hfilter.toQuiet hfilter.apart
  | delete s =>
      have htable : (Fragment.ofText s.table.toString).Quiet style :=
        table fun t ht => htext t (by simp [Statement.verbatim, Delete.verbatim, ht])
      have hfilter : (s.filter.clause " WHERE ").Attachable style :=
        clause (by decide)
          (fun t ht => htext t (by simp [Statement.verbatim, Delete.verbatim, ht])) hraws
      exact (text_append (.of_plain (by decide)) htable).append hfilter.toQuiet hfilter.apart

end Fragment.Quiet

/-- The bound that stands for none has neither quotes nor placeholders. -/
theorem Backend.quiet_unboundedLimit (b : Backend) (style : Placeholder) :
    ∀ all ∈ b.dialect.unboundedLimit, (Fragment.ofText all).Quiet style := by
  intro all hall
  cases b with
  | postgres => exact absurd hall (Option.not_mem_none all)
  | mysql =>
      obtain rfl := Option.mem_some.mp hall
      exact .of_plain (by decide)
  | sqlite =>
      obtain rfl := Option.mem_some.mp hall
      exact .of_plain (by decide)

/-- In the finished statement a driver reads the indices from one to the number of bound values,
in this order. Here it finds no placeholder in the texts that the statement takes over, and none
in the raw fragments but their markers, of which there is one for each value; all of these leave
the driver outside quotes. -/
theorem Statement.scan_compile (s : Statement) (b : Backend)
    (htext : ∀ t ∈ s.verbatim, (Fragment.ofText t).template.quiet b.dialect.placeholder none)
    (hraws : ∀ f ∈ s.raws, f.Reachable ∧ f.markerCount = f.values.length ∧
      f.template.quiet b.dialect.placeholder none) :
    b.dialect.placeholder.scan none 0 (s.compile b.dialect).text.toList =
      some (List.range' 1 (s.compile b.dialect).values.length) := by
  have haligned : (s.clauses b.dialect).Aligned :=
    Fragment.closed_aligned.clauses b.dialect fun f hf =>
      ⟨(hraws f hf).1.wellMarked, (hraws f hf).2.1⟩
  have hquiet : (s.clauses b.dialect).Quiet b.dialect.placeholder :=
    .clauses (b.quiet_unboundedLimit _)
      (fun t ht => ⟨Fragment.closed_wellMarked.ofText t, htext t ht⟩)
      fun f hf => ⟨(hraws f hf).1.wellMarked, (hraws f hf).2.2⟩
  have hvalues : (s.compile b.dialect).values = (s.clauses b.dialect).values := by
    rw [s.compile_eq_render]
    rfl
  rw [hvalues, ← haligned.markerCount_eq, s.compile_eq_render]
  exact hquiet.scan_render

/-- Signs in a quoted name and in a quoted run of the raw fragment are passed over, as is its
question mark, which is no placeholder of PostgreSQL. They are passed over in an update, and in a
selection with values in the conditions of its join, its rows and its groups. -/
theorem Statement.scan_compile_past_quoted_signs :
    let s : Statement := .update ⟨.ofName "\"t$5\"", .single "n" (.int 1),
      ⟨[(.and, .raw (.ofMarked "tags ?? ? OR note = '$9'" [.int 2]))]⟩⟩
    let q : Statement := .select { Select.ofTable (.ofName "\"t$5\"") with
      joins := [⟨.left, .ofName "u", ⟨[(.and, .compare "a" .eq (.int 1))]⟩⟩]
      filter := ⟨[(.and, .raw (.ofMarked "tags ?? ? OR note = '$9'" [.int 2]))]⟩
      having := ⟨[(.and, .compare "b" .lt (.int 3))]⟩ }
    ((s.compile .postgres).text = "UPDATE \"t$5\" SET n = $1 WHERE tags ? $2 OR note = '$9'" ∧
      (∀ t ∈ s.verbatim, (Fragment.ofText t).template.quiet .numbered none) ∧
      (∀ f ∈ s.raws, f.Reachable ∧ f.markerCount = f.values.length ∧
        f.template.quiet .numbered none) ∧
      Placeholder.numbered.scan none 0 (s.compile .postgres).text.toList = some [1, 2]) ∧
    (q.compile .postgres).text = "SELECT * FROM \"t$5\" LEFT JOIN u ON a = $1 " ++
        "WHERE tags ? $2 OR note = '$9' HAVING b < $3" ∧
      (∀ t ∈ q.verbatim, (Fragment.ofText t).template.quiet .numbered none) ∧
      (∀ f ∈ q.raws, f.Reachable ∧ f.markerCount = f.values.length ∧
        f.template.quiet .numbered none) ∧
      Placeholder.numbered.scan none 0 (q.compile .postgres).text.toList = some [1, 2, 3] := by
  intro s q
  have hraw (f : Fragment) (hf : f = .ofMarked "tags ?? ? OR note = '$9'" [.int 2]) :
      f.Reachable ∧ f.markerCount = f.values.length ∧ f.template.quiet .numbered none := by
    subst hf
    exact ⟨.ofMarked _ _, by decide, by decide⟩
  have htext : ∀ t ∈ s.verbatim, (Fragment.ofText t).template.quiet .numbered none := by decide
  have hraws : ∀ f ∈ s.raws, f.Reachable ∧ f.markerCount = f.values.length ∧
      f.template.quiet .numbered none := fun f hf =>
    hraw f (by simpa [s, raws, Condition.raws, Term.raws, Term.rawsEntries] using hf)
  have hselected : ∀ t ∈ q.verbatim, (Fragment.ofText t).template.quiet .numbered none := by decide
  have hconditions : ∀ f ∈ q.raws, f.Reachable ∧ f.markerCount = f.values.length ∧
      f.template.quiet .numbered none := fun f hf =>
    hraw f (by
      simpa [q, raws, Select.raws, Select.ofTable, Condition.raws, Term.raws, Term.rawsEntries]
        using hf)
  exact ⟨⟨by decide +kernel, htext, hraws, s.scan_compile .postgres htext hraws⟩,
    by decide +kernel, hselected, hconditions, q.scan_compile .postgres hselected hconditions⟩

end BoundSql
