import BoundSql.Dialect.Preset
import BoundSql.Proofs.Statement.Reachable
import BoundSql.Proofs.Fragment.Numbered

/-!
# Statements in different dialects

Only the bounds and the lock of a selection and the returned columns of an insertion consult the
dialect before a statement is rendered, and rendering consults its placeholders only. So two
dialects that agree on these four settings finish every statement alike, and one that writes
question marks differs from one that numbers its placeholders in nothing but the markers.
-/

namespace BoundSql

namespace Fragment

/-- Text behind a well marked fragment is rendered as it stands. -/
theorem WellMarked.text_render_append_ofText {f : Fragment} (hf : f.WellMarked)
    (style : Placeholder) (text : String) :
    ((f ++ ofText text).render style).text = (f.render style).text ++ text := by
  have happend := closed_wellMarked.append hf (closed_wellMarked.ofText text)
  have hcount : (f ++ ofText text).markerCount = f.markerCount := by simp [markerCount]
  have hlen : ((List.range' 1 f.markerCount).map style.text).length = f.template.holes := by
    rw [hf.holes_template]
    simp
  have hfill := Template.fill_append f.template (text.toList.map some) [] hlen
  rw [List.append_nil, Template.fill_map_some] at hfill
  rw [happend.text_render, hcount, hf.template_append, template_ofText, hfill, hf.text_render,
    String.ofList_append, String.ofList_toList]

end Fragment

namespace Select

variable (s : Select) {d e : Dialect}

theorem limitClause_congr (h : d.unboundedLimit = e.unboundedLimit) :
    s.limitClause d = s.limitClause e := by
  unfold limitClause
  rw [h]

/-- The bound of a dialect is written for an offset without a limit only. -/
theorem limitClause_eq_of_limit_or_no_offset (h : s.limit.isSome ∨ s.offset = none) :
    s.limitClause d = s.limitClause e := by
  unfold limitClause
  cases hlimit : s.limit with
  | some n => rfl
  | none =>
      have hoffset : s.offset = none := by simpa [hlimit] using h
      rw [hoffset]

theorem lockClause_congr (h : d.locking = e.locking) : s.lockClause d = s.lockClause e := by
  unfold lockClause
  rw [h]

theorem lockClause_of_no_lock (h : s.lock = none) : s.lockClause d = ∅ := by
  simp [lockClause, h]

theorem lockClause_of_not_locking (h : d.locking = false) : s.lockClause d = ∅ := by
  unfold lockClause
  cases s.lock <;> simp [h]

theorem clauses_congr (hlimit : s.limitClause d = s.limitClause e)
    (hlock : s.lockClause d = s.lockClause e) : s.clauses d = s.clauses e := by
  rw [clauses, hlimit, hlock, clauses]

/-- Without its lock a selection has the same clauses but for the lock. -/
theorem clauses_without_lock (h : s.lockClause d = ∅) :
    s.clauses d = { s with lock := none }.clauses d := by
  rw [clauses, h]
  rfl

end Select

namespace Insert

variable (i : Insert) {d e : Dialect}

theorem returningClause_congr (h : d.insertReturning = e.insertReturning) :
    i.returningClause d = i.returningClause e := by
  unfold returningClause
  rw [h]

theorem returningClause_of_nothing_returned (h : i.returned = []) : i.returningClause d = ∅ := by
  simp [returningClause, h]

theorem clauses_congr (h : i.returningClause d = i.returningClause e) :
    i.clauses d = i.clauses e := by
  rw [clauses, h, clauses]

theorem clauses_without_returned (d : Dialect) :
    { i with returned := [] }.clauses d = i.valuesClause := by
  rw [clauses, returningClause_of_nothing_returned _ rfl, Fragment.append_empty]
  rfl

/-- What hands back columns is text behind the insertion that hands back none. -/
theorem clauses_eq_append (d : Dialect) :
    i.clauses d =
      { i with returned := [] }.clauses d ++ .ofText (i.returningClause d).text := by
  rw [clauses_without_returned, clauses, ← (i.isText_returningClause d).eq_ofText]

end Insert

namespace Statement

/-- A statement for which no dialect has clauses of its own: there is no lock, no offset without a
limit and no column that is handed back. -/
def Neutral : Statement → Prop
  | .select s => s.lock = none ∧ (s.limit.isSome ∨ s.offset = none)
  | .insert i => i.returned = []
  | .update _ => True
  | .delete _ => True

variable {d e : Dialect}

theorem clauses_congr (s : Statement) (hlocking : d.locking = e.locking)
    (hreturning : d.insertReturning = e.insertReturning)
    (hlimit : d.unboundedLimit = e.unboundedLimit) : s.clauses d = s.clauses e := by
  cases s with
  | select s => exact s.clauses_congr (s.limitClause_congr hlimit) (s.lockClause_congr hlocking)
  | insert i => exact i.clauses_congr (i.returningClause_congr hreturning)
  | update u => rfl
  | delete s => rfl

theorem Neutral.clauses_eq {s : Statement} (h : s.Neutral) : s.clauses d = s.clauses e := by
  cases s with
  | select s =>
      have hlock : s.lockClause d = s.lockClause e := by
        rw [s.lockClause_of_no_lock h.1, s.lockClause_of_no_lock h.1]
      exact s.clauses_congr (s.limitClause_eq_of_limit_or_no_offset h.2) hlock
  | insert i =>
      apply i.clauses_congr
      rw [i.returningClause_of_nothing_returned h, i.returningClause_of_nothing_returned h]
  | update u => rfl
  | delete s => rfl

/-- The clauses that consult the dialect are only text. -/
theorem values_clauses (s : Statement) (d e : Dialect) :
    (s.clauses d).values = (s.clauses e).values := by
  cases s with
  | select s =>
      simp [clauses, Select.clauses, (s.isText_limitClause d).1, (s.isText_limitClause e).1,
        (s.isText_lockClause d).1, (s.isText_lockClause e).1]
  | insert i =>
      simp [clauses, Insert.clauses, (i.isText_returningClause d).1,
        (i.isText_returningClause e).1]
  | update u => rfl
  | delete s => rfl

/-- Two dialects bind the same values. They finish every statement alike where they agree on
placeholders, locks, returned columns and the bound of a lone offset. From question marks to
numbers a neutral statement changes at its markers only: the numbered text is made of the slices
of the other one between its markers, with the placeholder of its index for each marker. A lock is
left out where there are none, and returned columns are text behind the insertion. -/
theorem compile_across_dialects (d e : Dialect) :
    (∀ s : Statement, (s.compile d).values = (s.compile e).values) ∧
    (d.placeholder = e.placeholder → d.locking = e.locking →
      d.insertReturning = e.insertReturning → d.unboundedLimit = e.unboundedLimit →
      ∀ s : Statement, s.compile d = s.compile e) ∧
    (d.placeholder = .question → e.placeholder = .numbered →
      ∀ s : Statement, s.Neutral → (∀ f ∈ s.raws, f.Reachable) →
        (s.compile d).text = (s.clauses d).text ∧
        Fragment.slices? .numbered (s.compile d).text 0 1 (s.clauses d).markers =
          some (s.compile e).text) ∧
    (d.locking = false → ∀ s : Select,
      Statement.compile (.select s) d = Statement.compile (.select { s with lock := none }) d) ∧
    ∀ i : Insert,
      let unreturned : Insert := { i with returned := [] }
      (i.compile d).text = (unreturned.compile d).text ++ (i.returningClause d).text ∧
      (i.compile d).values = (unreturned.compile d).values ∧
      (i.clauses d).markers = (unreturned.clauses d).markers := by
  refine ⟨?_, ?_, ?_, ?_, ?_⟩
  · intro s
    rw [compile_eq_render, compile_eq_render]
    exact s.values_clauses d e
  · intro hplaceholder hlocking hreturning hlimit s
    rw [compile_eq_render, compile_eq_render, s.clauses_congr hlocking hreturning hlimit,
      Dialect.render, hplaceholder, Dialect.render]
  · intro hquestion hnumbered s hneutral hraws
    have hmarked : (s.clauses d).WellMarked :=
      Fragment.closed_wellMarked.clauses d fun f hf => (hraws f hf).wellMarked
    have htext : (s.compile d).text = (s.clauses d).text := by
      rw [compile_eq_render, Dialect.render, hquestion, hmarked.text_render_question]
    refine ⟨htext, ?_⟩
    obtain ⟨text, hslices, hrender⟩ :=
      Option.map_eq_some_iff.mp (hmarked.renderSlices?_eq .numbered)
    have hcompile : (s.compile e).text = text := by
      rw [compile_eq_render, Dialect.render, hnumbered, ← hneutral.clauses_eq (d := d), ← hrender]
    rw [htext, hcompile, hslices]
  · intro hlocking s
    rw [compile_eq_render, compile_eq_render]
    exact congrArg d.render (s.clauses_without_lock (s.lockClause_of_not_locking hlocking))
  · intro i unreturned
    have hclauses := i.clauses_eq_append d
    have hmarked : (unreturned.clauses d).WellMarked := by
      rw [i.clauses_without_returned d]
      exact Fragment.closed_wellMarked.valuesClause i
    refine ⟨?_, ?_, ?_⟩
    · rw [Insert.compile, hclauses]
      exact hmarked.text_render_append_ofText d.placeholder _
    · rw [Insert.compile, hclauses]
      simp [Insert.compile, Dialect.render, unreturned]
    · rw [hclauses]
      simp [unreturned]

/-- A deletion with a question mark of its own, also in a dialect that quotes identifiers in another
way, a selection with a lock, and an insertion that hands back a column in two ways. -/
theorem compile_across_sqlite_and_postgres :
    let s : Statement := .delete ⟨.ofName "t", ⟨[(.and, .raw (.ofMarked "tags ?? ?" [.int 1])),
      (.or, .membership "id" [.int 2, .int 3] true)]⟩⟩
    let locked : Select := (Select.ofTable (.ofName "t")).forUpdate
    let other : Dialect := { Dialect.sqlite with name := "other", identifierQuote := '[' }
    let i : Insert := ((Insert.into (.ofName "t")).value "a" (.int 1)).returning ["id"]
    let unreturned : Insert := { i with returned := [] }
    (Dialect.sqlite.placeholder = .question ∧ Dialect.postgres.placeholder = .numbered ∧
      s.Neutral ∧ (∀ f ∈ s.raws, f.Reachable) ∧ Dialect.sqlite.locking = false) ∧
      (s.compile .sqlite).values = (s.compile .postgres).values ∧
      s.compile .sqlite = s.compile other ∧
      Fragment.slices? .numbered (s.compile .sqlite).text 0 1 (s.clauses .sqlite).markers =
        some (s.compile .postgres).text ∧
      Statement.compile (.select locked) .sqlite =
        Statement.compile (.select { locked with lock := none }) .sqlite ∧
      ((i.compile .sqlite).text = (unreturned.compile .sqlite).text ++ " RETURNING id" ∧
        (i.compile .sqlite).values = (unreturned.compile .sqlite).values ∧
        (i.clauses .sqlite).markers = (unreturned.clauses .sqlite).markers) ∧
      (i.compile .mysql).text = (unreturned.compile .mysql).text ++
          "; SELECT id FROM t WHERE id = LAST_INSERT_ID()" ∧
        (i.compile .mysql).values = (unreturned.compile .mysql).values ∧
        (i.clauses .mysql).markers = (unreturned.clauses .mysql).markers := by
  intro s locked other i unreturned
  have hraws : ∀ f ∈ s.raws, f.Reachable := by
    intro f hf
    obtain rfl : f = .ofMarked "tags ?? ?" [.int 1] := by
      simpa [s, raws, Condition.raws, Term.raws, Term.rawsEntries] using hf
    exact .ofMarked "tags ?? ?" [.int 1]
  obtain ⟨hvalues, -, hnumbers, hlock, hreturned⟩ := compile_across_dialects .sqlite .postgres
  have hother := (compile_across_dialects .sqlite other).2.1 rfl rfl rfl rfl s
  obtain ⟨-, -, -, -, hselected⟩ := compile_across_dialects .mysql .postgres
  exact ⟨⟨rfl, rfl, trivial, hraws, rfl⟩, hvalues s, hother, (hnumbers rfl rfl s trivial hraws).2,
    hlock rfl locked, hreturned i, hselected i⟩

end Statement

end BoundSql
