import BoundSql.Dialect.Backend
import BoundSql.Proofs.Condition.Places
import BoundSql.Proofs.Fragment.RenderedPart
import BoundSql.Proofs.Statement.Reachable

/-!
# Rendering a part before the whole

A finished statement is a fragment, so it can be written into another statement: behind or in front
of other fragments, or in a place of a condition. The values are then those of the statement that is
rendered as a whole. The placeholders are not always: those of the part are final and are not
counted again. The text is the same where the dialect writes question marks, and otherwise where the
part binds no value or nothing around it does.
-/

namespace BoundSql

/-- A fragment in which a run of operations ends, with one marker for each of its values. -/
def Fragment.Balanced (f : Fragment) : Prop :=
  f.Reachable ∧ f.markerCount = f.values.length

theorem Fragment.Balanced.aligned {f : Fragment} (hf : f.Balanced) : f.Aligned :=
  ⟨hf.1.wellMarked, hf.2⟩

/-- What can be rendered on its own. -/
inductive Renderable
  | fragment (f : Fragment)
  | statement (s : Statement)

namespace Renderable

variable (d : Dialect)

/-- The fragments from which a part is made. -/
def raws : Renderable → List Fragment
  | .fragment f => [f]
  | .statement s => s.raws

/-- The part with its markers. -/
def marked : Renderable → Fragment
  | .fragment f => f
  | .statement s => s.clauses d

/-- The part with placeholders for its markers. -/
def rendered : Renderable → Fragment
  | .fragment f => d.render f
  | .statement s => s.compile d

theorem rendered_eq_render (p : Renderable) : p.rendered d = d.render (p.marked d) := by
  cases p with
  | fragment f => rfl
  | statement s => exact s.compile_eq_render d

theorem aligned_marked {p : Renderable} (h : ∀ f ∈ p.raws, f.Aligned) : (p.marked d).Aligned := by
  cases p with
  | fragment f => exact h f List.mem_cons_self
  | statement s => exact Fragment.closed_aligned.clauses d h

end Renderable

/-- What becomes of a part between two fragments, where it is rendered before the whole and where it
is rendered with it. -/
structure RenderedFirst (d : Dialect) (part : Renderable) (before after early late : Fragment) :
    Prop where
  values_eq : early.values = late.values
  values_late : late.values = before.values ++ (part.marked d).values ++ after.values
  /-- The part keeps its placeholders, and what is behind it is numbered as though it had none. -/
  text_early : early.text = (d.render before).text ++ (part.rendered d).text ++
    after.numbered d.placeholder before.markerCount
  /-- The placeholders of the whole are numbered from one, one for each value. -/
  text_late : late.text = (before ++ part.marked d ++ after).numbered d.placeholder 0
  markerCount_late : (before ++ part.marked d ++ after).markerCount = late.values.length
  text_eq_iff : early.text = late.text ↔
    d.placeholder = .question ∨ (part.marked d).values = [] ∨
      before.values = [] ∧ after.values = []

/-- Rendering a part between two fragments, before them or with them. -/
theorem Renderable.renderedFirst (d : Dialect) {part : Renderable} {before after : Fragment}
    (hbefore : before.Aligned) (hpart : (part.marked d).Aligned) (hafter : after.Aligned) :
    RenderedFirst d part before after (d.render (before ++ part.rendered d ++ after))
      (d.render (before ++ part.marked d ++ after)) := by
  have hwhole : (before ++ part.marked d ++ after).Aligned :=
    Fragment.closed_aligned.append (Fragment.closed_aligned.append hbefore hpart) hafter
  rw [part.rendered_eq_render]
  refine ⟨rfl, rfl, ?_, ?_, ?_, ?_⟩
  · rw [part.rendered_eq_render, Dialect.render, Dialect.render, Dialect.render,
      Fragment.text_render_early d.placeholder hbefore.wellMarked _ hafter.wellMarked,
      hbefore.wellMarked.text_render_eq_numbered]
  · exact hwhole.wellMarked.text_render_eq_numbered d.placeholder
  · exact hwhole.markerCount_eq
  · rw [← hpart.markers_eq_nil_iff, ← hbefore.markers_eq_nil_iff, ← hafter.markers_eq_nil_iff]
    exact Fragment.text_render_early_eq_iff d.placeholder hbefore.wellMarked hpart.wellMarked
      hafter.wellMarked

namespace Statement

/-- The place of a raw fragment in a condition of a statement. -/
inductive Place
  | on (s : Select) (front : List Join) (kind : JoinKind) (table : Table) (place : Condition.Place)
      (back : List Join)
  | filter (s : Select) (place : Condition.Place)
  | having (s : Select) (place : Condition.Place)
  | update (u : Update) (place : Condition.Place)
  | delete (s : Delete) (place : Condition.Place)

namespace Place

open Fragment (Framing closed_aligned)

/-- The statement with a fragment in the place. -/
def fill : Place → Fragment → Statement
  | .on s front kind table place back, f =>
      .select { s with joins := front ++ ⟨kind, table, place.fill f⟩ :: back }
  | .filter s place, f => .select { s with filter := place.fill f }
  | .having s place, f => .select { s with having := place.fill f }
  | .update u place, f => .update { u with filter := place.fill f }
  | .delete s place, f => .delete { s with filter := place.fill f }

theorem framing_joins (front back : List Join) (kind : JoinKind) (table : Table)
    {place : Condition.Place}
    (h : ∀ j ∈ front ++ ⟨kind, table, place.fill ∅⟩ :: back, ∀ f ∈ j.on.raws, f.Aligned) :
    Framing fun f => .concat ((front ++ ⟨kind, table, place.fill f⟩ :: back).map Join.clause) := by
  have hon : Framing fun f => (place.fill f).compile :=
    Condition.Place.framing_compile (h _ (List.mem_append_right _ List.mem_cons_self))
  have hclause : Framing fun f => (⟨kind, table, place.fill f⟩ : Join).clause :=
    (hon.clause " ON ").behind
      (closed_aligned.ofText (" " ++ kind.keyword ++ " " ++ table.toString)) fun f _ => rfl
  have haligned : ∀ f ∈ (front ++ ⟨kind, table, place.fill ∅⟩ :: back).map Join.clause,
      f.Aligned := by
    intro f hf
    obtain ⟨j, hj, rfl⟩ := List.mem_map.mp hf
    exact closed_aligned.joinClause (h j hj)
  rw [List.map_append, List.map_cons] at haligned
  simpa only [List.map_append, List.map_cons] using
    hclause.concat (front.map Join.clause) (back.map Join.clause) haligned

/-- A place in a statement keeps what is written there between the same fragments. -/
theorem framing_clauses {place : Place} (d : Dialect) (h : ∀ f ∈ (place.fill ∅).raws, f.Aligned) :
    Framing fun f => (place.fill f).clauses d := by
  cases place with
  | on s front kind table place back =>
      let blank : Select := { s with joins := front ++ ⟨kind, table, place.fill ∅⟩ :: back }
      have hraws : ∀ f ∈ blank.raws, f.Aligned := h
      have hjoins := framing_joins front back kind table fun j hj f hf =>
        hraws f (Select.raws_on_subset hj hf)
      exact hjoins.concat [s.headClause]
        [s.filter.clause " WHERE ", s.groupClause, s.having.clause " HAVING ", s.orderClause,
          s.limitClause d, s.offsetClause, s.lockClause d]
        (closed_aligned.forall_selectClauses d hraws)
  | filter s place =>
      let blank : Select := { s with filter := place.fill ∅ }
      have hraws : ∀ f ∈ blank.raws, f.Aligned := h
      have hfilter : Framing fun f => (place.fill f).compile :=
        Condition.Place.framing_compile fun f hf => hraws f (by simp [Select.raws, blank, hf])
      exact (hfilter.clause " WHERE ").concat [s.headClause, .concat (s.joins.map Join.clause)]
        [s.groupClause, s.having.clause " HAVING ", s.orderClause, s.limitClause d, s.offsetClause,
          s.lockClause d]
        (closed_aligned.forall_selectClauses d hraws)
  | having s place =>
      let blank : Select := { s with having := place.fill ∅ }
      have hraws : ∀ f ∈ blank.raws, f.Aligned := h
      have hhaving : Framing fun f => (place.fill f).compile :=
        Condition.Place.framing_compile fun f hf => hraws f (by simp [Select.raws, blank, hf])
      exact (hhaving.clause " HAVING ").concat
        [s.headClause, .concat (s.joins.map Join.clause), s.filter.clause " WHERE ", s.groupClause]
        [s.orderClause, s.limitClause d, s.offsetClause, s.lockClause d]
        (closed_aligned.forall_selectClauses d hraws)
  | update u place =>
      exact ((Condition.Place.framing_compile h).clause " WHERE ").behind
        (closed_aligned.setClause u) fun f _ => rfl
  | delete s place =>
      exact ((Condition.Place.framing_compile h).clause " WHERE ").behind
        (closed_aligned.ofText ("DELETE FROM " ++ s.table.toString)) fun f _ => rfl

end Place

/-- A part that is rendered before the whole leaves the values of the whole as they are. The text
is that of the whole rendered at once exactly where the dialect writes question marks, or the part
binds no value, or nothing around it does. This holds of fragments one after the other and of every
place in the conditions of statements, for fragments and for finished statements. -/
theorem early_rendering_agrees_iff :
    (∀ b : Backend, b.dialect.placeholder = .question ↔ b ≠ .postgres) ∧
    ∀ (d : Dialect) (part : Renderable) (lead trail : Fragment),
      (∀ f ∈ part.raws, f.Balanced) → lead.Balanced → trail.Balanced →
      RenderedFirst d part lead trail (d.render (lead ++ part.rendered d ++ trail))
        (d.render (lead ++ part.marked d ++ trail)) ∧
      ∀ place : Place, (∀ f ∈ (place.fill ∅).raws, f.Balanced) →
        ∃ before after : Fragment,
          (place.fill (lead ++ part.marked d ++ trail)).clauses d =
            before ++ part.marked d ++ after ∧
          RenderedFirst d part before after
            ((place.fill (lead ++ part.rendered d ++ trail)).compile d)
            ((place.fill (lead ++ part.marked d ++ trail)).compile d) := by
  refine ⟨fun b => by cases b <;> decide, ?_⟩
  intro d part lead trail hraws hlead htrail
  have hpart : (part.marked d).Aligned := part.aligned_marked d fun f hf => (hraws f hf).aligned
  refine ⟨Renderable.renderedFirst d hlead.aligned hpart htrail.aligned, fun place hplace => ?_⟩
  have haround : ∀ f ∈ (place.fill ∅).raws, f.Aligned := fun f hf => (hplace f hf).aligned
  have hframing := place.framing_clauses d haround
  have hempty : ((place.fill ∅).clauses d).Aligned := Fragment.closed_aligned.clauses d haround
  have hgap : ((place.fill (lead ++ ∅ ++ trail)).clauses d).Aligned :=
    hframing.aligned hempty (Fragment.closed_aligned.append
      (Fragment.closed_aligned.append hlead.aligned Fragment.closed_aligned.empty) htrail.aligned)
  obtain ⟨before, after, hbefore, hafter, hmarked, hrendered⟩ :=
    (hframing.pushed hlead.aligned htrail.aligned).exists_append hgap hpart d.placeholder
  have hearly : (place.fill (lead ++ part.rendered d ++ trail)).compile d =
      d.render (before ++ part.rendered d ++ after) := by
    rw [compile_eq_render, part.rendered_eq_render]
    exact congrArg d.render hrendered
  have hlate : (place.fill (lead ++ part.marked d ++ trail)).compile d =
      d.render (before ++ part.marked d ++ after) := by
    rw [compile_eq_render, hmarked]
  refine ⟨before, after, hmarked, ?_⟩
  rw [hearly, hlate]
  exact Renderable.renderedFirst d hbefore hpart hafter

/-- A finished selection in parentheses in front of a comparison: with question marks the statement
is the one that is rendered at once, with numbers it has the same values. -/
theorem embedded_selection_keeps_values :
    let inner : Statement :=
      .select (Filtered.andWhere "a" .eq (.int 1) (Select.ofTable (.ofName "u")))
    let place : Place :=
      .filter (Select.ofTable (.ofName "t")) (.entry [] .and [(.and, .compare "b" .eq (.int 2))])
    let lead : Fragment := .ofText "EXISTS ("
    let trail : Fragment := .ofText ")"
    (∀ f ∈ (Renderable.statement inner).raws, f.Balanced) ∧ lead.Balanced ∧ trail.Balanced ∧
      (∀ f ∈ (place.fill ∅).raws, f.Balanced) ∧
      ((place.fill (lead ++ inner.compile .sqlite ++ trail)).compile .sqlite).text =
        "SELECT * FROM t WHERE EXISTS (SELECT * FROM u WHERE a = ?) AND b = ?" ∧
      ((place.fill (lead ++ inner.compile .sqlite ++ trail)).compile .sqlite).text =
        ((place.fill (lead ++ inner.clauses .sqlite ++ trail)).compile .sqlite).text ∧
      ((place.fill (lead ++ inner.compile .postgres ++ trail)).compile .postgres).values =
        ((place.fill (lead ++ inner.clauses .postgres ++ trail)).compile .postgres).values := by
  intro inner place lead trail
  have hlead : lead.Balanced := ⟨.ofText _, rfl⟩
  have htrail : trail.Balanced := ⟨.ofText _, rfl⟩
  have hinner : ∀ f ∈ (Renderable.statement inner).raws, f.Balanced := fun f hf => nomatch hf
  have hplace : ∀ f ∈ (place.fill ∅).raws, f.Balanced := by
    intro f hf
    obtain rfl : f = ∅ := by
      simpa [place, Place.fill, Condition.Place.fill, raws, Select.raws, Condition.raws,
        Term.rawsEntries, Term.raws, Select.ofTable] using hf
    exact ⟨.empty, rfl⟩
  have hfirst (d : Dialect) :=
    early_rendering_agrees_iff.2 d (.statement inner) lead trail hinner hlead htrail
  obtain ⟨_, _, -, hsqlite⟩ := (hfirst .sqlite).2 place hplace
  obtain ⟨_, _, -, hpostgres⟩ := (hfirst .postgres).2 place hplace
  exact ⟨hinner, hlead, htrail, hplace, by decide +kernel, hsqlite.text_eq_iff.mpr (.inl rfl),
    hpostgres.values_eq⟩

/-- A fragment in front of another, and a finished selection in parentheses in front of a
comparison: what is behind the rendered part is numbered from one again. -/
theorem rendered_part_not_counted :
    let a : Fragment := .ofMarked "a = ?" [.int 1]
    let b : Fragment := .ofMarked " AND b = ?" [.int 2]
    let inner : Select := Filtered.andWhere "a" .eq (.int 1) (Select.ofTable (.ofName "u"))
    let found : Fragment := .ofText "EXISTS (" ++ inner.compile .postgres ++ .ofText ")"
    let outer : Select := Filtered.andWhere "b" .eq (.int 2)
      (Filtered.andWhereRaw found (Select.ofTable (.ofName "t")))
    a.Balanced ∧ b.Balanced ∧
      (Dialect.postgres.render (Dialect.postgres.render a ++ b)).text = "a = $1 AND b = $1" ∧
      (Dialect.postgres.render (a ++ b)).text = "a = $1 AND b = $2" ∧
      (Dialect.postgres.render (Dialect.postgres.render a ++ b)).text ≠
        (Dialect.postgres.render (a ++ b)).text ∧
      (outer.compile .postgres).values = [.int 1, .int 2] ∧
      (outer.compile .postgres).text =
        "SELECT * FROM t WHERE EXISTS (SELECT * FROM u WHERE a = $1) AND b = $1" := by
  intro a b inner found outer
  have hearly : (Dialect.postgres.render (Dialect.postgres.render a ++ b)).text =
      "a = $1 AND b = $1" := by decide +kernel
  have hlate : (Dialect.postgres.render (a ++ b)).text = "a = $1 AND b = $2" := by decide +kernel
  refine ⟨⟨.ofMarked _ _, by decide⟩, ⟨.ofMarked _ _, by decide⟩, hearly, hlate, ?_, ?_, ?_⟩
  · rw [hearly, hlate]
    decide
  · rfl
  · decide +kernel

end Statement

end BoundSql
