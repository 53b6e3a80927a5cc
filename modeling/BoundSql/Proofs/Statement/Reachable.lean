import BoundSql.Proofs.Fragment.Slices
import BoundSql.Proofs.Statement.Raws

/-!
# Reachable fragments

The fragments that any run of the operations of this library ends in: those that make a fragment,
those that extend or join fragments, and those that compile terms, conditions and statements whose
raw fragments were made in this way. All of them are well marked, so they can be rendered by
slices.
-/

namespace BoundSql

namespace Fragment

/-- A fragment in which a run of operations ends. -/
inductive Reachable : Fragment → Prop
  | ofMarked (text : String) (values : List Value) : Reachable (ofMarked text values)
  | ofText (text : String) : Reachable (ofText text)
  | ofValue (value : Value) : Reachable (ofValue value)
  | empty : Reachable ∅
  | addText {f} (hf : Reachable f) (text : String) : Reachable (f.addText text)
  | addChar {f} (hf : Reachable f) (c : Char) : Reachable (f.addChar c)
  | bind {f} (hf : Reachable f) (value : Value) : Reachable (f.bind value)
  | append {f g} (hf : Reachable f) (hg : Reachable g) : Reachable (f ++ g)
  | parens {f} (hf : Reachable f) : Reachable f.parens
  | join (separator : String) {fragments} (hf : ∀ f ∈ fragments, Reachable f) :
      Reachable (join separator fragments)
  | joined {fragments} (hf : ∀ f ∈ fragments, Reachable f) : Reachable (joined fragments)
  | term {t : Term} (hraws : ∀ f ∈ t.raws, Reachable f) : Reachable t.compile
  | condition {c : Condition} (hraws : ∀ f ∈ c.raws, Reachable f) : Reachable c.compile
  | render {f} (hf : Reachable f) (d : Dialect) : Reachable (d.render f)
  | statement {s : Statement} (hraws : ∀ f ∈ s.raws, Reachable f) (d : Dialect) :
      Reachable (s.compile d)

/-- Every operation keeps fragments well marked. -/
theorem Reachable.wellMarked {f : Fragment} (h : f.Reachable) : f.WellMarked := by
  induction h with
  | ofMarked text values => exact wellMarked_ofMarked text values
  | ofText text => exact closed_wellMarked.ofText text
  | ofValue value => exact closed_wellMarked.ofValue value
  | empty => exact closed_wellMarked.empty
  | addText _ text ih => exact closed_wellMarked.addText ih text
  | addChar _ c ih => exact ih.addChar c
  | bind _ value ih => exact closed_wellMarked.bind ih value
  | append _ _ ihf ihg => exact closed_wellMarked.append ihf ihg
  | parens _ ih => exact closed_wellMarked.parens ih
  | join separator _ ih => exact closed_wellMarked.join separator ih
  | joined _ ih => exact closed_wellMarked.join " " ih
  | term _ ih => exact closed_wellMarked.compileTerm ih
  | condition _ ih => exact closed_wellMarked.compileCondition ih
  | render _ d _ => exact wellMarked_of_markers_eq_nil rfl
  | @statement s _ d _ =>
      rw [s.compile_eq_render]
      exact wellMarked_of_markers_eq_nil rfl

/-- The markers of a reachable fragment ascend strictly. Each is the byte offset of a position of
the text, in front of its end, at which a question mark stands. So every slice of the text that
rendering takes exists, in every dialect, and the slices give the rendered fragment. -/
theorem Reachable.markers_ascend_at_question_marks {f : Fragment} (h : f.Reachable) :
    f.markers.Pairwise (· < ·) ∧
      (∀ m ∈ f.markers, ∃ (p : f.text.Pos) (hp : p ≠ f.text.endPos),
        p.offset.byteIdx = m ∧ p.get hp = '?') ∧
      ∀ d : Dialect, f.renderSlices? d.placeholder = some (d.render f) := by
  have hmarked := h.wellMarked
  refine ⟨hmarked.pairwise_lt, ?_, ?_⟩
  · intro m hm
    exact hmarked.exists_pos hm
  · intro d
    exact hmarked.renderSlices?_eq d.placeholder

/-- The marker behind a letter of two bytes and a question mark that is text, in parentheses. -/
theorem marker_ascends_behind_wide_letter :
    let f := (Fragment.ofMarked "é ?? ?" [.null, .null]).parens
    f.Reachable ∧ f.text = "(é ? ?)" ∧ f.markers = [6] ∧ f.markers.Pairwise (· < ·) ∧
      (∀ m ∈ f.markers, ∃ (p : f.text.Pos) (hp : p ≠ f.text.endPos),
        p.offset.byteIdx = m ∧ p.get hp = '?') ∧
      ∀ d : Dialect, f.renderSlices? d.placeholder = some (d.render f) := by
  have h : (Fragment.ofMarked "é ?? ?" [.null, .null]).parens.Reachable :=
    .parens (.ofMarked "é ?? ?" [.null, .null])
  exact ⟨h, by decide, by decide, h.markers_ascend_at_question_marks⟩

end Fragment

end BoundSql
