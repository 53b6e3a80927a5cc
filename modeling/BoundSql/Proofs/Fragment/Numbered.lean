import BoundSql.Proofs.Fragment.Template

/-!
# Placeholders numbered from an index

A part of a statement stands behind other parts, and its placeholders are numbered behind theirs.
So fragments one after the other are rendered as one part after the other, each numbered from the
markers in front of it.
-/

namespace BoundSql

/-- A placeholder is some text. -/
theorem Placeholder.text_ne_empty (style : Placeholder) (index : Nat) : style.text index ≠ "" := by
  intro h
  have hlist := congrArg String.toList h
  cases style <;> simp [text] at hlist

/-- A template that is not empty is filled to some text, where each hole gets some. -/
theorem Template.fill_ne_nil {t : Template} (ht : t ≠ []) {texts : List String}
    (hlen : texts.length = t.holes) (htexts : ∀ s ∈ texts, s ≠ "") : t.fill texts ≠ [] := by
  cases t with
  | nil => exact absurd rfl ht
  | cons symbol t =>
      cases symbol with
      | some c => simp [fill]
      | none =>
          rw [holes_none_cons] at hlen
          obtain ⟨s, texts, rfl⟩ := List.exists_cons_of_length_eq_add_one hlen
          have hs : s.toList ≠ [] := by simpa using htexts s List.mem_cons_self
          rw [fill]
          exact List.append_ne_nil_of_left_ne_nil hs _

namespace Fragment

/-- The text with a placeholder for each marker. The first placeholder has the index behind
`start`. -/
def numbered (style : Placeholder) (start : Nat) (f : Fragment) : String :=
  String.ofList (f.template.fill ((List.range' (start + 1) f.markerCount).map style.text))

variable {f g : Fragment} (style : Placeholder) (start : Nat)

@[simp] theorem markerCount_empty : (∅ : Fragment).markerCount = 0 := rfl

@[simp] theorem markerCount_ofText (text : String) : (ofText text).markerCount = 0 := rfl

@[simp] theorem markerCount_append (f g : Fragment) :
    (f ++ g).markerCount = f.markerCount + g.markerCount := by
  simp [markerCount]

@[simp] theorem markerCount_bind (f : Fragment) (value : Value) :
    (f.bind value).markerCount = f.markerCount + 1 := by
  simp [markerCount]

theorem markerCount_concat {fragments : List Fragment} (h : ∀ f ∈ fragments, f.markerCount = 1) :
    (concat fragments).markerCount = fragments.length := by
  induction fragments with
  | nil => rfl
  | cons f rest ih =>
      rw [concat_cons, markerCount_append, h f List.mem_cons_self,
        ih fun g hg => h g (List.mem_cons_of_mem _ hg), List.length_cons, Nat.add_comm]

/-- Where each fragment has text and one marker, their join has a marker for each of them. -/
theorem markerCount_join (separator : String) {fragments : List Fragment}
    (htext : ∀ f ∈ fragments, f.isEmpty = false) (h : ∀ f ∈ fragments, f.markerCount = 1) :
    (join separator fragments).markerCount = fragments.length := by
  rw [join_eq_chain_of_not_isEmpty separator fragments htext]
  cases fragments with
  | nil => rfl
  | cons first rest =>
      have hrest : ∀ g ∈ rest.map fun f => linked (separator, f), g.markerCount = 1 := by
        intro g hg
        obtain ⟨f, hf, rfl⟩ := List.mem_map.mp hg
        rw [linked, markerCount_append, markerCount_ofText, h f (List.mem_cons_of_mem _ hf)]
      rw [List.map_cons, chain_cons, markerCount_append, h first List.mem_cons_self,
        List.map_map, Nat.add_comm]
      exact congrArg (· + 1) ((markerCount_concat hrest).trans (List.length_map _))

theorem IsText.markerCount_eq_zero (hf : f.IsText) : f.markerCount = 0 := by
  rw [markerCount, hf.2, List.length_nil]

/-- Rendering numbers the placeholders from one. -/
theorem WellMarked.text_render_eq_numbered (hf : f.WellMarked) :
    (f.render style).text = f.numbered style 0 :=
  hf.text_render style

@[simp] theorem numbered_ofText (text : String) : (ofText text).numbered style start = text := by
  rw [numbered, template_ofText, Template.fill_map_some, String.ofList_toList]

@[simp] theorem numbered_empty : (∅ : Fragment).numbered style start = "" :=
  numbered_ofText style start ""

/-- Behind a fragment numbering goes on with the index behind its markers. -/
theorem WellMarked.numbered_append (hf : f.WellMarked) (g : Fragment) :
    (f ++ g).numbered style start =
      f.numbered style start ++ g.numbered style (start + f.markerCount) := by
  have hlen : ((List.range' (start + 1) f.markerCount).map style.text).length =
      f.template.holes := by
    rw [List.length_map, List.length_range', hf.holes_template]
  have hindices : List.range' (start + 1) (f.markerCount + g.markerCount) =
      List.range' (start + 1) f.markerCount ++
        List.range' (start + f.markerCount + 1) g.markerCount := by
    rw [← List.range'_append_1, Nat.add_right_comm]
  calc
    (f ++ g).numbered style start
    _ = String.ofList ((f.template ++ g.template).fill
          ((List.range' (start + 1) f.markerCount).map style.text ++
            (List.range' (start + f.markerCount + 1) g.markerCount).map style.text)) := by
        rw [numbered, hf.template_append, markerCount_append, hindices, List.map_append]
    _ = f.numbered style start ++ g.numbered style (start + f.markerCount) := by
        rw [Template.fill_append _ _ _ hlen, String.ofList_append]
        rfl

@[simp] theorem numbered_ofText_append (text : String) (g : Fragment) :
    (ofText text ++ g).numbered style start = text ++ g.numbered style start := by
  rw [(closed_wellMarked.ofText text).numbered_append, numbered_ofText, markerCount_ofText,
    Nat.add_zero]

theorem IsText.numbered_append (hf : f.IsText) (g : Fragment) :
    (f ++ g).numbered style start = f.text ++ g.numbered style start := by
  have htext := numbered_ofText_append style start f.text g
  rwa [← hf.eq_ofText] at htext

theorem template_ne_nil (h : f.isEmpty = false) : f.template ≠ [] := by
  cases hcs : f.text.toList with
  | nil => simp [isEmpty, String.toList_eq_nil_iff.mp hcs] at h
  | cons c cs =>
      rw [template, hcs]
      cases f.markers with
      | nil => simp [templateFrom]
      | cons m markers =>
          rw [templateFrom]
          split <;> simp

/-- A fragment with text leaves some, whatever its placeholders are. -/
theorem WellMarked.numbered_ne_empty (hf : f.WellMarked) (h : f.isEmpty = false) :
    f.numbered style start ≠ "" := by
  intro hempty
  have hlist := congrArg String.toList hempty
  rw [numbered, String.toList_ofList, String.toList_empty] at hlist
  refine Template.fill_ne_nil (template_ne_nil h) ?_ ?_ hlist
  · rw [List.length_map, List.length_range', hf.holes_template]
  · intro s hs
    obtain ⟨index, -, rfl⟩ := List.mem_map.mp hs
    exact style.text_ne_empty index

/-- Rendering keeps text, and makes none out of nothing. -/
theorem WellMarked.isEmpty_render (hf : f.WellMarked) : (f.render style).isEmpty = f.isEmpty := by
  cases h : f.isEmpty with
  | true =>
      have htemplate : f.template = [] := by
        rw [template, isEmpty_iff.mp h, String.toList_empty, templateFrom]
      rw [isEmpty_iff, hf.text_render_eq_numbered, numbered, htemplate, Template.fill,
        String.ofList_nil]
  | false =>
      rw [Bool.eq_false_iff, ne_eq, isEmpty_iff, hf.text_render_eq_numbered]
      exact hf.numbered_ne_empty style 0 h

/-- Question marks in the holes of marked text give the text back. -/
theorem MarkedFrom.fill_question {offset : Nat} {cs : List Char} {markers : List Nat}
    (h : MarkedFrom offset cs markers) (index : Nat) :
    (templateFrom offset markers cs).fill
      ((List.range' index markers.length).map Placeholder.question.text) = cs := by
  induction h generalizing index with
  | nil => rfl
  | text c rest ih => rw [templateFrom_text c rest.le_of_mem, Template.fill, ih]
  | mark rest ih =>
      rw [templateFrom_mark, List.length_cons, List.range'_succ, List.map_cons, Template.fill, ih]
      simp [Placeholder.text, marker]

/-- Where placeholders are question marks, the text of a well marked fragment is finished, whatever
stands in front of it. -/
theorem WellMarked.numbered_question (hf : f.WellMarked) : f.numbered .question start = f.text := by
  rw [numbered, template, markerCount, MarkedFrom.fill_question hf (start + 1),
    String.ofList_toList]

theorem WellMarked.text_render_question (hf : f.WellMarked) :
    (f.render .question).text = f.text := by
  rw [hf.text_render_eq_numbered, hf.numbered_question]

/-- Text without markers has no index to be numbered with. -/
theorem numbered_of_markers_eq_nil (h : f.markers = []) : f.numbered style start = f.text := by
  rw [numbered, template, h, templateFrom_no_markers, Template.fill_map_some, String.ofList_toList]

end Fragment

end BoundSql
