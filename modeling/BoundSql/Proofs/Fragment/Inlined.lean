import BoundSql.Proofs.Fragment.Template

/-!
# Values written inline

A fragment is aligned where it holds one marker for each of its values. The values of an aligned
fragment can be spelled in the places of their markers; for fragments one after the other this is
done in each of them.
-/

namespace BoundSql

namespace Fragment

/-- The fragment is well marked and holds one marker for each value. -/
structure Aligned (f : Fragment) : Prop where
  wellMarked : f.WellMarked
  markerCount_eq : f.markerCount = f.values.length

/-- The text with each value spelled in the place of its marker, the first value at the first
marker. -/
def inlined (spell : Value → String) (f : Fragment) : String :=
  String.ofList (f.template.fill (f.values.map spell))

variable {f g : Fragment} (spell : Value → String)

theorem Aligned.holes_template (hf : f.Aligned) : f.template.holes = f.values.length := by
  rw [hf.wellMarked.holes_template, hf.markerCount_eq]

theorem Aligned.markers_eq_nil_iff (hf : f.Aligned) : f.markers = [] ↔ f.values = [] := by
  have hcount : f.markers.length = f.values.length := hf.markerCount_eq
  rw [← List.length_eq_zero_iff, hcount, List.length_eq_zero_iff]

theorem closed_aligned : Closed Aligned where
  ofText text := ⟨closed_wellMarked.ofText text, rfl⟩
  ofValue value := ⟨closed_wellMarked.ofValue value, rfl⟩
  append {f g} hf hg := by
    refine ⟨closed_wellMarked.append hf.wellMarked hg.wellMarked, ?_⟩
    have hcount : (f ++ g).markerCount = f.markerCount + g.markerCount := by simp [markerCount]
    rw [hcount, hf.markerCount_eq, hg.markerCount_eq, values_append, List.length_append]

theorem MarkedFrom.eq_nil {offset : Nat} {markers : List Nat} (h : MarkedFrom offset [] markers) :
    markers = [] := by
  cases h
  rfl

/-- An aligned fragment without text has no marker, so it binds no value. -/
theorem Aligned.eq_empty (hf : f.Aligned) (h : f.isEmpty) : f = ∅ := by
  have htext : f.text = "" := isEmpty_iff.mp h
  have hmarkers : f.markers = [] := by
    have hmarked := hf.wellMarked
    rw [WellMarked, htext, String.toList_empty] at hmarked
    exact hmarked.eq_nil
  have hvalues : f.values = [] := hf.markers_eq_nil_iff.mp hmarkers
  ext1
  · exact htext
  · exact hvalues
  · exact hmarkers

/-- Without text nothing is spelled. -/
theorem inlined_of_isEmpty (hf : f.isEmpty) : f.inlined spell = "" := by
  rw [inlined, template, isEmpty_iff.mp hf, String.toList_empty, templateFrom, Template.fill,
    String.ofList_nil]

@[simp] theorem inlined_ofText (text : String) : (ofText text).inlined spell = text := by
  rw [inlined, template_ofText, Template.fill_map_some, String.ofList_toList]

@[simp] theorem inlined_empty : (∅ : Fragment).inlined spell = "" :=
  inlined_ofText spell ""

@[simp] theorem inlined_ofValue (value : Value) : (ofValue value).inlined spell = spell value := by
  simp [inlined, Template.fill]

theorem IsText.inlined (hf : f.IsText) : f.inlined spell = f.text := by
  rw [hf.eq_ofText, inlined_ofText, text_ofText]

/-- Spelling the values of fragments one after the other. -/
theorem Aligned.inlined_append (hf : f.Aligned) (g : Fragment) :
    (f ++ g).inlined spell = f.inlined spell ++ g.inlined spell := by
  have hlen : (f.values.map spell).length = f.template.holes := by
    rw [List.length_map, hf.holes_template]
  rw [inlined, hf.wellMarked.template_append, values_append, List.map_append,
    Template.fill_append _ _ _ hlen, String.ofList_append]
  rfl

@[simp] theorem inlined_ofText_append (text : String) (g : Fragment) :
    (ofText text ++ g).inlined spell = text ++ g.inlined spell := by
  rw [(closed_aligned.ofText text).inlined_append, inlined_ofText]

theorem Aligned.inlined_bind (hf : f.Aligned) (value : Value) :
    (f.bind value).inlined spell = f.inlined spell ++ spell value := by
  rw [bind_eq_append, hf.inlined_append, inlined_ofValue]

theorem Aligned.inlined_parens (hf : f.Aligned) :
    f.parens.inlined spell = "(" ++ f.inlined spell ++ ")" := by
  have hopen := closed_aligned.append (closed_aligned.ofText "(") hf
  rw [parens_eq_append, hopen.inlined_append, inlined_ofText_append, inlined_ofText]

theorem inlined_concat {fragments : List Fragment} (h : ∀ f ∈ fragments, f.Aligned) :
    (concat fragments).inlined spell = String.join (fragments.map (inlined spell)) := by
  induction fragments with
  | nil => simp
  | cons f rest ih =>
      rw [concat_cons, (h f (by simp)).inlined_append, ih fun g hg => h g (by simp [hg])]
      simp

/-- Each further fragment is spelled behind the separator. -/
theorem inlined_concat_separated (separator : String) (first : Fragment) {rest : List Fragment}
    (h : ∀ f ∈ rest, f.Aligned) :
    first.inlined spell ++ (concat (rest.map fun f => ofText separator ++ f)).inlined spell =
      separator.intercalate ((first :: rest).map (inlined spell)) := by
  induction rest generalizing first with
  | nil => simp
  | cons second rest ih =>
      have haligned := closed_aligned.append (closed_aligned.ofText separator) (h second (by simp))
      have htail := ih second fun f hf => h f (by simp [hf])
      rw [List.map_cons, concat_cons, haligned.inlined_append, inlined_ofText_append,
        List.map_cons, List.map_cons, String.intercalate_cons_cons, ← List.map_cons, ← htail]
      simp only [String.append_assoc]

/-- Fragments that all have text are spelled with the separator between two of them. -/
theorem inlined_join (separator : String) {fragments : List Fragment}
    (h : ∀ f ∈ fragments, f.Aligned) (htext : ∀ f ∈ fragments, f.isEmpty = false) :
    (join separator fragments).inlined spell =
      separator.intercalate (fragments.map (inlined spell)) := by
  rw [join_eq_chain_of_not_isEmpty separator fragments htext]
  cases fragments with
  | nil => simp [chain]
  | cons first rest =>
      rw [List.map_cons, chain, (h first (by simp)).inlined_append, List.map_map]
      exact inlined_concat_separated spell separator first fun f hf => h f (by simp [hf])

end Fragment

end BoundSql
