import BoundSql.Proofs.Fragment.Slices

/-!
# Templates

The template of a fragment is its text with a hole in the place of each marker. The template of
fragments one after the other is that of the one after that of the other, so what is filled into
the holes of a compiled fragment can be followed back to the part that made the hole. Rendering
fills the holes with placeholders.
-/

namespace BoundSql

/-- Text with holes: its characters, and nothing where a hole is. -/
abbrev Template := List (Option Char)

namespace Template

/-- The number of holes. -/
def holes (t : Template) : Nat :=
  t.count none

/-- The characters with a text in each hole, from the front. A hole for which there is no text is
left out. -/
def fill : Template → List String → List Char
  | [], _ => []
  | some c :: rest, texts => c :: fill rest texts
  | none :: rest, [] => fill rest []
  | none :: rest, text :: texts => text.toList ++ fill rest texts

@[simp] theorem holes_some_cons (c : Char) (t : Template) : holes (some c :: t) = t.holes := by
  simp [holes]

@[simp] theorem holes_none_cons (t : Template) : holes (none :: t) = t.holes + 1 := by
  simp [holes]

/-- Text without holes is its own filling. -/
theorem fill_map_some (cs : List Char) (texts : List String) :
    fill (cs.map some) texts = cs := by
  induction cs with
  | nil => rfl
  | cons c cs ih => rw [List.map_cons, fill, ih]

/-- Templates one after the other are filled with texts one after the other. -/
theorem fill_append (s t : Template) {us : List String} (vs : List String)
    (h : us.length = s.holes) : fill (s ++ t) (us ++ vs) = fill s us ++ fill t vs := by
  induction s generalizing us with
  | nil =>
      obtain rfl := List.eq_nil_of_length_eq_zero h
      rfl
  | cons symbol s ih =>
      cases symbol with
      | some c =>
          rw [holes_some_cons] at h
          rw [List.cons_append, fill, fill, ih h, List.cons_append]
      | none =>
          rw [holes_none_cons] at h
          obtain ⟨u, us, rfl⟩ := List.exists_cons_of_length_eq_add_one h
          have hus : us.length = holes s := by simpa using h
          rw [List.cons_append, List.cons_append, fill, fill, ih hus, List.append_assoc]

/-- A template with a value for each hole is some text and, for each value in order, the text
behind its hole, whatever is filled in for the values. -/
theorem exists_text_behind {α : Type} (t : Template) (values : List α)
    (h : t.holes = values.length) :
    ∃ (front : String) (behind : List (α × String)), values = behind.map Prod.fst ∧
      ∀ spell : Nat → α → String, String.ofList (t.fill (values.mapIdx spell)) =
        front ++ String.join (behind.mapIdx fun i part => spell i part.1 ++ part.2) := by
  induction t generalizing values with
  | nil =>
      obtain rfl := List.eq_nil_of_length_eq_zero h.symm
      exact ⟨"", [], rfl, fun _ => rfl⟩
  | cons symbol t ih =>
      cases symbol with
      | some c =>
          rw [holes_some_cons] at h
          obtain ⟨front, behind, hvalues, hfill⟩ := ih values h
          refine ⟨String.singleton c ++ front, behind, hvalues, fun spell => ?_⟩
          rw [fill, String.ofList_cons, hfill, String.append_assoc]
      | none =>
          rw [holes_none_cons] at h
          obtain ⟨value, values, rfl⟩ := List.exists_cons_of_length_eq_add_one h.symm
          have hlen : holes t = values.length := by simpa using h
          obtain ⟨front, behind, hvalues, hfill⟩ := ih values hlen
          -- The text in front of the next hole stands behind this value.
          refine ⟨"", (value, front) :: behind, by simp [hvalues], fun spell => ?_⟩
          rw [List.mapIdx_cons, fill, String.ofList_append, String.ofList_toList,
            hfill fun i => spell (i + 1)]
          simp [String.append_assoc]

end Template

namespace Fragment

/-- Text from a byte offset with a hole in the place of the character at each marker. -/
def templateFrom : Nat → List Nat → List Char → Template
  | _, _, [] => []
  | offset, [], c :: cs => some c :: templateFrom (offset + c.utf8Size) [] cs
  | offset, m :: markers, c :: cs =>
      if offset = m then none :: templateFrom (offset + c.utf8Size) markers cs
      else some c :: templateFrom (offset + c.utf8Size) (m :: markers) cs

/-- The text with a hole in the place of each marker. -/
def template (f : Fragment) : Template :=
  templateFrom 0 f.markers f.text.toList

section From
variable {offset : Nat} {cs : List Char} {markers : List Nat}

theorem templateFrom_text (c : Char) (h : ∀ m ∈ markers, offset + c.utf8Size ≤ m) :
    templateFrom offset markers (c :: cs) =
      some c :: templateFrom (offset + c.utf8Size) markers cs := by
  cases markers with
  | nil => rfl
  | cons m rest =>
      have hle := h m (by simp)
      have hpos := c.utf8Size_pos
      have hne : offset ≠ m := by omega
      rw [templateFrom, if_neg hne]

theorem templateFrom_mark (c : Char) :
    templateFrom offset (offset :: markers) (c :: cs) =
      none :: templateFrom (offset + c.utf8Size) markers cs := by
  rw [templateFrom, if_pos rfl]

theorem templateFrom_no_markers (offset : Nat) (cs : List Char) :
    templateFrom offset [] cs = cs.map some := by
  induction cs generalizing offset with
  | nil => rfl
  | cons c cs ih => rw [templateFrom, ih, List.map_cons]

/-- Holes move with the text. -/
theorem templateFrom_shift (bytes offset : Nat) (markers : List Nat) (cs : List Char) :
    templateFrom (bytes + offset) (markers.map (bytes + ·)) cs =
      templateFrom offset markers cs := by
  fun_induction templateFrom offset markers cs with
  | case1 => rfl
  | case2 offset c cs ih =>
      rw [List.map_nil, templateFrom, Nat.add_assoc]
      exact congrArg _ ih
  | case3 markers c cs offset ih =>
      rw [List.map_cons, templateFrom, if_pos rfl, Nat.add_assoc, ih]
  | case4 offset m markers c cs hne ih =>
      have hne' : bytes + offset ≠ bytes + m := by omega
      rw [List.map_cons, templateFrom, if_neg hne', Nat.add_assoc]
      exact congrArg _ ih

/-- There is a hole for each marker. -/
theorem MarkedFrom.holes_templateFrom (h : MarkedFrom offset cs markers) :
    (templateFrom offset markers cs).holes = markers.length := by
  induction h with
  | nil => rfl
  | text c rest ih => rw [templateFrom_text c rest.le_of_mem, Template.holes_some_cons, ih]
  | mark rest ih => rw [templateFrom_mark, Template.holes_none_cons, ih, List.length_cons]

/-- Text whose markers all stand behind other text continues its template. -/
theorem MarkedFrom.templateFrom_append (h : MarkedFrom offset cs markers) {ds : List Char}
    {more : List Nat} (hmore : ∀ m ∈ more, offset + (String.ofList cs).utf8ByteSize ≤ m) :
    templateFrom offset (markers ++ more) (cs ++ ds) =
      templateFrom offset markers cs ++
        templateFrom (offset + (String.ofList cs).utf8ByteSize) more ds := by
  induction h with
  | nil => simp [templateFrom]
  | @text offset cs markers c rest ih =>
      rw [utf8ByteSize_ofList_cons, ← Nat.add_assoc] at hmore ⊢
      have hall : ∀ m ∈ markers ++ more, offset + c.utf8Size ≤ m := by
        intro m hm
        rcases List.mem_append.mp hm with hm | hm
        · exact rest.le_of_mem m hm
        · exact Nat.le_trans (Nat.le_add_right _ _) (hmore m hm)
      rw [List.cons_append, templateFrom_text c hall, templateFrom_text c rest.le_of_mem, ih hmore,
        List.cons_append]
  | mark rest ih =>
      rw [utf8ByteSize_ofList_cons, ← Nat.add_assoc] at hmore ⊢
      rw [List.cons_append, List.cons_append, templateFrom_mark, templateFrom_mark, ih hmore,
        List.cons_append]

/-- Pieces of text with a text for each index between them fill the holes with these texts. -/
theorem MarkedFrom.weave_cut_eq_fill (h : MarkedFrom offset cs markers) (mark : Nat → String)
    (index : Nat) :
    weave mark index (cut offset markers cs) =
      (templateFrom offset markers cs).fill ((List.range' index markers.length).map mark) := by
  induction h generalizing index with
  | nil => rfl
  | text c rest ih =>
      rw [weave_cut_text mark c rest, templateFrom_text c rest.le_of_mem, Template.fill, ih]
  | mark rest ih =>
      rw [weave_cut_mark, templateFrom_mark, List.length_cons, List.range'_succ, List.map_cons,
        Template.fill, ih]

end From

@[simp] theorem template_ofText (text : String) :
    (ofText text).template = text.toList.map some :=
  templateFrom_no_markers 0 text.toList

@[simp] theorem template_ofValue (value : Value) : (ofValue value).template = [none] := by
  rw [template, text_ofValue, String.toList_singleton, markers_ofValue, templateFrom_mark,
    templateFrom]

/-- The template of fragments one after the other. -/
theorem WellMarked.template_append {f : Fragment} (hf : f.WellMarked) (g : Fragment) :
    (f ++ g).template = f.template ++ g.template := by
  have hsize : (String.ofList f.text.toList).utf8ByteSize = f.text.utf8ByteSize := by
    rw [String.ofList_toList]
  have hshift := templateFrom_shift f.text.utf8ByteSize 0 g.markers g.text.toList
  rw [template, text_append, String.toList_append, markers_append,
    MarkedFrom.templateFrom_append hf, hsize, Nat.zero_add]
  · exact congrArg (f.template ++ ·) hshift
  · intro m hm
    obtain ⟨n, -, rfl⟩ := List.mem_map.mp hm
    rw [hsize]
    omega

theorem WellMarked.holes_template {f : Fragment} (hf : f.WellMarked) :
    f.template.holes = f.markerCount :=
  MarkedFrom.holes_templateFrom hf

/-- Rendering fills the holes with the placeholders of the indices from one. -/
theorem WellMarked.text_render {f : Fragment} (hf : f.WellMarked) (style : Placeholder) :
    (f.render style).text =
      String.ofList (f.template.fill ((List.range' 1 f.markerCount).map style.text)) :=
  congrArg String.ofList (MarkedFrom.weave_cut_eq_fill hf style.text 1)

end Fragment

end BoundSql
