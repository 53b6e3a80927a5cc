import BoundSql.Proofs.Fragment.Positions

/-!
# Rendering by slices

Rendering can also be done on the bytes: the text between two markers is a slice of it, from
behind the one to the other. A slice exists only where both offsets lie between two characters of
the text and do not cross. For a well marked fragment every slice exists, and the slices with the
placeholders between them are the rendered text.
-/

namespace BoundSql

/-- The text from one byte offset to another. There is none where an offset lies outside the text
or inside a character, or where the first is behind the second. -/
def slice? (text : String) (start stop : Nat) : Option String :=
  if h : (⟨start⟩ : String.Pos.Raw).IsValid text ∧ (⟨stop⟩ : String.Pos.Raw).IsValid text ∧
      start ≤ stop then
    some (text.extract ⟨⟨start⟩, h.1⟩ ⟨⟨stop⟩, h.2.1⟩)
  else none

/-- The slice between two cuts of a text is what stands between them. -/
theorem slice?_append (before piece after : String) :
    slice? (before ++ piece ++ after) before.utf8ByteSize
      (before.utf8ByteSize + piece.utf8ByteSize) = some piece := by
  have hstart : (⟨before.utf8ByteSize⟩ : String.Pos.Raw).IsValid (before ++ piece ++ after) := by
    rw [String.Pos.Raw.isValid_iff_exists_append]
    exact ⟨before, piece ++ after, by rw [String.append_assoc], rfl⟩
  have hstop : (⟨before.utf8ByteSize + piece.utf8ByteSize⟩ : String.Pos.Raw).IsValid
      (before ++ piece ++ after) := by
    rw [String.Pos.Raw.isValid_iff_exists_append]
    exact ⟨before ++ piece, after, rfl, by simp [String.rawEndPos]⟩
  rw [slice?, dif_pos ⟨hstart, hstop, Nat.le_add_right _ _⟩, Option.some.injEq,
    ← String.toByteArray_inj, String.toByteArray_extract]
  -- On bytes the slice is cut from the front and then from the end.
  have hfront := ByteArray.extract_append_size_add' (b := piece.toByteArray ++ after.toByteArray)
    (i := 0) (j := piece.utf8ByteSize) (String.size_toByteArray (s := before)).symm
  have hback := ByteArray.extract_append_eq_left (b := after.toByteArray)
    (String.size_toByteArray (s := piece)).symm
  rw [String.toByteArray_append, String.toByteArray_append, ByteArray.append_assoc]
  exact hfront.trans hback

namespace Fragment

section Pieces
variable (mark : Nat → String) {offset index : Nat} {cs : List Char} {markers : List Nat}

theorem cut_ne_nil (offset : Nat) (markers : List Nat) (cs : List Char) :
    cut offset markers cs ≠ [] := by
  fun_cases cut offset markers cs with
  | case4 offset marker markers c cs hne =>
      cases cut (offset + c.utf8Size) (marker :: markers) cs <;> simp [extendFirst]
  | _ => simp

@[simp] theorem weave_cut_nil (offset index : Nat) (cs : List Char) :
    weave mark index (cut offset [] cs) = cs := by
  simp [cut, weave]

theorem weave_extendFirst (c : Char) (parts : List (List Char)) :
    weave mark index (extendFirst c parts) = c :: weave mark index parts := by
  match parts with
  | [] => rfl
  | [_] => rfl
  | _ :: _ :: _ => simp [extendFirst, weave]

/-- A character in front of all markers is written as it stands. -/
theorem weave_cut_text (c : Char) (h : MarkedFrom (offset + c.utf8Size) cs markers) :
    weave mark index (cut offset markers (c :: cs)) =
      c :: weave mark index (cut (offset + c.utf8Size) markers cs) := by
  cases markers with
  | nil => simp
  | cons m rest =>
      have hle := h.le_of_mem m (by simp)
      have hpos := c.utf8Size_pos
      have hne : offset ≠ m := by omega
      rw [cut, if_neg hne, weave_extendFirst]

/-- The text of the index is written in the place of the character at a marker. -/
theorem weave_cut_mark (c : Char) :
    weave mark index (cut offset (offset :: markers) (c :: cs)) =
      (mark index).toList ++ weave mark (index + 1) (cut (offset + c.utf8Size) markers cs) := by
  rw [cut, if_pos rfl]
  cases h : cut (offset + c.utf8Size) markers cs with
  | nil => exact absurd h (cut_ne_nil _ _ _)
  | cons piece rest => simp [weave]

end Pieces

/-- The text behind an offset up to the end, with the placeholder of its index for the character at
each marker. Between two placeholders stands a slice of the text. -/
def slices? (style : Placeholder) (text : String) : Nat → Nat → List Nat → Option String
  | last, _, [] => slice? text last text.utf8ByteSize
  | last, index, m :: markers => do
      let piece ← slice? text last m
      let rest ← slices? style text (m + marker.utf8Size) (index + 1) markers
      return piece ++ style.text index ++ rest

/-- Rendering by slices. It fails where a slice does not exist. -/
def renderSlices? (style : Placeholder) (f : Fragment) : Option Fragment :=
  (slices? style f.text 0 1 f.markers).map fun text => ⟨text, f.values, []⟩

/-- The text behind the last placeholder is kept as `piece` until the next marker is reached. -/
theorem slices?_eq_weave (style : Placeholder) {offset : Nat} {cs : List Char}
    {markers : List Nat} (h : MarkedFrom offset cs markers) (before piece text : String)
    (index : Nat) (htext : text = before ++ piece ++ String.ofList cs)
    (hoffset : offset = before.utf8ByteSize + piece.utf8ByteSize) :
    slices? style text before.utf8ByteSize index markers =
      some (piece ++ String.ofList (weave style.text index (cut offset markers cs))) := by
  induction h generalizing before piece index with
  | nil =>
      subst htext
      have hslice := slice?_append before piece ""
      simpa [slices?] using hslice
  | text c rest ih =>
      rw [weave_cut_text _ c rest, String.ofList_cons, ← String.append_assoc]
      apply ih before (piece ++ String.singleton c) index
      · rw [htext, String.ofList_cons]
        simp only [String.append_assoc]
      · rw [hoffset, String.utf8ByteSize_append, String.utf8ByteSize_singleton, Nat.add_assoc]
  | @mark offset cs markers rest ih =>
      have hslice : slice? text before.utf8ByteSize offset = some piece := by
        rw [htext, hoffset]
        exact slice?_append before piece _
      have hrest := ih (before ++ piece ++ String.singleton marker) "" (index + 1)
        (by rw [htext, String.ofList_cons]; simp only [String.append_assoc, String.empty_append])
        (by simp [hoffset, Nat.add_assoc])
      have hlast : (before ++ piece ++ String.singleton marker).utf8ByteSize =
          offset + marker.utf8Size := by
        rw [hoffset, String.utf8ByteSize_append, String.utf8ByteSize_append,
          String.utf8ByteSize_singleton]
      rw [hlast] at hrest
      rw [slices?, hslice, hrest, weave_cut_mark]
      simp [String.append_assoc]

/-- All slices of a well marked fragment exist, and they give its rendering. -/
theorem WellMarked.renderSlices?_eq {f : Fragment} (hf : f.WellMarked) (style : Placeholder) :
    f.renderSlices? style = some (f.render style) := by
  have h := slices?_eq_weave style hf "" "" f.text 1 (by simp) rfl
  rw [renderSlices?, String.utf8ByteSize_empty] at *
  rw [h]
  rfl

end Fragment

end BoundSql
