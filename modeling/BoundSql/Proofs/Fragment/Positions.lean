import BoundSql.Fragment.Marked
import BoundSql.Fragment.Placeholder
import BoundSql.Proofs.Fragment.Concatenation

/-!
# Positions of markers

Markers are kept as byte offsets into text in which a character may take several bytes. In a well
marked fragment they ascend strictly, and each is the offset of a character of the text that is a
question mark. Reading marked text gives such fragments, and so does everything that fragments are
built with.
-/

namespace BoundSql

namespace Fragment

/-- Text from a byte offset with the offsets of its markers, from the front: a marker stands at
the offset of a question mark of the text. -/
inductive MarkedFrom : Nat → List Char → List Nat → Prop
  | nil {offset} : MarkedFrom offset [] []
  | text {offset cs markers} (c : Char) (rest : MarkedFrom (offset + c.utf8Size) cs markers) :
      MarkedFrom offset (c :: cs) markers
  | mark {offset cs markers} (rest : MarkedFrom (offset + marker.utf8Size) cs markers) :
      MarkedFrom offset (marker :: cs) (offset :: markers)

/-- The markers of a fragment stand at question marks of its text, in order. -/
def WellMarked (f : Fragment) : Prop :=
  MarkedFrom 0 f.text.toList f.markers

theorem utf8ByteSize_ofList_cons (c : Char) (cs : List Char) :
    (String.ofList (c :: cs)).utf8ByteSize = c.utf8Size + (String.ofList cs).utf8ByteSize := by
  rw [String.ofList_cons, String.utf8ByteSize_append, String.utf8ByteSize_singleton]

namespace MarkedFrom

variable {offset : Nat} {cs ds : List Char} {markers more : List Nat}

/-- No marker stands in front of the text. -/
theorem le_of_mem (h : MarkedFrom offset cs markers) : ∀ m ∈ markers, offset ≤ m := by
  induction h with
  | nil => simp
  | text c rest ih =>
      intro m hm
      exact Nat.le_trans (Nat.le_add_right _ _) (ih m hm)
  | mark rest ih =>
      intro m hm
      rcases List.mem_cons.mp hm with rfl | hm
      · exact Nat.le_refl _
      · exact Nat.le_trans (Nat.le_add_right _ _) (ih m hm)

/-- Text without markers. -/
theorem of_no_markers (offset : Nat) (cs : List Char) : MarkedFrom offset cs [] := by
  induction cs generalizing offset with
  | nil => exact .nil
  | cons c cs ih => exact .text c (ih _)

/-- Markers move with the text. -/
theorem shift (h : MarkedFrom offset cs markers) (bytes : Nat) :
    MarkedFrom (bytes + offset) cs (markers.map (bytes + ·)) := by
  induction h with
  | nil => exact .nil
  | text c rest ih =>
      rw [← Nat.add_assoc] at ih
      exact .text c ih
  | mark rest ih =>
      rw [← Nat.add_assoc] at ih
      exact .mark ih

/-- Text that begins where other text ends continues it. -/
theorem append (h : MarkedFrom offset cs markers)
    (hd : MarkedFrom (offset + (String.ofList cs).utf8ByteSize) ds more) :
    MarkedFrom offset (cs ++ ds) (markers ++ more) := by
  induction h with
  | nil => simpa using hd
  | text c rest ih =>
      rw [utf8ByteSize_ofList_cons, ← Nat.add_assoc] at hd
      exact .text c (ih hd)
  | mark rest ih =>
      rw [utf8ByteSize_ofList_cons, ← Nat.add_assoc] at hd
      exact .mark (ih hd)

/-- Markers ascend strictly: the next one stands behind the question mark of this one. -/
theorem pairwise_lt (h : MarkedFrom offset cs markers) : markers.Pairwise (· < ·) := by
  induction h with
  | nil => exact .nil
  | text c rest ih => exact ih
  | @mark offset cs markers rest ih =>
      refine .cons (fun m hm => ?_) ih
      have hle := rest.le_of_mem m hm
      have hsize : marker.utf8Size = 1 := rfl
      omega

/-- At a marker the text is cut in front of a question mark. -/
theorem exists_split (h : MarkedFrom offset cs markers) {m : Nat} (hm : m ∈ markers) :
    ∃ before after, cs = before ++ marker :: after ∧
      m = offset + (String.ofList before).utf8ByteSize := by
  induction h with
  | nil => simp at hm
  | text c rest ih =>
      obtain ⟨before, after, rfl, rfl⟩ := ih hm
      refine ⟨c :: before, after, rfl, ?_⟩
      rw [utf8ByteSize_ofList_cons, Nat.add_assoc]
  | @mark offset cs markers rest ih =>
      rcases List.mem_cons.mp hm with rfl | hm
      · exact ⟨[], cs, rfl, by simp⟩
      · obtain ⟨before, after, rfl, rfl⟩ := ih hm
        refine ⟨marker :: before, after, rfl, ?_⟩
        rw [utf8ByteSize_ofList_cons, Nat.add_assoc]

end MarkedFrom

/-- Reading marked text records the offsets of question marks in what it writes, whatever run it
begins in. Two question marks become one, so the text read is longer than the text written. -/
theorem markedFrom_scan (quote : Option Char) (offset : Nat) (cs : List Char) :
    MarkedFrom offset (scan quote offset cs).1 (scan quote offset cs).2 := by
  fun_induction scan quote offset cs with
  | case1 => exact .nil
  | case2 _ _ c rest text markers hscan ih =>
      rw [hscan] at ih
      exact .text c ih
  | case3 _ rest text markers hscan ih =>
      rw [hscan] at ih
      exact .text _ ih
  | case4 _ rest _ text markers hscan ih =>
      rw [hscan] at ih
      exact .mark ih
  | case5 _ c rest _ _ text markers hscan ih =>
      rw [hscan] at ih
      exact .text c ih

theorem wellMarked_ofMarked (text : String) (values : List Value) :
    (ofMarked text values).WellMarked := by
  have h := markedFrom_scan none 0 text.toList
  simpa [WellMarked, ofMarked] using h

theorem wellMarked_of_markers_eq_nil {f : Fragment} (h : f.markers = []) : f.WellMarked := by
  rw [WellMarked, h]
  exact .of_no_markers 0 f.text.toList

theorem closed_wellMarked : Closed WellMarked where
  ofText _ := wellMarked_of_markers_eq_nil rfl
  ofValue value := by
    have htext : (ofValue value).text.toList = [marker] := by simp
    rw [WellMarked, htext]
    exact .mark .nil
  append {f g} hf hg := by
    have hshift := hg.shift f.text.utf8ByteSize
    rw [WellMarked, text_append, String.toList_append, markers_append]
    apply hf.append
    rw [String.ofList_toList, Nat.zero_add]
    exact hshift

theorem WellMarked.addChar {f : Fragment} (hf : f.WellMarked) (c : Char) :
    (f.addChar c).WellMarked := by
  rw [addChar_eq_append]
  exact closed_wellMarked.append hf (closed_wellMarked.ofText _)

/-- A marker is the offset of a position in front of a character, which is a question mark. -/
theorem WellMarked.exists_pos {f : Fragment} (hf : f.WellMarked) {m : Nat} (hm : m ∈ f.markers) :
    ∃ (p : f.text.Pos) (h : p ≠ f.text.endPos), p.offset.byteIdx = m ∧ p.get h = '?' := by
  obtain ⟨before, after, htext, hat⟩ := MarkedFrom.exists_split hf hm
  have heq : f.text = String.ofList before ++ ("?" ++ String.ofList after) := by
    rw [← String.toList_inj, htext]
    simp [marker]
  have hvalid : (⟨m⟩ : String.Pos.Raw).IsValid f.text := by
    rw [String.Pos.Raw.isValid_iff_exists_append]
    refine ⟨_, _, heq, ?_⟩
    simp [hat, String.rawEndPos]
  have hsplits : String.Pos.Splits (⟨⟨m⟩, hvalid⟩ : f.text.Pos) (String.ofList before)
      ("?" ++ String.ofList after) := ⟨heq, by simp [hat, String.rawEndPos]⟩
  have hend : (⟨⟨m⟩, hvalid⟩ : f.text.Pos) ≠ f.text.endPos := by
    intro h
    have hsize := congrArg (fun p : f.text.Pos => p.offset.byteIdx) h
    have htotal := congrArg String.utf8ByteSize heq
    have hone : "?".utf8ByteSize = 1 := rfl
    simp only [String.offset_endPos, String.byteIdx_rawEndPos] at hsize
    rw [String.utf8ByteSize_append, String.utf8ByteSize_append, hone] at htotal
    omega
  refine ⟨_, hend, rfl, ?_⟩
  have hnext := (String.Pos.splits_next_right _ hend).eq_right hsplits
  exact (String.singleton_append_inj.mp hnext).1

end Fragment

end BoundSql
