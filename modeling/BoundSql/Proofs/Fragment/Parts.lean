import BoundSql.Proofs.Fragment.Escaped

/-!
# Marked text in parts

Marked text can be read part by part. Behind a part that ends outside quotes the reader starts anew,
and only the offsets of the markers move, unless a question mark that stands last meets one that
stands first: these two would be read as one that is text. A space between two parts keeps them
apart.
-/

namespace BoundSql.Fragment

/-- Whether a reader of marked text is outside quotes at its end. -/
def endsOutside (text : String) : Bool :=
  (text.toList.foldl runBehind none).isNone

/-- Whether no question mark of a text stands outside quotes, begun inside the run of a quote
character or outside. -/
def unmarked : Option Char → List Char → Bool
  | _, [] => true
  | run, c :: cs => !(run.isNone && c = marker) && unmarked (runBehind run c) cs

section Scan
variable {run : Option Char} {offset : Nat} {cs ds : List Char}

/-- Markers move with the marked text. -/
theorem scan_shift (bytes : Nat) (run : Option Char) (offset : Nat) (cs : List Char) :
    scan run (bytes + offset) cs =
      ((scan run offset cs).1, (scan run offset cs).2.map (bytes + ·)) := by
  fun_induction scan run offset cs with
  | case1 => rfl
  | case2 offset q c rest text markers hscan ih =>
      rw [hscan, ← Nat.add_assoc] at ih
      rw [scan, ih]
  | case3 offset rest text markers hscan ih =>
      rw [hscan, ← Nat.add_assoc] at ih
      rw [scan, ih]
  | case4 offset rest hnext text markers hscan ih =>
      rw [hscan, ← Nat.add_assoc] at ih
      rw [scan, ih]
      · rfl
      · exact hnext
  | case5 offset c rest hdoubled hmarker text markers hscan ih =>
      rw [hscan, ← Nat.add_assoc] at ih
      rw [scan, ih]
      · exact hdoubled
      · exact hmarker

/-- Behind marked text that ends outside quotes the reader starts anew, unless two question marks
meet there. -/
theorem scan_append (hrun : cs.foldl runBehind run = none)
    (hmeet : cs.getLast? = some marker → ds.head? ≠ some marker) :
    scan run offset (cs ++ ds) =
      let first := scan run offset cs
      let second := scan none (offset + (String.ofList first.1).utf8ByteSize) ds
      (first.1 ++ second.1, first.2 ++ second.2) := by
  -- Where the texts meet does not depend on the characters in front.
  have hlater {c : Char} {rest : List Char}
      (h : (c :: rest).getLast? = some marker → ds.head? ≠ some marker) :
      rest.getLast? = some marker → ds.head? ≠ some marker := fun hlast =>
    h (by rw [List.getLast?_cons, hlast, Option.getD_some])
  fun_induction scan run offset cs with
  | case1 run offset =>
      obtain rfl : run = none := hrun
      simp
  | case2 q offset c rest text markers hscan ih =>
      have hrest := ih hrun (hlater hmeet)
      rw [hscan] at hrest
      rw [List.cons_append, scan, hrest]
      simp only [utf8ByteSize_ofList_cons, Nat.add_assoc, List.cons_append]
  | case3 offset rest text markers hscan ih =>
      have hrest := ih hrun (hlater (hlater hmeet))
      rw [hscan] at hrest
      rw [List.cons_append, List.cons_append, scan, hrest]
      simp only [utf8ByteSize_ofList_cons, Nat.add_assoc, List.cons_append]
  | case4 offset rest hnext text markers hscan ih =>
      have hrest := ih hrun (hlater hmeet)
      rw [hscan] at hrest
      -- Behind a question mark that stands last, the reader looks ahead into the further text.
      have hhead : (rest ++ ds).head? ≠ some marker := by
        cases rest with
        | nil => exact hmeet rfl
        | cons d rest =>
            intro hd
            obtain rfl := Option.some.inj hd
            exact hnext rest rfl
      rw [List.cons_append, ← marker, scan_cons_of_marker hhead, marker, hrest]
      simp only [utf8ByteSize_ofList_cons, Nat.add_assoc, List.cons_append]
  | case5 offset c rest hdoubled hmarker text markers hscan ih =>
      have hrest := ih hrun (hlater hmeet)
      rw [hscan] at hrest
      rw [List.cons_append, scan_cons_of_text fun _ => hmarker, runBehind, hrest]
      simp only [utf8ByteSize_ofList_cons, Nat.add_assoc, List.cons_append]

/-- Text without question marks outside quotes is read as it stands. -/
theorem scan_of_unmarked (h : unmarked run cs) : scan run offset cs = (cs, []) := by
  induction cs generalizing run offset with
  | nil => rfl
  | cons c cs ih =>
      obtain ⟨hc, hcs⟩ := Bool.and_eq_true_iff.mp h
      have htext : run = none → c ≠ marker := by
        rintro rfl rfl
        simp at hc
      rw [scan_cons_of_text htext, ih hcs]

end Scan

theorem ofMarked_of_unmarked {text : String} (h : unmarked none text.toList) :
    ofMarked text [] = ofText text := by
  ext1 <;> simp [ofMarked, scan_of_unmarked h]

/-- What is read of marked text that has two parts is what is read of the one and of the other. -/
theorem ofMarked_append {s t : String} (hs : endsOutside s)
    (hmeet : s.toList.getLast? = some marker → t.toList.head? ≠ some marker)
    (us vs : List Value) :
    ofMarked (s ++ t) (us ++ vs) = ofMarked s us ++ ofMarked t vs := by
  have hrun : s.toList.foldl runBehind none = none := Option.isNone_iff_eq_none.mp hs
  have hscan := @scan_append none 0 s.toList t.toList hrun hmeet
  have hsecond := scan_shift (String.ofList (scan none 0 s.toList).1).utf8ByteSize none 0 t.toList
  rw [Nat.add_zero] at hsecond
  ext1 <;> simp [ofMarked, hscan, hsecond]

/-- A space keeps the parts of marked text apart. -/
theorem ofMarked_append_space {s : String} (hs : endsOutside s) (t : String) (us vs : List Value) :
    ofMarked (s ++ " " ++ t) (us ++ vs) = ofMarked s us ++ ofText " " ++ ofMarked t vs := by
  have hspace : ofMarked (" " ++ t) ([] ++ vs) = ofText " " ++ ofMarked t vs := by
    rw [ofMarked_append (by decide) (by simp [marker]), ofMarked_of_unmarked (by decide)]
  have hmeet : s.toList.getLast? = some marker → (" " ++ t).toList.head? ≠ some marker := by
    simp [marker]
  rw [List.nil_append] at hspace
  rw [String.append_assoc, ofMarked_append hs hmeet, hspace, append_assoc]

theorem isEmpty_ofMarked (text : String) (values : List Value) :
    (ofMarked text values).isEmpty = text.isEmpty := by
  have hhead : (scan none 0 text.toList).1.head? = text.toList.head? := head?_scan
  rw [Bool.eq_iff_iff, isEmpty_iff, String.isEmpty_iff]
  simpa [ofMarked] using congrArg (· = none) hhead

/-- A part of marked text: it is read with the values for its markers, or taken over as it
stands. -/
inductive Part
  | marked (text : String) (values : List Value)
  | verbatim (text : String)

namespace Part

def text : Part → String
  | .marked text _ => text
  | .verbatim text => text

def values : Part → List Value
  | .marked _ values => values
  | .verbatim _ => []

/-- The fragment that is made of a part. -/
def fragment : Part → Fragment
  | .marked text values => ofMarked text values
  | .verbatim text => ofText text

/-- A part with text that ends outside quotes. Where it is taken over as it stands, no question mark
stands outside quotes. -/
structure Joinable (p : Part) : Prop where
  text_ne : p.text ≠ ""
  endsOutside : endsOutside p.text
  unmarked : ∀ text, p = .verbatim text → unmarked none text.toList

variable {p : Part}

theorem Joinable.fragment_eq (h : p.Joinable) : p.fragment = ofMarked p.text p.values := by
  cases p with
  | marked text values => rfl
  | verbatim text => exact (ofMarked_of_unmarked (h.unmarked text rfl)).symm

theorem Joinable.isEmpty_fragment (h : p.Joinable) : p.fragment.isEmpty = false := by
  rw [h.fragment_eq, isEmpty_ofMarked]
  simpa using h.text_ne

end Part

/-- Parts of marked text joined by spaces are the fragment of the whole text, with the values of the
parts one after the other. -/
theorem joined_fragments_eq_ofMarked (parts : List Part) (h : ∀ p ∈ parts, p.Joinable) :
    joined (parts.map Part.fragment) =
      ofMarked (String.intercalate " " (parts.map Part.text)) (parts.flatMap Part.values) := by
  induction parts with
  | nil => rfl
  | cons first rest ih =>
      obtain ⟨hfirst, hrest⟩ := List.forall_mem_cons.mp h
      cases rest with
      | nil =>
          have hjoin : joined [first.fragment] = first.fragment := by
            simp [joined, join, addSeparated, hfirst.isEmpty_fragment]
          simpa [hjoin] using hfirst.fragment_eq
      | cons second rest =>
          have hnonempty : ∀ f ∈ (second :: rest).map Part.fragment, f.isEmpty = false := by
            intro f hf
            obtain ⟨p, hp, rfl⟩ := List.mem_map.mp hf
            exact (hrest p hp).isEmpty_fragment
          calc
            joined ((first :: second :: rest).map Part.fragment)
            _ = first.fragment ++ ofText " " ++ joined ((second :: rest).map Part.fragment) :=
                join_cons_cons " " hfirst.isEmpty_fragment hnonempty
            _ = ofMarked first.text first.values ++ ofText " " ++
                  ofMarked (String.intercalate " " ((second :: rest).map Part.text))
                    ((second :: rest).flatMap Part.values) := by
                rw [hfirst.fragment_eq, ih hrest]
            _ = ofMarked (String.intercalate " " ((first :: second :: rest).map Part.text))
                  ((first :: second :: rest).flatMap Part.values) := by
                rw [← ofMarked_append_space hfirst.endsOutside]
                simp only [List.map_cons, String.intercalate_cons_cons, List.flatMap_cons]

/-- A part that ends with a marker, text with a quoted question mark, and a part that begins with a
marker. -/
theorem joined_fragments_around_quoted_mark :
    let parts : List Part :=
      [.marked "é ?? ?" [.int 1], .verbatim "b = '?'", .marked "? c" [.int 2]]
    (∀ p ∈ parts, p.Joinable) ∧
    joined (parts.map Part.fragment) = ofMarked "é ?? ? b = '?' ? c" [.int 1, .int 2] ∧
    (joined (parts.map Part.fragment)).markers = [5, 15] := by
  intro parts
  have hparts : ∀ p ∈ parts, p.Joinable := by
    simp only [parts, List.forall_mem_cons]
    refine ⟨⟨by decide, by decide, ?_⟩, ⟨by decide, by decide, ?_⟩, ⟨by decide, by decide, ?_⟩, ?_⟩
    · rintro _ ⟨⟩
    · rintro _ ⟨⟩
      decide
    · rintro _ ⟨⟩
    · simp
  exact ⟨hparts, joined_fragments_eq_ofMarked parts hparts, by decide⟩

end BoundSql.Fragment
