import BoundSql.Proofs.Fragment.Positions

/-!
# Marked text written back

Marked text can be written back from the fragment that was read: outside quotes every question
mark that is no marker is written twice, and everything else is copied. What is read from marked
text is markable: its markers stand outside quotes, and none of them has another question mark
behind it. On markable fragments writing and reading undo each other.
-/

namespace BoundSql.Fragment

/-- The quoted run behind a character: a quote outside begins a run, and the same quote ends it. -/
def runBehind (run : Option Char) (c : Char) : Option Char :=
  match run with
  | none => if isQuote c then some c else none
  | some q => if c = q then none else some q

/-- In text from a byte offset, begun inside the run of a quote character or outside, a question
mark outside quotes stands at `m`, and it is not followed by another one. -/
def MarkableAt (run : Option Char) (offset : Nat) (text : List Char) (m : Nat) : Prop :=
  ∃ before after, text = before ++ marker :: after ∧
    m = offset + (String.ofList before).utf8ByteSize ∧
    before.foldl runBehind run = none ∧ after.head? ≠ some marker

/-- The markers ascend, and each stands where one can be written in marked text. A question mark
behind a marker would be outside quotes too. -/
structure Markable (f : Fragment) : Prop where
  pairwise_lt : f.markers.Pairwise (· < ·)
  markableAt : ∀ m ∈ f.markers, MarkableAt none 0 f.text.toList m

/-- Write text from a byte offset as marked text, begun inside the run of a quote character or
outside. -/
def escape : Option Char → Nat → List Nat → List Char → List Char
  | _, _, _, [] => []
  | run, offset, markers, c :: cs =>
      (if run = none ∧ c = marker ∧ offset ∉ markers then [c, c] else [c]) ++
        escape (runBehind run c) (offset + c.utf8Size) markers cs

/-- The marked text of a fragment: a question mark outside quotes that is no marker is written
twice. -/
def marked (f : Fragment) : String :=
  String.ofList (escape none 0 f.markers f.text.toList)

section Escape
variable {run : Option Char} {offset m : Nat} {markers : List Nat} {c : Char} {cs : List Char}

theorem escape_cons_of_doubled (h : offset ∉ markers) :
    escape none offset markers (marker :: cs) =
      marker :: marker :: escape none (offset + marker.utf8Size) markers cs := by
  rw [escape, if_pos ⟨rfl, rfl, h⟩]
  rfl

theorem escape_cons_of_copied (h : run = none → c = marker → offset ∈ markers) :
    escape run offset markers (c :: cs) =
      c :: escape (runBehind run c) (offset + c.utf8Size) markers cs := by
  rw [escape, if_neg]
  · rfl
  · rintro ⟨hrun, hc, hnot⟩
    exact hnot (h hrun hc)

/-- What is written begins like the text. -/
theorem head?_escape : (escape run offset markers cs).head? = cs.head? := by
  cases cs with
  | nil => rfl
  | cons c cs =>
      rw [escape]
      split <;> rfl

/-- A marker in front of the text does not count. -/
theorem escape_of_lt (h : m < offset) :
    escape run offset (m :: markers) cs = escape run offset markers cs := by
  induction cs generalizing run offset with
  | nil => rfl
  | cons c cs ih =>
      have hmem : offset ∉ m :: markers ↔ offset ∉ markers := by
        rw [List.mem_cons, not_or]
        exact and_iff_right (by omega)
      rw [escape, escape, ih (by omega)]
      simp only [hmem]

theorem escape_cons_of_marker :
    escape none offset (offset :: markers) (marker :: cs) =
      marker :: escape none (offset + marker.utf8Size) markers cs := by
  have hlt : offset < offset + marker.utf8Size := Nat.lt_add_of_pos_right marker.utf8Size_pos
  rw [escape_cons_of_copied fun _ _ => List.mem_cons_self]
  exact congrArg (marker :: ·) (escape_of_lt hlt)

end Escape

section Scan
variable {run : Option Char} {offset : Nat} {c : Char} {rest : List Char}

theorem scan_cons_of_text (h : run = none → c ≠ marker) :
    scan run offset (c :: rest) =
      (c :: (scan (runBehind run c) (offset + c.utf8Size) rest).1,
        (scan (runBehind run c) (offset + c.utf8Size) rest).2) := by
  cases run with
  | some q => rfl
  | none =>
      have hc : c ≠ '?' := h rfl
      rw [scan]
      · rfl
      · rintro _ rfl
        exact absurd rfl hc
      · rintro rfl
        exact absurd rfl hc

theorem scan_cons_of_doubled :
    scan none offset (marker :: marker :: rest) =
      (marker :: (scan none (offset + marker.utf8Size) rest).1,
        (scan none (offset + marker.utf8Size) rest).2) := by
  rfl

theorem scan_cons_of_marker (h : rest.head? ≠ some marker) :
    scan none offset (marker :: rest) =
      (marker :: (scan none (offset + marker.utf8Size) rest).1,
        offset :: (scan none (offset + marker.utf8Size) rest).2) := by
  rw [marker, scan]
  rintro after rfl
  exact h rfl

/-- What is read begins like the marked text. -/
theorem head?_scan : (scan run offset rest).1.head? = rest.head? := by
  fun_cases scan run offset rest <;> rfl

end Scan

section MarkableAt
variable {run : Option Char} {offset m : Nat} {c : Char} {cs : List Char}

theorem not_markableAt_nil : ¬ MarkableAt run offset [] m := by
  rintro ⟨before, after, htext, -⟩
  simp at htext

/-- A marker stands at the first character, or in the text behind it. -/
theorem markableAt_cons :
    MarkableAt run offset (c :: cs) m ↔
      (run = none ∧ c = marker ∧ m = offset ∧ cs.head? ≠ some marker) ∨
        MarkableAt (runBehind run c) (offset + c.utf8Size) cs m := by
  constructor
  · rintro ⟨before, after, htext, hm, hrun, hafter⟩
    cases before with
    | nil =>
        obtain ⟨rfl, rfl⟩ := List.cons.inj htext
        exact .inl ⟨hrun, rfl, by simpa using hm, hafter⟩
    | cons d before =>
        obtain ⟨rfl, rfl⟩ := List.cons.inj htext
        rw [utf8ByteSize_ofList_cons, ← Nat.add_assoc] at hm
        exact .inr ⟨before, after, rfl, hm, hrun, hafter⟩
  · rintro (⟨rfl, rfl, rfl, hnext⟩ | ⟨before, after, rfl, rfl, hrun, hafter⟩)
    · exact ⟨[], cs, rfl, by simp, rfl, hnext⟩
    · refine ⟨c :: before, after, rfl, ?_, hrun, hafter⟩
      rw [utf8ByteSize_ofList_cons, Nat.add_assoc]

/-- No marker stands in front of the text. -/
theorem MarkableAt.le (h : MarkableAt run offset cs m) : offset ≤ m := by
  obtain ⟨before, after, -, rfl, -, -⟩ := h
  exact Nat.le_add_right _ _

/-- Of ascending numbers that an offset does not exceed, the offset itself is the first. -/
theorem exists_cons_of_mem {markers : List Nat} (hlt : markers.Pairwise (· < ·))
    (hle : ∀ m ∈ markers, offset ≤ m) (hmem : offset ∈ markers) :
    ∃ later, markers = offset :: later ∧ ∀ m ∈ later, offset < m := by
  cases markers with
  | nil => exact absurd hmem List.not_mem_nil
  | cons m later =>
      obtain ⟨hfirst, -⟩ := List.pairwise_cons.mp hlt
      have hm : offset ≤ m := hle m List.mem_cons_self
      have heq : m = offset := by
        rcases List.mem_cons.mp hmem with rfl | hlater
        · rfl
        · have := hfirst offset hlater
          omega
      subst heq
      exact ⟨later, rfl, hfirst⟩

end MarkableAt

/-- The marked text can be written back from what is read, and every marker that is read may stand
where it does. -/
theorem escape_scan (run : Option Char) (offset : Nat) (written : List Char) :
    escape run offset (scan run offset written).2 (scan run offset written).1 = written ∧
      ∀ m ∈ (scan run offset written).2,
        MarkableAt run offset (scan run offset written).1 m := by
  fun_induction scan run offset written with
  | case1 => exact ⟨rfl, by simp⟩
  | case2 offset q c rest text markers hscan ih =>
      rw [hscan] at ih
      refine ⟨?_, fun m hm => markableAt_cons.mpr (.inr (ih.2 m hm))⟩
      rw [escape_cons_of_copied (by simp)]
      exact congrArg (c :: ·) ih.1
  | case3 offset rest text markers hscan ih =>
      rw [hscan] at ih
      refine ⟨?_, fun m hm => markableAt_cons.mpr (.inr (ih.2 m hm))⟩
      have hnot : offset ∉ markers := by
        intro hm
        have hle := (ih.2 offset hm).le
        have hpos := '?'.utf8Size_pos
        omega
      exact (escape_cons_of_doubled hnot).trans (congrArg (fun cs => '?' :: '?' :: cs) ih.1)
  | case4 offset rest hnext text markers hscan ih =>
      have hfirst : text.head? ≠ some marker := by
        have heq := @head?_scan none (offset + '?'.utf8Size) rest
        rw [hscan] at heq
        intro hhead
        obtain ⟨after, rfl⟩ := List.head?_eq_some_iff.mp (heq.symm.trans hhead)
        exact hnext after rfl
      rw [hscan] at ih
      constructor
      · exact escape_cons_of_marker.trans (congrArg ('?' :: ·) ih.1)
      · intro m hm
        rcases List.mem_cons.mp hm with rfl | hm
        · exact markableAt_cons.mpr (.inl ⟨rfl, rfl, rfl, hfirst⟩)
        · exact markableAt_cons.mpr (.inr (ih.2 m hm))
  | case5 offset c rest hdoubled hmarker text markers hscan ih =>
      rw [hscan] at ih
      refine ⟨?_, fun m hm => markableAt_cons.mpr (.inr (ih.2 m hm))⟩
      rw [escape_cons_of_copied fun _ hc => absurd hc hmarker]
      exact congrArg (c :: ·) ih.1

/-- Text with markers that may stand where they do is read from what is written. -/
theorem scan_escape {run : Option Char} {offset : Nat} {markers : List Nat} {text : List Char}
    (hlt : markers.Pairwise (· < ·)) (hmarkable : ∀ m ∈ markers, MarkableAt run offset text m) :
    scan run offset (escape run offset markers text) = (text, markers) := by
  induction text generalizing run offset markers with
  | nil =>
      obtain rfl := List.eq_nil_iff_forall_not_mem.mpr fun m hm =>
        not_markableAt_nil (hmarkable m hm)
      rfl
  | cons c text ih =>
      by_cases htext : run = none → c ≠ marker
      · -- No marker stands at this character, so all of them stand behind it.
        have hrest : ∀ m ∈ markers, MarkableAt (runBehind run c) (offset + c.utf8Size) text m := by
          intro m hm
          rcases markableAt_cons.mp (hmarkable m hm) with ⟨hrun, hc, -⟩ | h
          · exact absurd hc (htext hrun)
          · exact h
        rw [escape_cons_of_copied fun hrun hc => absurd hc (htext hrun), scan_cons_of_text htext,
          ih hlt hrest]
      · obtain ⟨rfl, rfl⟩ : run = none ∧ c = marker := by simpa using htext
        have hbehind {m : Nat} (hm : m ∈ markers) (hne : m ≠ offset) :
            MarkableAt none (offset + marker.utf8Size) text m := by
          rcases markableAt_cons.mp (hmarkable m hm) with ⟨-, -, heq, -⟩ | h
          · exact absurd heq hne
          · exact h
        by_cases hmem : offset ∈ markers
        · obtain ⟨later, rfl, hlater⟩ :=
            exists_cons_of_mem hlt (fun m hm => (hmarkable m hm).le) hmem
          have hpos := marker.utf8Size_pos
          have hnext : text.head? ≠ some marker := by
            rcases markableAt_cons.mp (hmarkable offset hmem) with ⟨-, -, -, hnext⟩ | h
            · exact hnext
            · exact absurd h.le (by omega)
          have hrest : ∀ m ∈ later, MarkableAt none (offset + marker.utf8Size) text m := fun m hm =>
            hbehind (List.mem_cons_of_mem _ hm) (Nat.ne_of_gt (hlater m hm))
          rw [escape_cons_of_marker, scan_cons_of_marker (by rwa [head?_escape]),
            ih (List.pairwise_cons.mp hlt).2 hrest]
        · have hrest : ∀ m ∈ markers, MarkableAt none (offset + marker.utf8Size) text m :=
            fun m hm => hbehind hm fun heq => hmem (heq ▸ hm)
          rw [escape_cons_of_doubled hmem, scan_cons_of_doubled, ih hlt hrest]

/-- Reading a marked text gives a fragment exactly where the fragment holds the values, is markable
and is written as the text. -/
theorem ofMarked_eq_iff (written : String) (values : List Value) (f : Fragment) :
    ofMarked written values = f ↔ f.values = values ∧ f.Markable ∧ f.marked = written := by
  constructor
  · rintro rfl
    obtain ⟨hwritten, hmarkable⟩ := escape_scan none 0 written.toList
    have hmarked := wellMarked_ofMarked written values
    refine ⟨rfl, ⟨hmarked.pairwise_lt, ?_⟩, ?_⟩
    · simpa [ofMarked] using hmarkable
    · rw [marked, ofMarked, String.toList_ofList, hwritten, String.ofList_toList]
  · rintro ⟨rfl, hmarkable, rfl⟩
    have h := scan_escape hmarkable.pairwise_lt hmarkable.markableAt
    ext1 <;> simp [ofMarked, marked, h]

-- Of three question marks in a row the first two are one that is text.
example : (ofMarked "a ??? '?' ??" []).text = "a ?? '?' ?" ∧
    (ofMarked "a ??? '?' ??" []).markers = [3] ∧
    (ofMarked "a ??? '?' ??" []).marked = "a ??? '?' ??" := by
  decide

end BoundSql.Fragment
