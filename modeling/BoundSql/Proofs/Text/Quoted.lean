import BoundSql.Text.Quoted

/-!
# Reading quoted text

The reader stands behind the opening quote character. Two quote characters in a row are one that
is text, a lone one ends the text, and behind a backslash that is an escape every character is
text. What was written in quotes is read back where the quote character does not follow it, so
different texts differ in quotes.
-/

namespace BoundSql.Text.Quoting

/-- Text without quote characters and escapes stands in quotes as it is. -/
theorem encode_eq_self {q : Quoting} {cs : List Char}
    (h : ∀ c ∈ cs, ¬(c = q.quote ∨ (c = '\\' ∧ q.backslash))) : q.encode cs = cs := by
  induction cs with
  | nil => rfl
  | cons c cs ih =>
      rw [encode_cons, encodeChar, if_neg (h c (by simp)), ih fun d hd => h d (by simp [hd]),
        List.singleton_append]

/-- Read up to the closing quote character. The answer is the text and what follows the quotes;
there is none where the quotes are not closed. -/
def read? (q : Quoting) : List Char → Option (List Char × List Char)
  | [] => none
  | c :: rest =>
      if c = q.quote then
        match rest with
        | [] => some ([], [])
        | next :: behind =>
            if next = q.quote then (q.read? behind).map fun (text, left) => (next :: text, left)
            else some ([], next :: behind)
      else if c = '\\' ∧ q.backslash then
        match rest with
        | [] => none
        | next :: behind => (q.read? behind).map fun (text, left) => (next :: text, left)
      else (q.read? rest).map fun (text, left) => (c :: text, left)

variable {q : Quoting}

theorem toList_write_append (q : Quoting) (text : String) (rest : List Char) :
    (q.write text).toList ++ rest = q.quote :: (q.encode text.toList ++ q.quote :: rest) := by
  simp [toList_write]

/-- A further character leaves what follows the quotes as it is. -/
theorem exists_read_of_map_cons {c : Char} {read : Option (List Char × List Char)}
    {text left : List Char}
    (h : (read.map fun (text, left) => (c :: text, left)) = some (text, left)) :
    ∃ text, read = some (text, left) := by
  obtain ⟨⟨text', left'⟩, hread, hpair⟩ := Option.map_eq_some_iff.mp h
  obtain ⟨-, rfl⟩ := Prod.mk.inj hpair
  exact ⟨text', hread⟩

/-- The reader stops closer to the end. -/
theorem length_lt_of_read? {cs text left : List Char} (h : q.read? cs = some (text, left)) :
    left.length < cs.length := by
  fun_induction read? q cs generalizing text left with
  | case1 => exact absurd h (Option.some_ne_none _).symm
  | case2 =>
      obtain ⟨-, rfl⟩ := Prod.mk.inj (Option.some.inj h)
      exact Nat.zero_lt_one
  | case3 _ ih =>
      obtain ⟨text', hread⟩ := exists_read_of_map_cons h
      have hleft := ih hread
      simp only [List.length_cons]
      omega
  | case4 next behind _ =>
      obtain ⟨-, rfl⟩ := Prod.mk.inj (Option.some.inj h)
      exact Nat.lt_succ_self _
  | case5 => exact absurd h (Option.some_ne_none _).symm
  | case6 _ _ _ next behind ih =>
      obtain ⟨text', hread⟩ := exists_read_of_map_cons h
      have hleft := ih hread
      simp only [List.length_cons]
      omega
  | case7 _ rest _ _ ih =>
      obtain ⟨text', hread⟩ := exists_read_of_map_cons h
      have hleft := ih hread
      simp only [List.length_cons]
      omega

/-- A written character is read back. -/
theorem read?_encodeChar_append (c : Char) (rest : List Char) :
    q.read? (q.encodeChar c ++ rest) =
      (q.read? rest).map fun (text, left) => (c :: text, left) := by
  rw [encodeChar]
  split
  · rename_i h
    rcases h with rfl | ⟨rfl, hescape⟩
    · simp [read?]
    · by_cases hquote : '\\' = q.quote
      · simp [read?, ← hquote]
      · simp [read?, hquote, hescape]
  · rename_i h
    obtain ⟨hquote, hescape⟩ := not_or.mp h
    rw [List.singleton_append, read?.eq_def]
    simp only [if_neg hquote, if_neg hescape]

/-- Written characters are read in front of what is read behind them. -/
theorem read?_encode_append_eq (cs rest : List Char) :
    q.read? (q.encode cs ++ rest) =
      (q.read? rest).map fun (text, left) => (cs ++ text, left) := by
  induction cs with
  | nil => simp
  | cons c cs ih =>
      rw [encode_cons, List.append_assoc, read?_encodeChar_append, ih, Option.map_map]
      rfl

/-- At a quote character the reader stops, unless another one follows. Then both are one that is
text. -/
theorem read?_quote_cons_eq_some_iff (rest : List Char) :
    q.read? (q.quote :: rest) = some ([], rest) ↔ rest.head? ≠ some q.quote := by
  cases rest with
  | nil => simp [read?]
  | cons next behind =>
      by_cases hnext : next = q.quote
      · subst hnext
        simp [read?]
      · simp [read?, hnext]

/-- Quoted text is read back up to its closing quote character, where no further one follows. -/
theorem read?_encode_append (cs : List Char) {rest : List Char}
    (h : rest.head? ≠ some q.quote) :
    q.read? (q.encode cs ++ q.quote :: rest) = some (cs, rest) := by
  rw [read?_encode_append_eq, (read?_quote_cons_eq_some_iff rest).mpr h]
  simp

/-- Read a quoted text that stands in front. The answer is the text and what follows its quotes;
there is none where no quoted text stands in front. -/
def readFront? (q : Quoting) (text : String) : Option (String × String) :=
  match text.toList with
  | [] => none
  | c :: rest =>
      if c = q.quote then
        (q.read? rest).map fun (text, left) => (String.ofList text, String.ofList left)
      else none

/-- What is written in quotes is read back in front of other text, up to where that text begins,
exactly where no quote character follows. -/
theorem readFront?_write_append_eq_some_iff (q : Quoting) (text rest : String) :
    q.readFront? (q.write text ++ rest) = some (text, rest) ↔
      rest.toList.head? ≠ some q.quote := by
  have hread : q.readFront? (q.write text ++ rest) =
      (q.read? (q.quote :: rest.toList)).map fun (more, left) =>
        (text ++ String.ofList more, String.ofList left) := by
    rw [readFront?, String.toList_append, toList_write_append]
    simp [read?_encode_append_eq, Function.comp_def]
  rw [hread, ← read?_quote_cons_eq_some_iff, Option.map_eq_some_iff]
  constructor
  · rintro ⟨⟨more, left⟩, hmore, hpair⟩
    obtain ⟨htext, rfl⟩ := Prod.mk.inj hpair
    obtain rfl : more = [] := by simpa using htext
    simpa using hmore
  · intro h
    exact ⟨([], rest.toList), h, by simp⟩

theorem write_injective {s t : String} (h : q.write s = q.write t) : s = t := by
  have hs := (q.readFront?_write_append_eq_some_iff s "").mpr (by simp)
  have ht := (q.readFront?_write_append_eq_some_iff t "").mpr (by simp)
  rw [h, ht] at hs
  exact (Prod.mk.inj (Option.some.inj hs)).1.symm

/-- Quoted text that goes on behind the closing quote character of another one goes on with a quote
character. -/
theorem head?_of_write_eq_write_append {s t rest : String} (h : q.write s = q.write t ++ rest)
    (hne : rest ≠ "") : rest.toList.head? = some q.quote := by
  apply Decidable.byContradiction
  intro hhead
  have hs := (q.readFront?_write_append_eq_some_iff s "").mpr (by simp)
  have ht := (q.readFront?_write_append_eq_some_iff t rest).mpr hhead
  rw [String.append_empty, h, ht] at hs
  exact hne (Prod.mk.inj (Option.some.inj hs)).2

end BoundSql.Text.Quoting
