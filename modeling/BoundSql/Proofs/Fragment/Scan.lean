import BoundSql.Fragment.Marked
import BoundSql.Proofs.Fragment.Template

/-!
# Scanning placeholders

A driver reads finished text from left to right. It skips quoted runs and takes what it finds
outside them for placeholders. In a quiet template it finds nothing but what is filled into the
holes: then it reads exactly the indices from one to the number of holes.
-/

namespace BoundSql

namespace Placeholder

/-- The character by which a placeholder is found. -/
def sign : Placeholder → Char
  | .question => '?'
  | .numbered => '$'

/-- The number that decimal digits stand for. No digits are no number. -/
def number? (digits : List Char) : Option Nat :=
  if digits.isEmpty then none else some (Nat.ofDigitChars 10 digits 0)

/-- The indices of the placeholders in text, read inside the run of a quote character or outside,
after some have been found. A question mark has the next index. A dollar sign is followed by its
index, which has as many digits as there are; they are then passed over like other text. -/
def scan (style : Placeholder) : Option Char → Nat → List Char → Option (List Nat)
  | _, _, [] => some []
  | some q, found, c :: rest => scan style (if c = q then none else some q) found rest
  | none, found, c :: rest =>
      if Fragment.isQuote c then scan style (some c) found rest
      else if c = style.sign then do
        let index ←
          match style with
          | .question => some (found + 1)
          | .numbered => number? (rest.takeWhile Char.isDigit)
        let indices ← scan style none (found + 1) rest
        return index :: indices
      else scan style none found rest

example : scan .numbered none 0 "$2 '$7' = $12".toList = some [2, 12] := by decide

example : scan .numbered none 0 "$ 2".toList = none := by decide

theorem number?_toDigits (n : Nat) : number? (Nat.toDigits 10 n) = some n := by
  rw [number?, if_neg (by simp [Nat.toDigits_ne_nil]),
    Nat.ofDigitChars_toDigits (by decide) (by decide)]

theorem toList_text_numbered (n : Nat) :
    (Placeholder.numbered.text n).toList = '$' :: Nat.toDigits 10 n := by
  simp [text, Nat.toString_eq_repr, Nat.toList_repr]

theorem isQuote_of_isDigit {c : Char} (h : c.isDigit) : Fragment.isQuote c = false := by
  simp only [Fragment.isQuote, Bool.or_eq_false_iff, decide_eq_false_iff_not]
  refine ⟨⟨?_, ?_⟩, ?_⟩ <;> rintro rfl <;> simp at h

theorem ne_sign_of_isDigit {c : Char} (style : Placeholder) (h : c.isDigit) : c ≠ style.sign := by
  cases style <;> rintro rfl <;> simp [sign] at h

/-- No placeholder begins at a digit. -/
theorem scan_digits_append (style : Placeholder) (found : Nat) {digits : List Char}
    (h : ∀ c ∈ digits, c.isDigit) (rest : List Char) :
    style.scan none found (digits ++ rest) = style.scan none found rest := by
  induction digits with
  | nil => rfl
  | cons c digits ih =>
      have hc := h c (by simp)
      rw [List.cons_append, scan, isQuote_of_isDigit hc, if_neg Bool.false_ne_true,
        if_neg (ne_sign_of_isDigit style hc), ih fun d hd => h d (by simp [hd])]

end Placeholder

namespace Template

/-- Whether a digit stands in front. -/
def beginsWithDigit : Template → Bool
  | some c :: _ => c.isDigit
  | _ => false

/-- Whether a driver that starts inside the run of a quote character, or outside, finds nothing but
the holes: they stand outside quotes, no other placeholder does, and the last run is closed. Where
placeholders are numbered, no digit follows a hole. -/
def quiet (style : Placeholder) : Option Char → Template → Bool
  | quote, [] => quote.isNone
  | none, none :: rest =>
      (style = .question || !beginsWithDigit rest) && quiet style none rest
  | some _, none :: _ => false
  | none, some c :: rest =>
      c ≠ style.sign && quiet style (if Fragment.isQuote c then some c else none) rest
  | some q, some c :: rest => quiet style (if c = q then none else some q) rest

variable {style : Placeholder} {quote : Option Char} {s t : Template}

/-- Numbered placeholders do not begin with a digit, so filled text begins with one only where the
template does. -/
theorem takeWhile_isDigit_fill (h : t.beginsWithDigit = false) (index : Nat) :
    (t.fill ((List.range' index t.holes).map Placeholder.numbered.text)).takeWhile Char.isDigit =
      [] := by
  cases t with
  | nil => rfl
  | cons symbol t =>
      cases symbol with
      | some c =>
          have hc : c.isDigit = false := h
          simp [fill, hc]
      | none =>
          rw [holes_none_cons, List.range'_succ, List.map_cons, fill,
            Placeholder.toList_text_numbered]
          rfl

/-- A driver reads the indices in the holes of a quiet template, and nothing else. -/
theorem scan_fill (found : Nat) (h : t.quiet style quote) :
    style.scan quote found (t.fill ((List.range' (found + 1) t.holes).map style.text)) =
      some (List.range' (found + 1) t.holes) := by
  fun_induction quiet style quote t generalizing found with
  | case1 quote => rfl
  | case2 rest ih =>
      obtain ⟨hdigit, hrest⟩ := Bool.and_eq_true_iff.mp h
      have hnext := ih (found + 1) hrest
      rw [holes_none_cons, List.range'_succ, List.map_cons, fill]
      cases style with
      | question =>
          have htext : (Placeholder.question.text (found + 1)).toList = ['?'] := by
            simp [Placeholder.text]
          rw [htext, List.singleton_append, Placeholder.scan, if_neg (by decide),
            if_pos (by rfl), hnext]
          rfl
      | numbered =>
          have hbegins : beginsWithDigit rest = false := by simpa using hdigit
          have hdigits : ∀ c ∈ Nat.toDigits 10 (found + 1), c.isDigit := fun c hc =>
            Nat.isDigit_of_mem_toDigits (by decide) (by decide) hc
          rw [Placeholder.toList_text_numbered, List.cons_append, Placeholder.scan,
            if_neg (by decide), if_pos (by rfl), Placeholder.scan_digits_append _ _ hdigits, hnext,
            List.takeWhile_append_of_pos hdigits, takeWhile_isDigit_fill hbegins,
            List.append_nil, Placeholder.number?_toDigits]
          rfl
  | case3 q rest => exact absurd h Bool.false_ne_true
  | case4 c rest ih =>
      obtain ⟨hsign, hrest⟩ := Bool.and_eq_true_iff.mp h
      have hne : c ≠ style.sign := by simpa using hsign
      rw [holes_some_cons, fill, Placeholder.scan, ← ih found hrest]
      split <;> simp_all
  | case5 q c rest ih =>
      rw [holes_some_cons, fill, Placeholder.scan, ih found h]

/-- Behind a quiet template that ends outside quotes the driver starts anew. -/
theorem quiet_append (hs : s.quiet style quote) (ht : t.quiet style none)
    (hdigit : t.beginsWithDigit = false) : (s ++ t).quiet style quote := by
  fun_induction quiet style quote s with
  | case1 quote =>
      obtain rfl := Option.isNone_iff_eq_none.mp hs
      exact ht
  | case2 rest ih =>
      obtain ⟨hfirst, hrest⟩ := Bool.and_eq_true_iff.mp hs
      have hbegins : beginsWithDigit (rest ++ t) = beginsWithDigit rest ∨ rest = [] := by
        cases rest with
        | nil => exact .inr rfl
        | cons symbol rest => cases symbol <;> exact .inl rfl
      rw [List.cons_append, quiet, ih hrest, Bool.and_true]
      rcases hbegins with hbegins | rfl
      · rw [hbegins]
        exact hfirst
      · simp [hdigit]
  | case3 q rest => exact absurd hs Bool.false_ne_true
  | case4 c rest ih =>
      obtain ⟨hsign, hrest⟩ := Bool.and_eq_true_iff.mp hs
      rw [List.cons_append, quiet, hsign, ih hrest, Bool.and_true]
  | case5 q c rest ih =>
      rw [List.cons_append, quiet]
      exact ih hs

/-- Text has no hole that a digit could follow. -/
theorem quiet_text_append {cs : List Char} (hs : quiet style quote (cs.map some))
    (ht : t.quiet style none) : quiet style quote (cs.map some ++ t) := by
  induction cs generalizing quote with
  | nil =>
      obtain rfl := Option.isNone_iff_eq_none.mp hs
      exact ht
  | cons c cs ih =>
      cases quote with
      | none =>
          obtain ⟨hsign, hrest⟩ := Bool.and_eq_true_iff.mp hs
          rw [List.map_cons, List.cons_append, quiet, hsign, ih hrest, Bool.and_true]
      | some q =>
          rw [List.map_cons, List.cons_append, quiet]
          exact ih hs

/-- Text is quiet where it has neither quotes nor signs. -/
theorem quiet_text {cs : List Char}
    (h : ∀ c ∈ cs, Fragment.isQuote c = false ∧ c ≠ style.sign) :
    quiet style none (cs.map some) := by
  induction cs with
  | nil => rfl
  | cons c cs ih =>
      obtain ⟨hquote, hsign⟩ := h c (by simp)
      have hrest := ih fun d hd => h d (by simp [hd])
      simp [quiet, hquote, hsign, hrest]

end Template

end BoundSql
