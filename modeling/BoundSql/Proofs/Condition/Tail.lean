import BoundSql.Proofs.Condition.Plain

/-!
# What stands behind a term

A term can be told apart from what stands behind it. Behind a term there is nothing, a space or a
closing parenthesis, and neither character stands in an identifier or in another right side; so
these end where the first of them begins.
-/

namespace BoundSql

/-- Characters and values that stand behind a fragment. -/
@[ext]
structure Tail where
  chars : List Char
  values : List Value

/-- The first characters of equal tails are equal. -/
theorem Tail.first_eq {c c' : Char} {cs cs' : List Char} {values values' : List Value}
    (h : (⟨c :: cs, values⟩ : Tail) = ⟨c' :: cs', values'⟩) : c = c' :=
  (List.cons.inj (Tail.mk.inj h).1).1

/-- A fragment in front of what stands behind it. -/
def Fragment.ahead (f : Fragment) (t : Tail) : Tail :=
  ⟨f.text.toList ++ t.chars, f.values ++ t.values⟩

namespace Fragment

theorem ahead_append (f g : Fragment) (t : Tail) : (f ++ g).ahead t = f.ahead (g.ahead t) := by
  ext1
  · simp [ahead]
  · simp [ahead]

theorem ahead_ofText (text : String) (t : Tail) :
    (ofText text).ahead t = ⟨text.toList ++ t.chars, t.values⟩ := rfl

theorem ahead_ofValue (value : Value) (t : Tail) :
    (ofValue value).ahead t = ⟨'?' :: t.chars, value :: t.values⟩ := by
  simp [ahead, marker]

theorem ahead_parens (f : Fragment) (t : Tail) :
    f.parens.ahead t = (ofText "(").ahead (f.ahead ((ofText ")").ahead t)) := by
  rw [parens_eq_append, ahead_append, ahead_append]

/-- Text in front is taken off from both sides. -/
theorem ahead_ofText_inj {text : String} {t t' : Tail}
    (h : (ofText text).ahead t = (ofText text).ahead t') : t = t' := by
  obtain ⟨hchars, hvalues⟩ := Tail.mk.inj h
  ext1
  · exact List.append_cancel_left hchars
  · exact hvalues

/-- A value in front is read from its marker. -/
theorem ahead_ofValue_inj {value value' : Value} {t t' : Tail}
    (h : (ofValue value).ahead t = (ofValue value').ahead t') : value = value' ∧ t = t' := by
  rw [ahead_ofValue, ahead_ofValue] at h
  obtain ⟨hchars, hvalues⟩ := Tail.mk.inj h
  obtain ⟨hvalue, hvalues⟩ := List.cons.inj hvalues
  refine ⟨hvalue, ?_⟩
  ext1
  · exact (List.cons.inj hchars).2
  · exact hvalues

end Fragment

/-- The characters that end an identifier. -/
def endsWord (c : Char) : Bool :=
  c = ' ' || c = ')'

namespace Tail

/-- A term ends in front of it. -/
def Ended (t : Tail) : Prop :=
  ∀ c, t.chars.head? = some c → endsWord c = true

/-- The last term of a list ends in front of it. -/
def Closed (t : Tail) : Prop :=
  ∀ c, t.chars.head? = some c → c = ')'

theorem Closed.ended {t : Tail} (h : t.Closed) : t.Ended := by
  intro c hc
  rw [h c hc]
  rfl

theorem closed_nil (values : List Value) : Closed ⟨[], values⟩ := by
  intro c hc
  simp at hc

theorem closed_parenthesis (t : Tail) : ((Fragment.ofText ")").ahead t).Closed := by
  intro c hc
  exact (Option.some.inj hc).symm

end Tail

theorem takeWhile_word {word rest : List Char} (hword : ∀ c ∈ word, endsWord c = false)
    (hrest : ∀ c, rest.head? = some c → endsWord c = true) :
    (word ++ rest).takeWhile (fun c => !endsWord c) = word := by
  have hstop : rest.takeWhile (fun c => !endsWord c) = [] := by
    cases rest with
    | nil => rfl
    | cons c rest => simp [hrest c rfl]
  rw [List.takeWhile_append_of_pos, hstop, List.append_nil]
  intro c hc
  simp [hword c hc]

/-- A word is read up to the first character that ends it. -/
theorem word_inj {word word' rest rest' : List Char} (hword : ∀ c ∈ word, endsWord c = false)
    (hword' : ∀ c ∈ word', endsWord c = false)
    (hrest : ∀ c, rest.head? = some c → endsWord c = true)
    (hrest' : ∀ c, rest'.head? = some c → endsWord c = true)
    (h : word ++ rest = word' ++ rest') : word = word' ∧ rest = rest' := by
  have hsame : word = word' := by
    rw [← takeWhile_word hword hrest, h, takeWhile_word hword' hrest']
  refine ⟨hsame, ?_⟩
  rw [hsame] at h
  exact List.append_cancel_left h

theorem endsWord_of_isIdentifierRest {c : Char} (h : isIdentifierRest c = true) :
    endsWord c = false := by
  rw [Bool.eq_false_iff]
  intro hends
  have hcases : c = ' ' ∨ c = ')' := by simpa [endsWord] using hends
  rcases hcases with rfl | rfl
  · exact absurd h (by decide)
  · exact absurd h (by decide)

theorem exists_cons_of_isIdentifier {text : String} (h : isIdentifier text = true) :
    ∃ first rest, text.toList = first :: rest ∧ first.isLower = true := by
  unfold isIdentifier at h
  split at h
  · exact absurd h Bool.false_ne_true
  · rename_i first rest htext
    exact ⟨first, rest, htext, (Bool.and_eq_true_iff.mp h).1⟩

theorem endsWord_of_isIdentifier {text : String} (h : isIdentifier text = true) :
    ∀ c ∈ text.toList, endsWord c = false := by
  unfold isIdentifier at h
  split at h
  · exact absurd h Bool.false_ne_true
  · rename_i first rest htext
    obtain ⟨hfirst, hrest⟩ := Bool.and_eq_true_iff.mp h
    intro c hc
    apply endsWord_of_isIdentifierRest
    rw [htext] at hc
    rcases List.mem_cons.mp hc with rfl | hc
    · simp [isIdentifierRest, hfirst]
    · exact List.all_eq_true.mp hrest c hc

theorem endsWord_of_isRightSide {text : String} (h : isRightSide text = true) :
    ∀ c ∈ text.toList, endsWord c = false := by
  rcases Bool.or_eq_true_iff.mp h with h | h
  · exact endsWord_of_isIdentifier h
  · rw [of_decide_eq_true h]
    intro c hc
    have hletter : c = 'N' ∨ c = 'U' ∨ c = 'L' := by simpa using hc
    rcases hletter with rfl | rfl | rfl
    · rfl
    · rfl
    · rfl

/-- A right side begins with a lower-case letter or is the keyword of no value. -/
theorem exists_cons_of_isRightSide {text : String} (h : isRightSide text = true) :
    (∃ first rest, text.toList = first :: rest ∧ first.isLower = true) ∨
      text.toList = ['N', 'U', 'L', 'L'] := by
  rcases Bool.or_eq_true_iff.mp h with h | h
  · exact .inl (exists_cons_of_isIdentifier h)
  · rw [of_decide_eq_true h]
    exact .inr rfl

end BoundSql
