import BoundSql.Proofs.Condition.Tail

/-!
# Tests of columns can be read back

A test is a column, an operator and what the column is tested against. Where columns and right
sides are plain, each of the three is read from the front: the column up to the first space, the
operator as the longest that stands there, and behind it a marker, a right side or the members of
a list.
-/

namespace BoundSql

/-- What stands between a column and what it is tested against. -/
inductive Operator
  | comparison (op : Comparison)
  | membership (negated : Bool)
  deriving DecidableEq

namespace Operator

/-- The keywords of an operator. -/
def symbol : Operator → String
  | .comparison op => op.symbol
  | .membership negated => if negated then "NOT IN" else "IN"

/-- An operator and the space behind it. -/
def chars (op : Operator) : List Char :=
  (op.symbol ++ " ").toList

/-- No operator with the space behind it begins another one, but for a test and its negation. -/
theorem eq_or_is_of_begins {op op' : Operator} (h : op.chars <+: op'.chars) :
    op = op' ∨ (op = .comparison .is ∧ op' = .comparison .isNot) := by
  revert h
  cases op with
  | comparison op =>
      cases op' with
      | comparison op' => cases op <;> cases op' <;> decide
      | membership negated => cases op <;> cases negated <;> decide
  | membership negated =>
      cases op' with
      | comparison op' => cases op' <;> cases negated <;> decide
      | membership negated' => cases negated <;> cases negated' <;> decide

/-- A negation is read as one, because what an operator is applied to does not begin like the
word for it. -/
theorem eq_of_begins {op op' : Operator} {behind behind' : List Char}
    (hbehind : ¬ ['N', 'O'] <+: behind) (hbegins : op.chars <+: op'.chars)
    (h : op.chars ++ behind = op'.chars ++ behind') : op = op' := by
  rcases eq_or_is_of_begins hbegins with hop | ⟨rfl, rfl⟩
  · exact hop
  · have his : ['I', 'S', ' '] ++ behind = ['I', 'S', ' '] ++ (['N', 'O', 'T', ' '] ++ behind') := h
    refine absurd ?_ hbehind
    rw [List.append_cancel_left his]
    exact ⟨['T', ' '] ++ behind', rfl⟩

theorem append_inj {op op' : Operator} {behind behind' : List Char}
    (hbehind : ¬ ['N', 'O'] <+: behind) (hbehind' : ¬ ['N', 'O'] <+: behind')
    (h : op.chars ++ behind = op'.chars ++ behind') : op = op' ∧ behind = behind' := by
  have hop : op = op' := by
    have hleft : op.chars <+: op'.chars ++ behind' := ⟨behind, h⟩
    have hright : op'.chars <+: op'.chars ++ behind' := List.prefix_append _ _
    rcases List.prefix_or_prefix_of_prefix hleft hright with hbegins | hbegins
    · exact eq_of_begins hbehind hbegins h
    · exact (eq_of_begins hbehind' hbegins h.symm).symm
  refine ⟨hop, ?_⟩
  rw [hop] at h
  exact List.append_cancel_left h

end Operator

/-- A column and the operator behind it. -/
def lead (column : String) (op : Operator) : Fragment :=
  .ofText (column ++ " " ++ op.symbol ++ " ")

theorem ahead_lead (column : String) (op : Operator) (t : Tail) :
    (lead column op).ahead t = ⟨column.toList ++ ' ' :: (op.chars ++ t.chars), t.values⟩ := by
  simp [lead, Fragment.ahead_ofText, Operator.chars]

/-- Where neither side continues with the word of a negation, a column and its operator are read
from the front. -/
theorem lead_inj {column column' : String} {op op' : Operator} {t t' : Tail}
    (hcolumn : isIdentifier column = true) (hcolumn' : isIdentifier column' = true)
    (ht : ¬ ['N', 'O'] <+: t.chars) (ht' : ¬ ['N', 'O'] <+: t'.chars)
    (h : (lead column op).ahead t = (lead column' op').ahead t') :
    column = column' ∧ op = op' ∧ t = t' := by
  rw [ahead_lead, ahead_lead] at h
  obtain ⟨hchars, hvalues⟩ := Tail.mk.inj h
  have hspace (cs : List Char) : ∀ c, (' ' :: cs).head? = some c → endsWord c = true := by
    intro c hc
    rw [← Option.some.inj hc]
    rfl
  obtain ⟨hcolumns, hbehind⟩ := word_inj (endsWord_of_isIdentifier hcolumn)
    (endsWord_of_isIdentifier hcolumn') (hspace _) (hspace _) hchars
  obtain ⟨hop, hrest⟩ := Operator.append_inj ht ht' (List.cons.inj hbehind).2
  refine ⟨String.toList_inj.mp hcolumns, hop, ?_⟩
  ext1
  · exact hrest
  · exact hvalues

/-- No identifier begins with a character that is no lower-case letter. -/
theorem lead_ne {column : String} {op : Operator} {t : Tail} {first : Char} {rest : List Char}
    {values : List Value} (hcolumn : isIdentifier column = true) (hfirst : first.isLower = false) :
    (lead column op).ahead t ≠ ⟨first :: rest, values⟩ := by
  intro h
  obtain ⟨letter, letters, htext, hletter⟩ := exists_cons_of_isIdentifier hcolumn
  rw [ahead_lead, htext] at h
  rw [Tail.first_eq h, hfirst] at hletter
  exact absurd hletter Bool.false_ne_true

/-- Further members of a list, each after a comma. -/
def furtherMembers (others : List Value) : Fragment :=
  .concat (others.map fun value => .ofText ", " ++ .ofValue value)

theorem ahead_furtherMembers (value : Value) (rest : List Value) (t : Tail) :
    (furtherMembers (value :: rest)).ahead t =
      (Fragment.ofText ", ").ahead ((Fragment.ofValue value).ahead
        ((furtherMembers rest).ahead t)) := by
  simp only [furtherMembers, List.map_cons, Fragment.concat_cons, Fragment.ahead_append]

theorem comma_ne_parenthesis (t t' : Tail) :
    (Fragment.ofText ", ").ahead t ≠ (Fragment.ofText ")").ahead t' := by
  intro h
  exact absurd (Tail.first_eq h) (by decide)

/-- Members are read up to the parenthesis behind the last of them. -/
theorem furtherMembers_inj {others others' : List Value} {t t' : Tail}
    (h : (furtherMembers others).ahead ((Fragment.ofText ")").ahead t) =
      (furtherMembers others').ahead ((Fragment.ofText ")").ahead t')) :
    others = others' ∧ t = t' := by
  induction others generalizing others' with
  | nil =>
      cases others' with
      | nil => exact ⟨rfl, Fragment.ahead_ofText_inj h⟩
      | cons value' rest' =>
          rw [ahead_furtherMembers] at h
          exact absurd h.symm (comma_ne_parenthesis _ _)
  | cons value rest ih =>
      cases others' with
      | nil =>
          rw [ahead_furtherMembers] at h
          exact absurd h (comma_ne_parenthesis _ _)
      | cons value' rest' =>
          rw [ahead_furtherMembers, ahead_furtherMembers] at h
          obtain ⟨hvalue, hrest⟩ := Fragment.ahead_ofValue_inj (Fragment.ahead_ofText_inj h)
          obtain ⟨hothers, ht⟩ := ih hrest
          exact ⟨by rw [hvalue, hothers], ht⟩

namespace Test

/-- The operator of a test. -/
def operator : Test → Operator
  | .compare op _ => .comparison op
  | .compareColumn op _ => .comparison op
  | .membership _ _ negated => .membership negated

/-- What a column is tested against. -/
def operand : Test → Fragment
  | .compare _ value => .ofValue value
  | .compareColumn _ right => .ofText right
  | .membership first others _ => (Fragment.ofValue first ++ furtherMembers others).parens

theorem join_members (first : Value) (others : List Value) :
    Fragment.join ", " ((first :: others).map .ofValue) =
      Fragment.ofValue first ++ furtherMembers others := by
  have htext : ∀ f ∈ (first :: others).map Fragment.ofValue, f.isEmpty = false := by
    intro f hf
    obtain ⟨value, -, rfl⟩ := List.mem_map.mp hf
    exact Fragment.isEmpty_ofValue value
  rw [Fragment.join_eq_chain_of_not_isEmpty ", " _ htext, List.map_map, List.map_cons,
    Fragment.chain, List.map_map]
  rfl

/-- A test is written as a column, an operator and what the column is tested against. -/
theorem compile_term (column : String) (asked : Test) :
    (asked.term column).compile = lead column asked.operator ++ asked.operand := by
  cases asked with
  | compare op value => exact Fragment.bind_eq_append _ value
  | compareColumn op right =>
      exact Fragment.ofText_append (column ++ " " ++ op.symbol ++ " ") right
  | membership first others negated =>
      have hlead : Fragment.ofText (column ++ (if negated then " NOT IN " else " IN ")) =
          lead column (.membership negated) := by
        cases negated <;> simp [lead, Operator.symbol, String.append_assoc]
      rw [term, Term.compile, Term.compileMembership_of_ne_nil column negated
        (List.cons_ne_nil first others), hlead, join_members]
      rfl

/-- What a column is tested against does not begin like the word of a negation. -/
theorem not_prefix_operand {asked : Test} (h : asked.isPlain = true) (t : Tail) :
    ¬ ['N', 'O'] <+: (asked.operand.ahead t).chars := by
  cases asked with
  | compare op value =>
      rw [operand, Fragment.ahead_ofValue]
      simp
  | compareColumn op right =>
      rw [operand, Fragment.ahead_ofText]
      rcases exists_cons_of_isRightSide h with ⟨first, rest, hright, hlower⟩ | hright
      · intro hbegins
        rw [hright, List.cons_append] at hbegins
        have hfirst : 'N' = first := (List.cons_prefix_cons.mp hbegins).1
        rw [← hfirst] at hlower
        exact absurd hlower (by decide)
      · rw [hright]
        simp
  | membership first others negated =>
      rw [operand, Fragment.ahead_parens, Fragment.ahead_ofText]
      simp

/-- No right side begins with a marker. -/
theorem right_ne_value {right : String} (h : isRightSide right = true) {value : Value}
    {t t' : Tail} : (Fragment.ofText right).ahead t ≠ (Fragment.ofValue value).ahead t' := by
  intro heq
  rw [Fragment.ahead_ofText, Fragment.ahead_ofValue] at heq
  rcases exists_cons_of_isRightSide h with ⟨first, rest, hright, hlower⟩ | hright
  · rw [hright] at heq
    rw [Tail.first_eq heq] at hlower
    exact absurd hlower (by decide)
  · rw [hright] at heq
    exact absurd (Tail.first_eq heq) (by decide)

/-- A right side is read up to the first character that ends it. -/
theorem right_inj {right right' : String} (h : isRightSide right = true)
    (h' : isRightSide right' = true) {t t' : Tail} (ht : t.Ended) (ht' : t'.Ended)
    (heq : (Fragment.ofText right).ahead t = (Fragment.ofText right').ahead t') :
    right = right' ∧ t = t' := by
  obtain ⟨hchars, hvalues⟩ := Tail.mk.inj heq
  obtain ⟨hright, hrest⟩ := word_inj (endsWord_of_isRightSide h) (endsWord_of_isRightSide h')
    ht ht' hchars
  refine ⟨String.toList_inj.mp hright, ?_⟩
  ext1
  · exact hrest
  · exact hvalues

/-- What a column is tested against is read from the front. -/
theorem operand_inj {asked asked' : Test} (h : asked.isPlain = true) (h' : asked'.isPlain = true)
    (hop : asked.operator = asked'.operator) {t t' : Tail} (ht : t.Ended) (ht' : t'.Ended)
    (heq : asked.operand.ahead t = asked'.operand.ahead t') : asked = asked' ∧ t = t' := by
  cases asked with
  | compare op value =>
      cases asked' with
      | compare op' value' =>
          obtain ⟨hvalue, hrest⟩ := Fragment.ahead_ofValue_inj heq
          obtain rfl : op = op' := Operator.comparison.inj hop
          exact ⟨by rw [hvalue], hrest⟩
      | compareColumn op' right' => exact absurd heq.symm (right_ne_value h')
      | membership first' others' negated' => exact absurd hop Operator.noConfusion
  | compareColumn op right =>
      cases asked' with
      | compare op' value' => exact absurd heq (right_ne_value h)
      | compareColumn op' right' =>
          obtain ⟨hright, hrest⟩ := right_inj h h' ht ht' heq
          obtain rfl : op = op' := Operator.comparison.inj hop
          exact ⟨by rw [hright], hrest⟩
      | membership first' others' negated' => exact absurd hop Operator.noConfusion
  | membership first others negated =>
      cases asked' with
      | compare op' value' => exact absurd hop Operator.noConfusion
      | compareColumn op' right' => exact absurd hop Operator.noConfusion
      | membership first' others' negated' =>
          rw [operand, operand, Fragment.ahead_parens, Fragment.ahead_parens,
            Fragment.ahead_append, Fragment.ahead_append] at heq
          obtain ⟨hfirst, hmembers⟩ := Fragment.ahead_ofValue_inj (Fragment.ahead_ofText_inj heq)
          obtain ⟨hothers, hrest⟩ := furtherMembers_inj hmembers
          obtain rfl : negated = negated' := Operator.membership.inj hop
          exact ⟨by rw [hfirst, hothers], hrest⟩

end Test

end BoundSql
