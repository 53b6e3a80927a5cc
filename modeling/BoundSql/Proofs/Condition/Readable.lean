import BoundSql.Proofs.Condition.Tests

/-!
# Conditions can be read back

From the text and the values of a compiled plain condition its normal form can be read back, term
by term from the front. Two plain conditions are therefore compiled alike only where they have the
same normal form.
-/

namespace BoundSql

namespace NormalTerm

theorem ahead_test (column : String) (asked : Test) (t : Tail) :
    (NormalTerm.test column asked).written.ahead t =
      (lead column asked.operator).ahead (asked.operand.ahead t) := by
  rw [written, Test.compile_term, Fragment.ahead_append]

theorem ahead_constant (truth : Bool) (t : Tail) :
    (NormalTerm.constant truth).written.ahead t =
      ⟨['1', ' ', '=', ' ', if truth then '1' else '0'] ++ t.chars, t.values⟩ := by
  cases truth with
  | false => rfl
  | true => rfl

theorem ahead_group (first : NormalTerm) (rest : List (Connective × NormalTerm)) (t : Tail) :
    (NormalTerm.group first rest).written.ahead t =
      (Fragment.ofText "(").ahead (first.written.ahead ((writtenRest rest).ahead
        ((Fragment.ofText ")").ahead t))) := by
  rw [written, Fragment.ahead_parens, Fragment.ahead_append]

/-- The connective in front of a further term. -/
def link (connective : Connective) : Fragment :=
  .ofText (" " ++ connective.keyword ++ " ")

theorem ahead_link (connective : Connective) (t : Tail) :
    (link connective).ahead t =
      ⟨' ' :: ((connective.keyword ++ " ").toList ++ t.chars), t.values⟩ := by
  simp [link, Fragment.ahead_ofText]

theorem ahead_writtenRest (connective : Connective) (term : NormalTerm)
    (rest : List (Connective × NormalTerm)) (t : Tail) :
    (writtenRest ((connective, term) :: rest)).ahead t =
      (link connective).ahead (term.written.ahead ((writtenRest rest).ahead t)) := by
  rw [writtenRest, Fragment.ahead_append, Fragment.ahead_append]
  rfl

theorem link_inj {connective connective' : Connective} {t t' : Tail}
    (h : (link connective).ahead t = (link connective').ahead t') :
    connective = connective' ∧ t = t' := by
  cases connective with
  | and =>
      cases connective' with
      | and => exact ⟨rfl, Fragment.ahead_ofText_inj h⟩
      | or =>
          obtain ⟨hchars, -⟩ := Tail.mk.inj h
          exact absurd (List.cons.inj (List.cons.inj hchars).2).1 (by decide)
  | or =>
      cases connective' with
      | and =>
          obtain ⟨hchars, -⟩ := Tail.mk.inj h
          exact absurd (List.cons.inj (List.cons.inj hchars).2).1 (by decide)
      | or => exact ⟨rfl, Fragment.ahead_ofText_inj h⟩

/-- No connective stands behind the last term of a list. -/
theorem link_ne {connective : Connective} {t t' : Tail} (ht : t.Closed) :
    (link connective).ahead t' ≠ t := by
  intro h
  have hspace : t.chars.head? = some ' ' := by
    rw [← h, ahead_link]
    rfl
  exact absurd (ht ' ' hspace) (by decide)

/-- A term ends in front of the further terms of its list. -/
theorem ended_writtenRest (rest : List (Connective × NormalTerm)) {t : Tail} (ht : t.Closed) :
    ((writtenRest rest).ahead t).Ended := by
  cases rest with
  | nil => exact ht.ended
  | cons entry rest =>
      rw [ahead_writtenRest, ahead_link]
      intro c hc
      rw [← Option.some.inj hc]
      rfl

/-- A normal term can be told from every plain one with what stands behind them. -/
def Readable (term : NormalTerm) : Prop :=
  ∀ {term' : NormalTerm} {t t' : Tail}, term'.isPlain = true → t.Ended → t'.Ended →
    term.written.ahead t = term'.written.ahead t' → term = term' ∧ t = t'

theorem readable_test {column : String} {asked : Test}
    (hplain : (NormalTerm.test column asked).isPlain = true) :
    (NormalTerm.test column asked).Readable := by
  obtain ⟨hcolumn, hasked⟩ := Bool.and_eq_true_iff.mp hplain
  intro term' t t' hplain' ht ht' h
  rw [ahead_test] at h
  cases term' with
  | test column' asked' =>
      obtain ⟨hcolumn', hasked'⟩ := Bool.and_eq_true_iff.mp hplain'
      rw [ahead_test] at h
      obtain ⟨hcolumns, hop, hoperand⟩ := lead_inj hcolumn hcolumn'
        (Test.not_prefix_operand hasked t) (Test.not_prefix_operand hasked' t') h
      obtain ⟨htests, hrest⟩ := Test.operand_inj hasked hasked' hop ht ht' hoperand
      exact ⟨by rw [hcolumns, htests], hrest⟩
  | constant truth' =>
      rw [ahead_constant] at h
      exact absurd h (lead_ne hcolumn rfl)
  | group first' rest' =>
      rw [ahead_group] at h
      exact absurd h (lead_ne hcolumn rfl)
  | raw fragment' => exact absurd hplain' Bool.false_ne_true

theorem readable_constant (truth : Bool) : (NormalTerm.constant truth).Readable := by
  intro term' t t' hplain' ht ht' h
  cases term' with
  | test column' asked' =>
      exact absurd (readable_test hplain' rfl ht' ht h.symm).1 NormalTerm.noConfusion
  | constant truth' =>
      rw [ahead_constant, ahead_constant] at h
      obtain ⟨hchars, hvalues⟩ := Tail.mk.inj h
      have hequation : ['1', ' ', '=', ' '] ++ (if truth then '1' else '0') :: t.chars =
          ['1', ' ', '=', ' '] ++ (if truth' then '1' else '0') :: t'.chars := hchars
      obtain ⟨hdigit, hrest⟩ := List.cons.inj (List.append_cancel_left hequation)
      have htruth : truth = truth' := by
        revert hdigit
        cases truth <;> cases truth' <;> decide
      refine ⟨by rw [htruth], ?_⟩
      ext1
      · exact hrest
      · exact hvalues
  | group first' rest' =>
      rw [ahead_constant, ahead_group] at h
      exact absurd (Tail.first_eq h) (by decide)
  | raw fragment' => exact absurd hplain' Bool.false_ne_true

/-- Further terms are read up to what closes their list. -/
theorem writtenRest_inj {rest rest' : List (Connective × NormalTerm)}
    (h : ∀ entry ∈ rest, entry.2.Readable) (hplain' : arePlain rest' = true) {t t' : Tail}
    (ht : t.Closed) (ht' : t'.Closed)
    (heq : (writtenRest rest).ahead t = (writtenRest rest').ahead t') : rest = rest' ∧ t = t' := by
  induction rest generalizing rest' with
  | nil =>
      cases rest' with
      | nil => exact ⟨rfl, heq⟩
      | cons entry' rest' =>
          rw [ahead_writtenRest] at heq
          exact absurd heq.symm (link_ne ht)
  | cons entry rest ih =>
      obtain ⟨connective, term⟩ := entry
      cases rest' with
      | nil =>
          rw [ahead_writtenRest] at heq
          exact absurd heq (link_ne ht')
      | cons entry' rest' =>
          obtain ⟨connective', term'⟩ := entry'
          obtain ⟨hterm', hrest'⟩ := Bool.and_eq_true_iff.mp hplain'
          rw [ahead_writtenRest, ahead_writtenRest] at heq
          obtain ⟨hconnectives, heq⟩ := link_inj heq
          have hterm : term.Readable := h _ (List.mem_cons_self ..)
          obtain ⟨hterms, heq⟩ := hterm hterm' (ended_writtenRest rest ht)
            (ended_writtenRest rest' ht') heq
          obtain ⟨hrests, heq⟩ := ih (fun e he => h e (List.mem_cons_of_mem _ he)) hrest' heq
          exact ⟨by rw [hconnectives, hterms, hrests], heq⟩

theorem forall_isPlain {rest : List (Connective × NormalTerm)} (h : arePlain rest = true) :
    ∀ entry ∈ rest, entry.2.isPlain = true := by
  induction rest with
  | nil =>
      intro entry hentry
      simp at hentry
  | cons first rest ih =>
      obtain ⟨hfirst, hrest⟩ := Bool.and_eq_true_iff.mp h
      intro entry hentry
      rcases List.mem_cons.mp hentry with rfl | hentry
      · exact hfirst
      · exact ih hrest entry hentry

/-- Every plain term is told from every other one in front of what ends it. -/
theorem readable_of_isPlain {term : NormalTerm} (h : term.isPlain = true) : term.Readable := by
  induction term with
  | test column asked => exact readable_test h
  | constant truth => exact readable_constant truth
  | group first rest ihfirst ihrest =>
      obtain ⟨hfirst, hrest⟩ := Bool.and_eq_true_iff.mp h
      have hreadable : ∀ entry ∈ rest, entry.2.Readable := by
        intro entry hentry
        exact ihrest entry hentry (forall_isPlain hrest entry hentry)
      intro term' t t' hplain' ht ht' heq
      cases term' with
      | test column' asked' =>
          exact absurd (readable_test hplain' h ht' ht heq.symm).1 NormalTerm.noConfusion
      | constant truth' =>
          exact absurd (readable_constant truth' h ht' ht heq.symm).1 NormalTerm.noConfusion
      | group first' rest' =>
          obtain ⟨hfirst', hrest'⟩ := Bool.and_eq_true_iff.mp hplain'
          have hclosed := Tail.closed_parenthesis t
          have hclosed' := Tail.closed_parenthesis t'
          rw [ahead_group, ahead_group] at heq
          obtain ⟨hfirsts, heq⟩ := ihfirst hfirst hfirst' (ended_writtenRest rest hclosed)
            (ended_writtenRest rest' hclosed') (Fragment.ahead_ofText_inj heq)
          obtain ⟨hrests, heq⟩ := writtenRest_inj hreadable hrest' hclosed hclosed' heq
          exact ⟨by rw [hfirsts, hrests], Fragment.ahead_ofText_inj heq⟩
      | raw fragment' => exact absurd hplain' Bool.false_ne_true
  | raw fragment => exact absurd h Bool.false_ne_true

theorem ahead_written_ne_nil {term : NormalTerm} (h : term.isPlain = true) (t : Tail) :
    (term.written.ahead t).chars ≠ [] := by
  cases term with
  | test column asked =>
      rw [ahead_test, ahead_lead]
      simp
  | constant truth =>
      rw [ahead_constant]
      simp
  | group first rest =>
      rw [ahead_group]
      exact List.cons_ne_nil _ _
  | raw fragment => exact absurd h Bool.false_ne_true

/-- Plain terms one after the other are read to the end. -/
theorem writtenTerms_inj {terms terms' : Option NormalTerms} (h : termsPlain terms = true)
    (h' : termsPlain terms' = true)
    (heq : (writtenTerms terms).ahead ⟨[], []⟩ = (writtenTerms terms').ahead ⟨[], []⟩) :
    terms = terms' := by
  have hnil : Tail.Closed ⟨[], []⟩ := Tail.closed_nil []
  cases terms with
  | none =>
      cases terms' with
      | none => rfl
      | some terms' =>
          obtain ⟨first', rest'⟩ := terms'
          rw [writtenTerms, writtenTerms, Fragment.ahead_append] at heq
          have hfirst' := (Bool.and_eq_true_iff.mp h').1
          exact absurd (congrArg Tail.chars heq).symm (ahead_written_ne_nil hfirst' _)
  | some terms =>
      obtain ⟨first, rest⟩ := terms
      obtain ⟨hfirst, hrest⟩ := Bool.and_eq_true_iff.mp h
      cases terms' with
      | none =>
          rw [writtenTerms, writtenTerms, Fragment.ahead_append] at heq
          exact absurd (congrArg Tail.chars heq) (ahead_written_ne_nil hfirst _)
      | some terms' =>
          obtain ⟨first', rest'⟩ := terms'
          obtain ⟨hfirst', hrest'⟩ := Bool.and_eq_true_iff.mp h'
          rw [writtenTerms, writtenTerms, Fragment.ahead_append, Fragment.ahead_append] at heq
          obtain ⟨hfirsts, heq⟩ := readable_of_isPlain hfirst hfirst'
            (ended_writtenRest rest hnil) (ended_writtenRest rest' hnil) heq
          have hreadable : ∀ entry ∈ rest, entry.2.Readable := by
            intro entry hentry
            exact readable_of_isPlain (forall_isPlain hrest entry hentry)
          obtain ⟨hrests, -⟩ := writtenRest_inj hreadable hrest' hnil hnil heq
          rw [hfirsts, hrests]

end NormalTerm

namespace Condition

/-- A condition is compiled as its normal form is written, in which every connective stands between
two terms and every pair of parentheses holds one. Two plain conditions are compiled with the same
text and the same values exactly where they have the same normal form. -/
theorem compile_eq_iff_normal_eq {p q : Condition} (hp : p.isPlain = true)
    (hq : q.isPlain = true) :
    p.compile = NormalTerm.writtenTerms p.normal ∧
      (p.compile.text = q.compile.text ∧ p.compile.values = q.compile.values ↔
        p.normal = q.normal) := by
  refine ⟨p.compile_eq_written, ?_⟩
  constructor
  · rintro ⟨htext, hvalues⟩
    have hahead : p.compile.ahead ⟨[], []⟩ = q.compile.ahead ⟨[], []⟩ := by
      rw [Fragment.ahead, Fragment.ahead, htext, hvalues]
    rw [compile_eq_written, compile_eq_written] at hahead
    exact NormalTerm.writtenTerms_inj (termsPlain_normal hp) (termsPlain_normal hq) hahead
  · intro h
    rw [compile_eq_written, compile_eq_written, h]
    exact ⟨rfl, rfl⟩

/-- Two conditions that differ in their leading connectives, in an empty group and in the column of
a membership in no values. -/
theorem normal_eq_of_empty_group :
    let p : Condition := ⟨[(.or, .compare "a.b" .isNot (.int 1)),
      (.and, .group [(.or, .group []), (.or, .membership "c" [] true)])]⟩
    let q : Condition := ⟨[(.and, .compare "a.b" .isNot (.int 1)),
      (.and, .group [(.and, .membership "d_2" [] true)])]⟩
    p.isPlain = true ∧ q.isPlain = true ∧ p.compile.text = "a.b IS NOT ? AND (1 = 1)" ∧
      p.normal = q.normal ∧ p.compile = NormalTerm.writtenTerms p.normal ∧
      (p.compile.text = q.compile.text ∧ p.compile.values = q.compile.values ↔
        p.normal = q.normal) := by
  intro p q
  have hp : p.isPlain = true := by decide
  have hq : q.isPlain = true := by decide
  exact ⟨hp, hq, by decide +kernel, rfl, compile_eq_iff_normal_eq hp hq⟩

end Condition

end BoundSql
