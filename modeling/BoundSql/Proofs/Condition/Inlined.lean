import BoundSql.Proofs.Condition.Terms
import BoundSql.Proofs.Fragment.Inlined

/-!
# Conditions written inline

A condition can be written without markers, by one recursion over its terms that spells each
value where its term stands. Compiling the condition and then spelling its values in the places of
their markers gives the same text, so every value stands in its own term.
-/

namespace BoundSql

namespace Term

mutual

/-- A term with its values spelled where they belong. -/
def inlined (spell : Value → String) : Term → String
  | .compare column op value => column ++ " " ++ op.symbol ++ " " ++ spell value
  | .compareColumns left op right => left ++ " " ++ op.symbol ++ " " ++ right
  | .membership column values negated =>
      if values.isEmpty then
        if negated then "1 = 1" else "1 = 0"
      else
        column ++ (if negated then " NOT IN " else " IN ") ++
          ("(" ++ String.intercalate ", " (values.map spell) ++ ")")
  | .group entries =>
      if hasTextEntries entries then "(" ++ inlinedEntries spell true entries ++ ")" else ""
  | .raw fragment => fragment.inlined spell

/-- Terms one after the other, each after its connective unless it is the first that leaves text.
A term that leaves none is left out with its connective. -/
def inlinedEntries (spell : Value → String) : Bool → List (Connective × Term) → String
  | _, [] => ""
  | first, (connective, term) :: rest =>
      if term.hasText then
        (if first then "" else " " ++ connective.keyword ++ " ") ++ term.inlined spell ++
          inlinedEntries spell false rest
      else inlinedEntries spell first rest

end

end Term

namespace Condition

/-- A condition with its values spelled where they belong. -/
def inlined (spell : Value → String) (c : Condition) : String :=
  Term.inlinedEntries spell true c.entries

/-- A keyword and the condition after it with its values spelled, or nothing where no term leaves
text. -/
def inlinedClause (spell : Value → String) (keyword : String) (c : Condition) : String :=
  if c.hasText then keyword ++ c.inlined spell else ""

end Condition

namespace Term

variable (spell : Value → String)

theorem inlined_enclose {inner : Fragment} (h : inner.Aligned) :
    (enclose inner).inlined spell =
      if inner.isEmpty then "" else "(" ++ inner.inlined spell ++ ")" := by
  unfold enclose
  split
  · rename_i hempty
    exact Fragment.inlined_of_isEmpty spell hempty
  · exact h.inlined_parens spell

theorem inlined_compileMembership (column : String) (values : List Value) (negated : Bool) :
    (compileMembership column values negated).inlined spell =
      (Term.membership column values negated).inlined spell := by
  by_cases h : values = []
  · subst h
    simp [compileMembership, inlined]
  · have hmembers : ∀ f ∈ values.map Fragment.ofValue, f.Aligned ∧ f.isEmpty = false := by
      intro f hf
      obtain ⟨value, -, rfl⟩ := List.mem_map.mp hf
      exact ⟨Fragment.closed_aligned.ofValue value, Fragment.isEmpty_ofValue value⟩
    have haligned := Fragment.closed_aligned.join ", " fun f hf => (hmembers f hf).1
    rw [compileMembership_of_ne_nil column negated h, Fragment.inlined_ofText_append,
      haligned.inlined_parens, Fragment.inlined_join spell ", " (fun f hf => (hmembers f hf).1)
        fun f hf => (hmembers f hf).2, inlined, List.isEmpty_eq_false_iff.mpr h]
    simp [Function.comp_def]

/-- Behind what is compiled so far, the terms are spelled one after the other. -/
theorem inlined_foldl_addSeparated {entries : List (Connective × Term)}
    (haligned : ∀ entry ∈ entries, entry.2.compile.Aligned)
    (hinlined : ∀ entry ∈ entries, entry.2.compile.inlined spell = entry.2.inlined spell)
    {sofar : Fragment} (hsofar : sofar.Aligned) :
    ((compileEntries entries).foldl (fun sofar part =>
        sofar.addSeparated (" " ++ part.1.keyword ++ " ") part.2) sofar).inlined spell =
      sofar.inlined spell ++ inlinedEntries spell sofar.isEmpty entries := by
  induction entries generalizing sofar with
  | nil => simp [compileEntries, inlinedEntries]
  | cons entry rest ih =>
      obtain ⟨connective, term⟩ := entry
      have hterm := haligned _ (List.mem_cons_self ..)
      have hspelled := hinlined _ (List.mem_cons_self ..)
      have hempty := term.isEmpty_compile
      have hrest : ∀ e ∈ rest, e ∈ (connective, term) :: rest := fun e he => by simp [he]
      replace ih := @ih (fun e he => haligned e (hrest e he)) fun e he => hinlined e (hrest e he)
      rw [compileEntries, List.foldl_cons, inlinedEntries]
      cases htext : term.hasText with
      | false =>
          have hskip : sofar.addSeparated (" " ++ connective.keyword ++ " ") term.compile =
              sofar := by simp [Fragment.addSeparated, hempty, htext]
          rw [hskip, ih hsofar]
          simp
      | true =>
          cases hfirst : sofar.isEmpty with
          | true =>
              have hadd : sofar.addSeparated (" " ++ connective.keyword ++ " ") term.compile =
                  sofar ++ term.compile := by
                simp [Fragment.addSeparated, hempty, htext, hfirst]
              rw [hadd, ih (Fragment.closed_aligned.append hsofar hterm), hsofar.inlined_append,
                hspelled]
              simp [hempty, htext, String.append_assoc]
          | false =>
              have hadd : sofar.addSeparated (" " ++ connective.keyword ++ " ") term.compile =
                  sofar ++ (.ofText (" " ++ connective.keyword ++ " ") ++ term.compile) := by
                simp [Fragment.addSeparated, hempty, htext, hfirst, Fragment.addText_eq_append,
                  Fragment.append_assoc]
              have hlinked := Fragment.closed_aligned.append
                (Fragment.closed_aligned.ofText (" " ++ connective.keyword ++ " ")) hterm
              rw [hadd, ih (Fragment.closed_aligned.append hsofar hlinked), hsofar.inlined_append,
                Fragment.inlined_ofText_append, hspelled]
              simp [hempty, htext, hfirst, String.append_assoc]

theorem inlined_assemble {entries : List (Connective × Term)}
    (haligned : ∀ entry ∈ entries, entry.2.compile.Aligned)
    (hinlined : ∀ entry ∈ entries, entry.2.compile.inlined spell = entry.2.inlined spell) :
    (Condition.assemble (compileEntries entries)).inlined spell =
      inlinedEntries spell true entries := by
  have h := inlined_foldl_addSeparated spell haligned hinlined Fragment.closed_aligned.empty
  rw [Fragment.inlined_empty, String.empty_append] at h
  exact h

/-- Spelling the values in the fragment of a term gives the term written inline. -/
theorem inlined_compile {term : Term} (h : ∀ f ∈ term.raws, f.Aligned) :
    term.compile.inlined spell = term.inlined spell := by
  induction term with
  | compare column op value =>
      rw [compile, compileCompare, (Fragment.closed_aligned.ofText _).inlined_bind,
        Fragment.inlined_ofText, inlined]
  | compareColumns left op right =>
      rw [compile, compileColumns, Fragment.inlined_ofText, inlined]
  | membership column values negated => exact inlined_compileMembership spell column values negated
  | group entries ih =>
      have hraws : ∀ entry ∈ entries, ∀ f ∈ entry.2.raws, f.Aligned := fun entry hmem f hf =>
        h f (raws_subset_rawsEntries hmem hf)
      have hinner : (Condition.compile ⟨entries⟩).Aligned :=
        Fragment.closed_aligned.compileCondition h
      have hinlined := inlined_assemble spell
        (fun entry hmem => Fragment.closed_aligned.compileTerm (hraws entry hmem))
        fun entry hmem => ih entry hmem (hraws entry hmem)
      rw [compile_group, inlined_enclose spell hinner, Condition.isEmpty_compile, inlined]
      cases htext : hasTextEntries entries with
      | false => simp [Condition.hasText, htext]
      | true => simp [Condition.hasText, htext, Condition.compile, hinlined]
  | raw fragment => rw [compile, inlined]

end Term

namespace Condition

variable (spell : Value → String)

/-- Spelling the values in the fragment of a condition gives the condition written inline. -/
theorem inlined_compile {c : Condition} (h : ∀ f ∈ c.raws, f.Aligned) :
    c.compile.inlined spell = c.inlined spell := by
  have hraws : ∀ entry ∈ c.entries, ∀ f ∈ entry.2.raws, f.Aligned := fun entry hmem f hf =>
    h f (Term.raws_subset_rawsEntries hmem hf)
  exact Term.inlined_assemble spell
    (fun entry hmem => Fragment.closed_aligned.compileTerm (hraws entry hmem))
    fun entry hmem => Term.inlined_compile spell (hraws entry hmem)

theorem inlined_clause (keyword : String) {c : Condition} (h : ∀ f ∈ c.raws, f.Aligned) :
    (c.clause keyword).inlined spell = c.inlinedClause spell keyword := by
  rw [clause, inlinedClause, isEmpty_compile]
  cases c.hasText with
  | false => simp
  | true => simp [inlined_compile spell h]

end Condition

end BoundSql
