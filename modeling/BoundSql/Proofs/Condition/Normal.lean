import BoundSql.Proofs.Condition.Terms

/-!
# Normal forms of conditions

The normal form of a condition is what can be read back from it once it is compiled. Terms that
leave no text are gone with their connectives, the first term of every list has no connective, and
membership in no values is the constant that it stands for. In a normal form no group is empty, and
membership is in at least one value.
-/

namespace BoundSql

/-- What is asked of a column. -/
inductive Test
  | compare (op : Comparison) (value : Value)
  | compareColumn (op : Comparison) (right : String)
  | membership (first : Value) (others : List Value) (negated : Bool)

/-- A term that leaves text. The first term of a group has no connective. -/
inductive NormalTerm
  | test (column : String) (asked : Test)
  | constant (truth : Bool)
  | group (first : NormalTerm) (rest : List (Connective × NormalTerm))
  | raw (fragment : Fragment)

/-- The first term, and each further term with its connective. -/
abbrev NormalTerms := NormalTerm × List (Connective × NormalTerm)

namespace Test

/-- The term that asks this of a column. -/
def term (column : String) : Test → Term
  | .compare op value => .compare column op value
  | .compareColumn op right => .compareColumns column op right
  | .membership first others negated => .membership column (first :: others) negated

end Test

namespace NormalTerm

/-- Induction on normal terms: a group may use the property of its first term and of each further
one. -/
@[elab_as_elim, induction_eliminator]
theorem induction {motive : NormalTerm → Prop}
    (test : ∀ column asked, motive (.test column asked))
    (constant : ∀ truth, motive (.constant truth))
    (group : ∀ first rest, motive first → (∀ entry ∈ rest, motive entry.2) →
      motive (.group first rest))
    (raw : ∀ fragment, motive (.raw fragment)) : ∀ term, motive term
  | .test column asked => test column asked
  | .constant truth => constant truth
  | .group first rest => group first rest (induction test constant group raw first)
      fun entry _ => induction test constant group raw entry.2
  | .raw fragment => raw fragment
termination_by term => sizeOf term
decreasing_by
  · rw [BoundSql.NormalTerm.group.sizeOf_spec]
    omega
  · rename_i hmem
    have hlt := sizeOf_snd_lt_of_mem hmem
    rw [BoundSql.NormalTerm.group.sizeOf_spec]
    omega

mutual

/-- A normal term as it is written. -/
def written : NormalTerm → Fragment
  | .test column asked => (asked.term column).compile
  | .constant truth => .ofText (if truth then "1 = 1" else "1 = 0")
  | .group first rest => (first.written ++ writtenRest rest).parens
  | .raw fragment => fragment

/-- Further terms as they are written, each after its connective. -/
def writtenRest : List (Connective × NormalTerm) → Fragment
  | [] => ∅
  | (connective, term) :: rest =>
      .ofText (" " ++ connective.keyword ++ " ") ++ term.written ++ writtenRest rest

end

theorem writtenRest_eq_concat (rest : List (Connective × NormalTerm)) :
    writtenRest rest = .concat (rest.map fun entry =>
      .ofText (" " ++ entry.1.keyword ++ " ") ++ entry.2.written) := by
  induction rest with
  | nil => rfl
  | cons entry rest ih => rw [writtenRest, ih, List.map_cons, Fragment.concat_cons]

/-- Normal terms one after the other as they are written, or nothing where there is none. -/
def writtenTerms : Option NormalTerms → Fragment
  | none => ∅
  | some (first, rest) => first.written ++ writtenRest rest

/-- Forget the connective of the first term. -/
def forgetFirst : List (Connective × NormalTerm) → Option NormalTerms
  | [] => none
  | (_, first) :: rest => some (first, rest)

theorem writtenTerms_forgetFirst (entries : List (Connective × NormalTerm)) :
    writtenTerms (forgetFirst entries) = .chain (entries.map fun entry =>
      (" " ++ entry.1.keyword ++ " ", entry.2.written)) := by
  cases entries with
  | nil => rfl
  | cons entry rest =>
      rw [forgetFirst, writtenTerms, writtenRest_eq_concat, List.map_cons, Fragment.chain,
        List.map_map]
      rfl

end NormalTerm

namespace Term

mutual

/-- The normal form of a term that leaves text. -/
def normal? : Term → Option NormalTerm
  | .compare column op value => some (.test column (.compare op value))
  | .compareColumns left op right => some (.test left (.compareColumn op right))
  | .membership _ [] negated => some (.constant negated)
  | .membership column (first :: others) negated =>
      some (.test column (.membership first others negated))
  | .group entries =>
      (NormalTerm.forgetFirst (normalEntries entries)).map fun terms => .group terms.1 terms.2
  | .raw fragment => if fragment.isEmpty then none else some (.raw fragment)

/-- The normal forms of the terms that leave text, each with its connective. -/
def normalEntries : List (Connective × Term) → List (Connective × NormalTerm)
  | [] => []
  | (connective, term) :: rest =>
      match term.normal? with
      | none => normalEntries rest
      | some normal => (connective, normal) :: normalEntries rest

end

/-- A term is compiled as its normal form is written, and leaves no text where it has none. -/
def Normalizes (term : Term) : Prop :=
  match term.normal? with
  | none => term.compile.isEmpty = true
  | some normal => term.compile = normal.written ∧ term.compile.isEmpty = false

/-- The terms that are not left out are those that have a normal form. -/
theorem filter_compileEntries {entries : List (Connective × Term)}
    (h : ∀ entry ∈ entries, entry.2.Normalizes) :
    (compileEntries entries).filter (fun part => !part.2.isEmpty) =
      (normalEntries entries).map fun entry => (entry.1, entry.2.written) := by
  induction entries with
  | nil => rfl
  | cons entry rest ih =>
      obtain ⟨connective, term⟩ := entry
      have hterm : term.Normalizes := h _ (List.mem_cons_self ..)
      have hrest := ih fun e he => h e (List.mem_cons_of_mem _ he)
      unfold Normalizes at hterm
      rw [compileEntries, normalEntries]
      cases hnormal : term.normal? with
      | none =>
          rw [hnormal] at hterm
          rw [List.filter_cons_of_neg (by simpa using hterm), hrest]
      | some normal =>
          rw [hnormal] at hterm
          rw [List.filter_cons_of_pos (by simpa using hterm.2), hrest, hterm.1, List.map_cons]

theorem assemble_compileEntries {entries : List (Connective × Term)}
    (h : ∀ entry ∈ entries, entry.2.Normalizes) :
    Condition.assemble (compileEntries entries) =
      NormalTerm.writtenTerms (NormalTerm.forgetFirst (normalEntries entries)) := by
  rw [Condition.assemble_eq_chain, filter_compileEntries h, NormalTerm.writtenTerms_forgetFirst,
    List.map_map]
  rfl

theorem isEmpty_written_of_mem {entries : List (Connective × Term)}
    (h : ∀ entry ∈ entries, entry.2.Normalizes) {entry : Connective × NormalTerm}
    (hmem : entry ∈ normalEntries entries) : entry.2.written.isEmpty = false := by
  have hkept : (entry.1, entry.2.written) ∈
      (compileEntries entries).filter fun part => !part.2.isEmpty := by
    rw [filter_compileEntries h]
    exact List.mem_map_of_mem hmem
  simpa using (List.mem_filter.mp hkept).2

theorem enclose_written {first : NormalTerm} (hfirst : first.written.isEmpty = false)
    (rest : List (Connective × NormalTerm)) :
    enclose (first.written ++ NormalTerm.writtenRest rest) =
      (NormalTerm.group first rest).written := by
  have hinner : (first.written ++ NormalTerm.writtenRest rest).isEmpty = false := by
    rw [Fragment.isEmpty_append, hfirst, Bool.false_and]
  rw [enclose, hinner, NormalTerm.written]
  rfl

theorem compile_membership_nil (column : String) (negated : Bool) :
    (Term.membership column [] negated).compile = (NormalTerm.constant negated).written := rfl

theorem normalizes (term : Term) : term.Normalizes := by
  induction term with
  | compare column op value =>
      exact ⟨rfl, by rw [isEmpty_compile]; rfl⟩
  | compareColumns left op right =>
      exact ⟨rfl, by rw [isEmpty_compile]; rfl⟩
  | membership column values negated =>
      cases values with
      | nil => exact ⟨compile_membership_nil column negated, by rw [isEmpty_compile]; rfl⟩
      | cons first others => exact ⟨rfl, by rw [isEmpty_compile]; rfl⟩
  | group entries ih =>
      unfold Normalizes
      rw [normal?, compile, assemble_compileEntries ih]
      cases hnormal : normalEntries entries with
      | nil => rfl
      | cons entry rest =>
          obtain ⟨connective, first⟩ := entry
          have hmem : (connective, first) ∈ normalEntries entries := by
            rw [hnormal]
            exact List.mem_cons_self ..
          have hfirst : first.written.isEmpty = false := isEmpty_written_of_mem ih hmem
          have henclose := enclose_written hfirst rest
          have hempty : (NormalTerm.group first rest).written.isEmpty = false := by
            rw [NormalTerm.written]
            exact Fragment.isEmpty_parens _
          rw [← henclose] at hempty
          exact ⟨henclose, hempty⟩
  | raw fragment =>
      unfold Normalizes
      rw [normal?, compile]
      cases fragment.isEmpty with
      | true => rfl
      | false => exact ⟨rfl, rfl⟩

end Term

namespace Condition

/-- The normal form of a condition, which has no term where none leaves text. -/
def normal (c : Condition) : Option NormalTerms :=
  NormalTerm.forgetFirst (Term.normalEntries c.entries)

/-- A condition is compiled as its normal form is written. -/
theorem compile_eq_written (c : Condition) : c.compile = NormalTerm.writtenTerms c.normal :=
  Term.assemble_compileEntries fun entry _ => entry.2.normalizes

end Condition

end BoundSql
