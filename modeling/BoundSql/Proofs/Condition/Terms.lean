import BoundSql.Condition.Compile
import BoundSql.Proofs.Fragment.Concatenation

/-!
# Terms of conditions

Terms hold conditions, so induction on terms goes through lists of them. Whether a term leaves text
is seen before it is compiled. The fragments that a condition takes over as they stand are its raw
fragments. Everything else in a compiled condition is text and markers; what raw fragments have in
common with these holds of the whole.
-/

namespace BoundSql

theorem sizeOf_snd_lt_of_mem {α β : Type} [SizeOf α] [SizeOf β] {entries : List (α × β)}
    {entry : α × β} (h : entry ∈ entries) : sizeOf entry.2 < sizeOf entries := by
  have hlist := List.sizeOf_lt_of_mem h
  have hpair : sizeOf entry.2 < sizeOf entry := by
    obtain ⟨a, b⟩ := entry
    change sizeOf b < sizeOf (a, b)
    rw [Prod.mk.sizeOf_spec]
    omega
  omega

namespace Term

/-- Induction on terms: a group may use the property of each of its terms. -/
@[elab_as_elim, induction_eliminator]
theorem induction {motive : Term → Prop}
    (compare : ∀ column op value, motive (.compare column op value))
    (compareColumns : ∀ left op right, motive (.compareColumns left op right))
    (membership : ∀ column values negated, motive (.membership column values negated))
    (group : ∀ entries, (∀ entry ∈ entries, motive entry.2) → motive (.group entries))
    (raw : ∀ fragment, motive (.raw fragment)) : ∀ term, motive term
  | .compare column op value => compare column op value
  | .compareColumns left op right => compareColumns left op right
  | .membership column values negated => membership column values negated
  | .group entries => group entries fun entry _ =>
      induction compare compareColumns membership group raw entry.2
  | .raw fragment => raw fragment
termination_by term => sizeOf term
decreasing_by
  rename_i hmem
  have hlt := sizeOf_snd_lt_of_mem hmem
  rw [BoundSql.Term.group.sizeOf_spec]
  omega

mutual

/-- The raw fragments in a term, at any depth and in order. -/
def raws : Term → List Fragment
  | .compare _ _ _ => []
  | .compareColumns _ _ _ => []
  | .membership _ _ _ => []
  | .group entries => rawsEntries entries
  | .raw fragment => [fragment]

/-- The raw fragments in terms one after the other. -/
def rawsEntries : List (Connective × Term) → List Fragment
  | [] => []
  | (_, term) :: rest => term.raws ++ rawsEntries rest

end

mutual

/-- Whether a term leaves text: every term does but a raw fragment without text and a group in
which no term leaves any. -/
def hasText : Term → Bool
  | .compare _ _ _ => true
  | .compareColumns _ _ _ => true
  | .membership _ _ _ => true
  | .group entries => hasTextEntries entries
  | .raw fragment => !fragment.isEmpty

/-- Whether one of the terms leaves text. -/
def hasTextEntries : List (Connective × Term) → Bool
  | [] => false
  | (_, term) :: rest => term.hasText || hasTextEntries rest

end

theorem raws_subset_rawsEntries {entries : List (Connective × Term)} {entry : Connective × Term}
    (h : entry ∈ entries) : entry.2.raws ⊆ rawsEntries entries := by
  induction entries with
  | nil => simp at h
  | cons first rest ih =>
      rw [rawsEntries]
      rcases List.mem_cons.mp h with rfl | h
      · exact List.subset_append_left _ _
      · exact List.subset_append_of_subset_right _ (ih h)

end Term

namespace Condition

/-- The raw fragments in a condition, at any depth and in order. -/
def raws (c : Condition) : List Fragment :=
  Term.rawsEntries c.entries

/-- Whether one of the terms of a condition leaves text. -/
def hasText (c : Condition) : Bool :=
  Term.hasTextEntries c.entries

/-- What is assembled is the chain of the parts that have text, each after its keyword. -/
theorem assemble_eq_chain (parts : List (Connective × Fragment)) :
    assemble parts =
      .chain ((parts.filter fun part => !part.2.isEmpty).map fun part =>
        (" " ++ part.1.keyword ++ " ", part.2)) := by
  unfold assemble
  rw [Fragment.foldl_addSeparated_eq_chain
    (fun part : Connective × Fragment => " " ++ part.1.keyword ++ " ") Prod.snd]

theorem isEmpty_assemble (parts : List (Connective × Fragment)) :
    (assemble parts).isEmpty = parts.all fun part => part.2.isEmpty := by
  rw [assemble_eq_chain]
  induction parts with
  | nil => rfl
  | cons part rest ih =>
      cases h : part.2.isEmpty with
      | true => simpa [h] using ih
      | false => simp [h, Fragment.chain]

end Condition

/-- Members of a list stand after their column, each as a marker. -/
theorem Term.compileMembership_of_ne_nil (column : String) {values : List Value} (negated : Bool)
    (h : values ≠ []) :
    compileMembership column values negated =
      .ofText (column ++ (if negated then " NOT IN " else " IN ")) ++
        (Fragment.join ", " (values.map .ofValue)).parens := by
  rw [compileMembership, if_neg (by simpa using h)]

namespace Term

theorem isEmpty_enclose (inner : Fragment) : (enclose inner).isEmpty = inner.isEmpty := by
  unfold enclose
  split
  · rfl
  · rename_i h
    simpa using h

theorem isEmpty_compileMembership (column : String) (values : List Value) (negated : Bool) :
    (compileMembership column values negated).isEmpty = false := by
  by_cases h : values = []
  · subst h
    cases negated <;> rfl
  · simp [compileMembership_of_ne_nil column negated h]

theorem isEmpty_compileColumns (left : String) (op : Comparison) (right : String) :
    (compileColumns left op right).isEmpty = false := by
  rw [Bool.eq_false_iff, ne_eq, Fragment.isEmpty_iff]
  intro h
  simpa [compileColumns] using congrArg String.toList h

theorem all_isEmpty_compileEntries {entries : List (Connective × Term)}
    (h : ∀ entry ∈ entries, entry.2.compile.isEmpty = !entry.2.hasText) :
    ((compileEntries entries).all fun part => part.2.isEmpty) = !hasTextEntries entries := by
  induction entries with
  | nil => rfl
  | cons entry rest ih =>
      have hrest := ih fun e he => h e (by simp [he])
      rw [compileEntries, List.all_cons, hrest, h entry (by simp), hasTextEntries, Bool.not_or]

/-- The fragment of a term has text where the term leaves text. -/
theorem isEmpty_compile (term : Term) : term.compile.isEmpty = !term.hasText := by
  induction term with
  | compare column op value => simp [compile, compileCompare, hasText]
  | compareColumns left op right => simp [compile, isEmpty_compileColumns, hasText]
  | membership column values negated => simp [compile, isEmpty_compileMembership, hasText]
  | group entries ih =>
      rw [compile, isEmpty_enclose, Condition.isEmpty_assemble, all_isEmpty_compileEntries ih,
        hasText]
  | raw fragment => simp [compile, hasText]

end Term

theorem Condition.isEmpty_compile (c : Condition) : c.compile.isEmpty = !c.hasText := by
  rw [compile, isEmpty_assemble,
    Term.all_isEmpty_compileEntries fun entry _ => entry.2.isEmpty_compile, hasText]

/-- A condition that leaves no text binds no value either. -/
theorem Condition.compile_eq_empty {c : Condition} (h : c.compile.isEmpty) : c.compile = ∅ := by
  rw [compile, isEmpty_assemble, List.all_eq_true] at h
  have hskipped : (Term.compileEntries c.entries).filter (fun part => !part.2.isEmpty) = [] :=
    List.filter_eq_nil_iff.mpr fun part hmem => by simp [h part hmem]
  rw [compile, assemble_eq_chain, hskipped]
  rfl

namespace Fragment.Closed

variable {P : Fragment → Prop}

theorem assemble (hP : Closed P) {parts : List (Connective × Fragment)}
    (hp : ∀ part ∈ parts, P part.2) : P (Condition.assemble parts) := by
  rw [Condition.assemble_eq_chain]
  apply hP.chain
  intro item hitem
  obtain ⟨part, hmem, rfl⟩ := List.mem_map.mp hitem
  exact hp part (List.mem_filter.mp hmem).1

theorem compileMembership (hP : Closed P) (column : String) (values : List Value)
    (negated : Bool) : P (Term.compileMembership column values negated) := by
  by_cases h : values = []
  · subst h
    exact hP.ofText _
  · rw [Term.compileMembership_of_ne_nil column negated h]
    apply hP.append (hP.ofText _)
    apply hP.parens
    apply hP.join
    intro f hf
    obtain ⟨value, -, rfl⟩ := List.mem_map.mp hf
    exact hP.ofValue value

theorem enclose (hP : Closed P) {inner : Fragment} (h : P inner) : P (Term.enclose inner) := by
  unfold Term.enclose
  split
  · exact h
  · exact hP.parens h

/-- A property that text, markers and the raw fragments of a term have holds of the term. -/
theorem compileTerm (hP : Closed P) {term : Term} (h : ∀ f ∈ term.raws, P f) :
    P term.compile := by
  induction term with
  | compare column op value => exact hP.bind (hP.ofText _) value
  | compareColumns left op right => exact hP.ofText _
  | membership column values negated => exact hP.compileMembership column values negated
  | group entries ih =>
      rw [Term.compile, Term.compileEntries_eq_map]
      apply hP.enclose
      apply hP.assemble
      intro part hpart
      obtain ⟨entry, hmem, rfl⟩ := List.mem_map.mp hpart
      exact ih entry hmem fun f hf => h f (Term.raws_subset_rawsEntries hmem hf)
  | raw fragment => exact h fragment (by simp [Term.raws])

theorem compileCondition (hP : Closed P) {c : Condition} (h : ∀ f ∈ c.raws, P f) :
    P c.compile := by
  rw [Condition.compile, Term.compileEntries_eq_map]
  apply hP.assemble
  intro part hpart
  obtain ⟨entry, hmem, rfl⟩ := List.mem_map.mp hpart
  exact hP.compileTerm fun f hf => h f (Term.raws_subset_rawsEntries hmem hf)

theorem clause (hP : Closed P) (keyword : String) {c : Condition} (h : ∀ f ∈ c.raws, P f) :
    P (c.clause keyword) := by
  unfold Condition.clause
  split
  · exact hP.empty
  · exact hP.append (hP.ofText keyword) (hP.compileCondition h)

end Fragment.Closed

end BoundSql
