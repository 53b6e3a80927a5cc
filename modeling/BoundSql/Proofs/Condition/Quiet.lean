import BoundSql.Proofs.Condition.Terms
import BoundSql.Proofs.Fragment.Quiet

/-!
# Quiet conditions

A condition takes over the sides of its comparisons and its raw fragments as they stand. Where
these are quiet, so is the condition.
-/

namespace BoundSql

namespace Term

mutual

/-- The texts that a term takes over as they stand, at any depth. -/
def verbatim : Term → List String
  | .compare column _ _ => [column]
  | .compareColumns left _ right => [left, right]
  | .membership column _ _ => [column]
  | .group entries => verbatimEntries entries
  | .raw _ => []

/-- The texts that terms take over, one term after the other. -/
def verbatimEntries : List (Connective × Term) → List String
  | [] => []
  | (_, term) :: rest => term.verbatim ++ verbatimEntries rest

end

theorem verbatim_subset_verbatimEntries {entries : List (Connective × Term)}
    {entry : Connective × Term} (h : entry ∈ entries) :
    entry.2.verbatim ⊆ verbatimEntries entries := by
  induction entries with
  | nil => simp at h
  | cons first rest ih =>
      rw [verbatimEntries]
      rcases List.mem_cons.mp h with rfl | h
      · exact List.subset_append_left _ _
      · exact List.subset_append_of_subset_right _ (ih h)

end Term

/-- The texts that a condition takes over as they stand, at any depth. -/
def Condition.verbatim (c : Condition) : List String :=
  Term.verbatimEntries c.entries

namespace Fragment.Quiet

variable {style : Placeholder}

theorem symbol (op : Comparison) : (Fragment.ofText op.symbol).Quiet style := by
  cases op <;> exact .of_plain (by decide)

theorem isKeyword_connective (c : Connective) :
    Fragment.isKeyword (" " ++ c.keyword ++ " ") := by
  cases c <;> decide

theorem compileMembership {column : String} (h : (Fragment.ofText column).Quiet style)
    (values : List Value) (negated : Bool) :
    (Term.compileMembership column values negated).Quiet style := by
  by_cases hvalues : values = []
  · subst hvalues
    cases negated <;> exact .of_plain (by decide)
  · rw [Term.compileMembership_of_ne_nil column negated hvalues]
    have hkeyword : (Fragment.ofText (if negated then " NOT IN " else " IN ")).Quiet style := by
      cases negated <;> exact .of_plain (by decide)
    apply (h.text_append hkeyword).ofText_append
    apply parens
    apply join (by decide)
    intro f hf
    obtain ⟨value, -, rfl⟩ := List.mem_map.mp hf
    exact .ofValue value

theorem assemble {parts : List (Connective × Fragment)}
    (h : ∀ part ∈ parts, part.2.Quiet style) : (Condition.assemble parts).Quiet style := by
  rw [Condition.assemble_eq_chain]
  apply chain
  · intro p hp
    obtain ⟨part, -, rfl⟩ := List.mem_map.mp hp
    exact isKeyword_connective part.1
  · intro p hp
    obtain ⟨part, hmem, rfl⟩ := List.mem_map.mp hp
    exact h part (List.mem_filter.mp hmem).1

theorem enclose {inner : Fragment} (h : inner.Quiet style) : (Term.enclose inner).Quiet style := by
  unfold Term.enclose
  split
  · exact h
  · exact h.parens

/-- A term is quiet where all that it takes over is. -/
theorem compileTerm {term : Term} (htext : ∀ t ∈ term.verbatim, (Fragment.ofText t).Quiet style)
    (hraws : ∀ f ∈ term.raws, f.Quiet style) : term.compile.Quiet style := by
  induction term with
  | compare column op value =>
      have hcolumn := htext column (by simp [Term.verbatim])
      rw [Term.compile, Term.compileCompare]
      apply bind
      exact ((hcolumn.text_append (.of_plain (by decide))).text_append (.symbol op)).text_append
        (.of_plain (by decide))
  | compareColumns left op right =>
      have hleft := htext left (by simp [Term.verbatim])
      have hright := htext right (by simp [Term.verbatim])
      rw [Term.compile, Term.compileColumns]
      exact (((hleft.text_append (.of_plain (by decide))).text_append (.symbol op)).text_append
        (.of_plain (by decide))).text_append hright
  | membership column values negated =>
      exact compileMembership (htext column (by simp [Term.verbatim])) values negated
  | group entries ih =>
      rw [Term.compile, Term.compileEntries_eq_map]
      apply enclose
      apply assemble
      intro part hpart
      obtain ⟨entry, hmem, rfl⟩ := List.mem_map.mp hpart
      exact ih entry hmem (fun t ht => htext t (Term.verbatim_subset_verbatimEntries hmem ht))
        fun f hf => hraws f (Term.raws_subset_rawsEntries hmem hf)
  | raw fragment => exact hraws fragment (by simp [Term.raws])

/-- A condition is quiet where all that it takes over is. -/
theorem compileCondition {c : Condition} (htext : ∀ t ∈ c.verbatim, (Fragment.ofText t).Quiet style)
    (hraws : ∀ f ∈ c.raws, f.Quiet style) : c.compile.Quiet style := by
  rw [Condition.compile, Term.compileEntries_eq_map]
  apply assemble
  intro part hpart
  obtain ⟨entry, hmem, rfl⟩ := List.mem_map.mp hpart
  exact compileTerm (fun t ht => htext t (Term.verbatim_subset_verbatimEntries hmem ht))
    fun f hf => hraws f (Term.raws_subset_rawsEntries hmem hf)

/-- A clause is quiet and may stand behind anything. -/
theorem clause {keyword : String} {c : Condition} (hkeyword : Fragment.isKeyword keyword)
    (htext : ∀ t ∈ c.verbatim, (Fragment.ofText t).Quiet style)
    (hraws : ∀ f ∈ c.raws, f.Quiet style) :
    (c.clause keyword).Attachable style := by
  unfold Condition.clause
  split
  · exact .empty
  · exact .ofText_append hkeyword (compileCondition htext hraws)

end Fragment.Quiet

end BoundSql
