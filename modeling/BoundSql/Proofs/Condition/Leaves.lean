import BoundSql.Proofs.Condition.Terms

/-!
# Leaves of conditions

The leaves of a condition are its terms at any depth that are no groups. Whether a condition leaves
text is decided by them alone: it leaves none exactly where each leaf is a raw fragment without
text. How the leaves are grouped, and by which connectives they are joined, does not matter.
-/

namespace BoundSql

namespace Term

mutual

/-- The leaves of a term in order: the terms at any depth that are no groups. -/
def leaves : Term → List Term
  | .compare column op value => [.compare column op value]
  | .compareColumns left op right => [.compareColumns left op right]
  | .membership column values negated => [.membership column values negated]
  | .group entries => leavesEntries entries
  | .raw fragment => [.raw fragment]

/-- The leaves of terms one after the other. -/
def leavesEntries : List (Connective × Term) → List Term
  | [] => []
  | (_, term) :: rest => term.leaves ++ leavesEntries rest

end

/-- Whether a term is a raw fragment without text. -/
def isBlank : Term → Bool
  | .raw fragment => fragment.isEmpty
  | _ => false

/-- Whether a term is a comparison or a membership, even one in no values. -/
def isTest : Term → Bool
  | .compare _ _ _ => true
  | .compareColumns _ _ _ => true
  | .membership _ _ _ => true
  | .group _ => false
  | .raw _ => false

theorem isBlank_eq_false_of_isTest {term : Term} (h : term.isTest) : term.isBlank = false := by
  cases term with
  | raw fragment => exact absurd h Bool.false_ne_true
  | _ => rfl

theorem hasTextEntries_eq_any {entries : List (Connective × Term)}
    (h : ∀ entry ∈ entries, entry.2.hasText = entry.2.leaves.any fun leaf => !leaf.isBlank) :
    hasTextEntries entries = (leavesEntries entries).any fun leaf => !leaf.isBlank := by
  induction entries with
  | nil => rfl
  | cons entry rest ih =>
      rw [hasTextEntries, leavesEntries, List.any_append, h entry List.mem_cons_self,
        ih fun e he => h e (List.mem_cons_of_mem _ he)]

/-- A term leaves text where one of its leaves is not blank. -/
theorem hasText_eq_any (term : Term) :
    term.hasText = term.leaves.any fun leaf => !leaf.isBlank := by
  induction term with
  | group entries ih => exact hasTextEntries_eq_any ih
  | raw fragment => simp [hasText, leaves, isBlank]
  | _ => rfl

end Term

namespace Condition

/-- The leaves of a condition, at any depth and in order. -/
def leaves (c : Condition) : List Term :=
  Term.leavesEntries c.entries

/-- A condition leaves no text exactly where all its leaves are blank. -/
theorem isEmpty_compile_iff (c : Condition) :
    c.compile.isEmpty ↔ ∀ leaf ∈ c.leaves, leaf.isBlank := by
  rw [isEmpty_compile, hasText, Term.hasTextEntries_eq_any fun entry _ => entry.2.hasText_eq_any,
    leaves]
  simp

end Condition

end BoundSql
