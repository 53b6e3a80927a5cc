import BoundSql.Condition.Basic

/-!
# Fragments of conditions

Terms are compiled from left to right and depth first. A term without text is left out together
with its connective, and the first term that is left has no connective. So no keyword stands
alone and no pair of parentheses is empty.
-/

namespace BoundSql

namespace Condition

/-- Fragments one after the other, each after its connective. Those without text are left out. -/
def assemble (parts : List (Connective × Fragment)) : Fragment :=
  parts.foldl (fun sofar part => sofar.addSeparated (" " ++ part.1.keyword ++ " ") part.2) ∅

end Condition

namespace Term

/-- A comparison of a column with a bound value. -/
def compileCompare (column : String) (op : Comparison) (value : Value) : Fragment :=
  (Fragment.ofText (column ++ " " ++ op.symbol ++ " ")).bind value

/-- A comparison of two expressions. -/
def compileColumns (left : String) (op : Comparison) (right : String) : Fragment :=
  .ofText (left ++ " " ++ op.symbol ++ " " ++ right)

/-- Membership in a list of bound values. In no values there is no member: the term is false, and
its negation true. -/
def compileMembership (column : String) (values : List Value) (negated : Bool) : Fragment :=
  if values.isEmpty then
    .ofText (if negated then "1 = 1" else "1 = 0")
  else
    let members := Fragment.join ", " (values.map .ofValue)
    .ofText (column ++ (if negated then " NOT IN " else " IN ")) ++ members.parens

/-- The fragment of a group: parentheses around what its terms leave, if they leave anything. -/
def enclose (inner : Fragment) : Fragment :=
  if inner.isEmpty then inner else inner.parens

mutual

/-- The fragment of a term. -/
def compile : Term → Fragment
  | .compare column op value => compileCompare column op value
  | .compareColumns left op right => compileColumns left op right
  | .membership column values negated => compileMembership column values negated
  | .group entries => enclose (Condition.assemble (compileEntries entries))
  | .raw fragment => fragment

/-- The fragments of terms, each with its connective. -/
def compileEntries : List (Connective × Term) → List (Connective × Fragment)
  | [] => []
  | (connective, term) :: rest => (connective, term.compile) :: compileEntries rest

end

theorem compileEntries_eq_map (entries : List (Connective × Term)) :
    compileEntries entries = entries.map fun entry => (entry.1, entry.2.compile) := by
  induction entries with
  | nil => simp [compileEntries]
  | cons entry rest ih =>
      obtain ⟨connective, term⟩ := entry
      simp [compileEntries, ih]

end Term

namespace Condition

/-- The fragment of a condition. -/
def compile (c : Condition) : Fragment :=
  assemble (Term.compileEntries c.entries)

/-- A keyword and the condition after it, or nothing where the condition leaves no text. -/
def clause (keyword : String) (c : Condition) : Fragment :=
  if c.compile.isEmpty then ∅ else .ofText keyword ++ c.compile

end Condition

/-- A group is its condition in parentheses. -/
theorem Term.compile_group (entries : List (Connective × Term)) :
    (Term.group entries).compile = Term.enclose (Condition.compile ⟨entries⟩) := by
  simp [Term.compile, Condition.compile]

end BoundSql
