import BoundSql.Fragment.Basic
import BoundSql.Json.Tagged

/-!
# Conditions on rows

A condition is a list of terms, each with the connective that joins it to the terms before it. A
group is a term that holds a condition of its own, to any depth.
-/

namespace BoundSql

/-- How a term is joined to those before it. -/
inductive Connective
  | and
  | or
  deriving DecidableEq

namespace Connective

/-- The keyword of a connective. -/
def keyword : Connective → String
  | .and => "AND"
  | .or => "OR"

/-- The tag of a connective in documents. -/
def tag : Connective → String
  | .and => "And"
  | .or => "Or"

/-- The connectives under their tags. -/
def tags : List (String × Connective) :=
  [.and, .or].map fun c => (c.tag, c)

instance : Json.Tagged Connective where
  toDocument c := .string c.tag
  ofDocument? := Json.ofTags? tags

end Connective

/-- A comparison of two scalars. -/
inductive Comparison
  | eq
  | notEq
  | lt
  | ltEq
  | gt
  | gtEq
  | like
  | notLike
  | is
  | isNot
  deriving DecidableEq

namespace Comparison

/-- The operator of a comparison. -/
def symbol : Comparison → String
  | .eq => "="
  | .notEq => "!="
  | .lt => "<"
  | .ltEq => "<="
  | .gt => ">"
  | .gtEq => ">="
  | .like => "LIKE"
  | .notLike => "NOT LIKE"
  | .is => "IS"
  | .isNot => "IS NOT"

/-- The tag of a comparison in documents. -/
def tag : Comparison → String
  | .eq => "Eq"
  | .notEq => "NotEq"
  | .lt => "Lt"
  | .ltEq => "LtEq"
  | .gt => "Gt"
  | .gtEq => "GtEq"
  | .like => "Like"
  | .notLike => "NotLike"
  | .is => "Is"
  | .isNot => "IsNot"

/-- The comparisons under their tags. -/
def tags : List (String × Comparison) :=
  [.eq, .notEq, .lt, .ltEq, .gt, .gtEq, .like, .notLike, .is, .isNot].map fun c => (c.tag, c)

instance : Json.Tagged Comparison where
  toDocument c := .string c.tag
  ofDocument? := Json.ofTags? tags

end Comparison

/-- One term of a condition. Column expressions and the sides of a comparison of columns are
taken over as they stand. -/
inductive Term
  | compare (column : String) (op : Comparison) (value : Value)
  | compareColumns (left : String) (op : Comparison) (right : String)
  | membership (column : String) (values : List Value) (negated : Bool)
  | group (entries : List (Connective × Term))
  | raw (fragment : Fragment)
  deriving Inhabited

/-- Terms in order, each with its connective. -/
structure Condition where
  entries : List (Connective × Term)

namespace Term

mutual

/-- Equality of terms; values are compared as values. -/
def beq : Term → Term → Bool
  | .compare c o v, .compare c' o' v' => c == c' && o == o' && v == v'
  | .compareColumns l o r, .compareColumns l' o' r' => l == l' && o == o' && r == r'
  | .membership c vs n, .membership c' vs' n' => c == c' && vs == vs' && n == n'
  | .group es, .group es' => beqEntries es es'
  | .raw f, .raw f' => f == f'
  | _, _ => false

/-- Equality of terms with their connectives, one by one. -/
def beqEntries : List (Connective × Term) → List (Connective × Term) → Bool
  | [], [] => true
  | (c, t) :: rest, (c', t') :: rest' => c == c' && beq t t' && beqEntries rest rest'
  | _, _ => false

end

instance : BEq Term := ⟨beq⟩

end Term

namespace Condition

instance : BEq Condition := ⟨fun a b => Term.beqEntries a.entries b.entries⟩

/-- The condition without terms. -/
def empty : Condition := ⟨[]⟩

instance : EmptyCollection Condition := ⟨empty⟩
instance : Inhabited Condition := ⟨empty⟩

/-- Whether there is no term. -/
def isEmpty (c : Condition) : Bool :=
  c.entries.isEmpty

/-- Add a term at the end. -/
def add (c : Condition) (connective : Connective) (term : Term) : Condition :=
  ⟨c.entries ++ [(connective, term)]⟩

@[simp] theorem entries_empty : (∅ : Condition).entries = [] := rfl

@[simp] theorem entries_add (c : Condition) (connective : Connective) (term : Term) :
    (c.add connective term).entries = c.entries ++ [(connective, term)] := rfl

end Condition

end BoundSql
