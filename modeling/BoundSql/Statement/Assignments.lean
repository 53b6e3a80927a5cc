import BoundSql.Value.Basic

/-!
# Assignments

Columns with the values that they get, in order and at least one of them.
-/

namespace BoundSql

/-- At least one column with its value. -/
structure Assignments where
  pairs : List (String × Value)
  pairs_ne_nil : pairs ≠ []

namespace Assignments

/-- A value for one column. -/
def single (column : String) (value : Value) : Assignments :=
  ⟨[(column, value)], List.cons_ne_nil _ _⟩

/-- Add columns with their values at the end, perhaps none. -/
def addAll (a : Assignments) (pairs : List (String × Value)) : Assignments :=
  ⟨a.pairs ++ pairs, List.append_ne_nil_of_left_ne_nil a.pairs_ne_nil pairs⟩

/-- Add a column with its value at the end. -/
def add (a : Assignments) (column : String) (value : Value) : Assignments :=
  a.addAll [(column, value)]

/-- The columns in order. -/
def columns (a : Assignments) : List String :=
  a.pairs.map Prod.fst

/-- The values in order. -/
def values (a : Assignments) : List Value :=
  a.pairs.map Prod.snd

@[simp] theorem pairs_single (column : String) (value : Value) :
    (single column value).pairs = [(column, value)] := rfl

@[simp] theorem pairs_addAll (a : Assignments) (pairs : List (String × Value)) :
    (a.addAll pairs).pairs = a.pairs ++ pairs := rfl

@[simp] theorem pairs_add (a : Assignments) (column : String) (value : Value) :
    (a.add column value).pairs = a.pairs ++ [(column, value)] := rfl

end Assignments

end BoundSql
