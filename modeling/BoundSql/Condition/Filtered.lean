import BoundSql.Condition.Basic

/-!
# Building conditions

Everything that holds a condition on its rows is built with the same calls. Each call adds one
term at the end; a group is built from the empty condition by a function.
-/

namespace BoundSql

/-- A type whose elements hold a condition. -/
class Filtered (α : Type) where
  condition : α → Condition
  withCondition : α → Condition → α

instance : Filtered Condition := ⟨id, fun _ c => c⟩

namespace Filtered

variable {α : Type} [Filtered α]

/-- Add a term at the end of the condition. -/
def addTerm (connective : Connective) (term : Term) (s : α) : α :=
  withCondition s ((condition s).add connective term)

/-- And the column compares so with the value. -/
def andWhere (column : String) (op : Comparison) (value : Value) : α → α :=
  addTerm .and (.compare column op value)

/-- Or the column compares so with the value. -/
def orWhere (column : String) (op : Comparison) (value : Value) : α → α :=
  addTerm .or (.compare column op value)

/-- And the left side compares so with the right one. -/
def andWhereColumns (left : String) (op : Comparison) (right : String) : α → α :=
  addTerm .and (.compareColumns left op right)

/-- Or the left side compares so with the right one. -/
def orWhereColumns (left : String) (op : Comparison) (right : String) : α → α :=
  addTerm .or (.compareColumns left op right)

/-- And the column is one of the values. -/
def andWhereIn (column : String) (values : List Value) : α → α :=
  addTerm .and (.membership column values false)

/-- And the column is none of the values. -/
def andWhereNotIn (column : String) (values : List Value) : α → α :=
  addTerm .and (.membership column values true)

/-- Or the column is one of the values. -/
def orWhereIn (column : String) (values : List Value) : α → α :=
  addTerm .or (.membership column values false)

/-- Or the column is none of the values. -/
def orWhereNotIn (column : String) (values : List Value) : α → α :=
  addTerm .or (.membership column values true)

/-- And the column is null. -/
def andWhereNull (column : String) : α → α :=
  andWhereColumns column .is "NULL"

/-- And the column is not null. -/
def andWhereNotNull (column : String) : α → α :=
  andWhereColumns column .isNot "NULL"

/-- Or the column is null. -/
def orWhereNull (column : String) : α → α :=
  orWhereColumns column .is "NULL"

/-- Or the column is not null. -/
def orWhereNotNull (column : String) : α → α :=
  orWhereColumns column .isNot "NULL"

/-- And the fragment holds. -/
def andWhereRaw (fragment : Fragment) : α → α :=
  addTerm .and (.raw fragment)

/-- Or the fragment holds. -/
def orWhereRaw (fragment : Fragment) : α → α :=
  addTerm .or (.raw fragment)

/-- And the group holds. -/
def andWhereGroup (build : Condition → Condition) : α → α :=
  addTerm .and (.group (build ∅).entries)

/-- Or the group holds. -/
def orWhereGroup (build : Condition → Condition) : α → α :=
  addTerm .or (.group (build ∅).entries)

end Filtered

end BoundSql
