import BoundSql.Condition.Filtered

/-!
# Calls on conditions

Whatever holds a condition is built by the same calls. As data, a call can stand in a list, and a
run of calls is such a list. However a call is named, all that it does is to add one entry. Where a
condition can be read from what holds it and put back, a run of calls changes the condition as it
does on its own and leaves everything else as it was.
-/

namespace BoundSql.Filtered

/-- A call that adds a term to a condition. -/
inductive Call
  | addTerm (connective : Connective) (term : Term)
  | andWhere (column : String) (op : Comparison) (value : Value)
  | orWhere (column : String) (op : Comparison) (value : Value)
  | andWhereColumns (left : String) (op : Comparison) (right : String)
  | orWhereColumns (left : String) (op : Comparison) (right : String)
  | andWhereIn (column : String) (values : List Value)
  | andWhereNotIn (column : String) (values : List Value)
  | orWhereIn (column : String) (values : List Value)
  | orWhereNotIn (column : String) (values : List Value)
  | andWhereNull (column : String)
  | andWhereNotNull (column : String)
  | orWhereNull (column : String)
  | orWhereNotNull (column : String)
  | andWhereRaw (fragment : Fragment)
  | orWhereRaw (fragment : Fragment)
  | andWhereGroup (build : Condition → Condition)
  | orWhereGroup (build : Condition → Condition)

namespace Call

/-- Make a call on something that holds a condition. -/
def apply {α : Type} [Filtered α] : Call → α → α
  | .addTerm connective term => Filtered.addTerm connective term
  | .andWhere column op value => Filtered.andWhere column op value
  | .orWhere column op value => Filtered.orWhere column op value
  | .andWhereColumns left op right => Filtered.andWhereColumns left op right
  | .orWhereColumns left op right => Filtered.orWhereColumns left op right
  | .andWhereIn column values => Filtered.andWhereIn column values
  | .andWhereNotIn column values => Filtered.andWhereNotIn column values
  | .orWhereIn column values => Filtered.orWhereIn column values
  | .orWhereNotIn column values => Filtered.orWhereNotIn column values
  | .andWhereNull column => Filtered.andWhereNull column
  | .andWhereNotNull column => Filtered.andWhereNotNull column
  | .orWhereNull column => Filtered.orWhereNull column
  | .orWhereNotNull column => Filtered.orWhereNotNull column
  | .andWhereRaw fragment => Filtered.andWhereRaw fragment
  | .orWhereRaw fragment => Filtered.orWhereRaw fragment
  | .andWhereGroup build => Filtered.andWhereGroup build
  | .orWhereGroup build => Filtered.orWhereGroup build

/-- The entry that a call adds. -/
def entry : Call → Connective × Term
  | .addTerm connective term => (connective, term)
  | .andWhere column op value => (.and, .compare column op value)
  | .orWhere column op value => (.or, .compare column op value)
  | .andWhereColumns left op right => (.and, .compareColumns left op right)
  | .orWhereColumns left op right => (.or, .compareColumns left op right)
  | .andWhereIn column values => (.and, .membership column values false)
  | .andWhereNotIn column values => (.and, .membership column values true)
  | .orWhereIn column values => (.or, .membership column values false)
  | .orWhereNotIn column values => (.or, .membership column values true)
  | .andWhereNull column => (.and, .compareColumns column .is "NULL")
  | .andWhereNotNull column => (.and, .compareColumns column .isNot "NULL")
  | .orWhereNull column => (.or, .compareColumns column .is "NULL")
  | .orWhereNotNull column => (.or, .compareColumns column .isNot "NULL")
  | .andWhereRaw fragment => (.and, .raw fragment)
  | .orWhereRaw fragment => (.or, .raw fragment)
  | .andWhereGroup build => (.and, .group (build ∅).entries)
  | .orWhereGroup build => (.or, .group (build ∅).entries)

theorem apply_eq_addTerm {α : Type} [Filtered α] (call : Call) (s : α) :
    call.apply s = Filtered.addTerm call.entry.1 call.entry.2 s := by
  cases call <;> rfl

end Call

/-- What holds a condition holds the one that was put in last, and nothing else of it depends on
the condition. -/
class Lawful (α : Type) [Filtered α] : Prop where
  condition_withCondition (s : α) (c : Condition) : condition (withCondition s c) = c
  withCondition_condition (s : α) : withCondition s (condition s) = s
  withCondition_withCondition (s : α) (c other : Condition) :
    withCondition (withCondition s c) other = withCondition s other

instance : Lawful Condition := ⟨fun _ _ => rfl, fun _ => rfl, fun _ _ _ => rfl⟩

/-- Make calls one after the other. -/
def run {α : Type} [Filtered α] (calls : List Call) (s : α) : α :=
  calls.foldl (fun s call => call.apply s) s

variable {α : Type} [Filtered α]

@[simp] theorem run_nil (s : α) : run [] s = s := rfl

@[simp] theorem run_cons (call : Call) (calls : List Call) (s : α) :
    run (call :: calls) s = run calls (call.apply s) := rfl

/-- A call changes the condition as it does on its own. -/
theorem Call.apply_eq_withCondition (call : Call) (s : α) :
    call.apply s = withCondition s (call.apply (condition s)) := by
  rw [apply_eq_addTerm, apply_eq_addTerm]
  rfl

/-- A run of calls changes the condition as it does on its own. -/
theorem run_eq_withCondition [Lawful α] (calls : List Call) (s : α) :
    run calls s = withCondition s (run calls (condition s)) := by
  induction calls generalizing s with
  | nil => rw [run_nil, run_nil, Lawful.withCondition_condition]
  | cons call calls ih =>
      rw [run_cons, ih, call.apply_eq_withCondition s, Lawful.condition_withCondition,
        Lawful.withCondition_withCondition, run_cons]

end BoundSql.Filtered
