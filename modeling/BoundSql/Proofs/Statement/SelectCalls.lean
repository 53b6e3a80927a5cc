import BoundSql.Proofs.Condition.Calls
import BoundSql.Statement.Select
import Mathlib.Data.List.Basic
import Mathlib.Data.List.Induction

/-!
# Runs of calls on selections

A selection is built by a run of calls. However a call is named, it makes a change of one part: it
adds to the part, or replaces what the part holds. So what a run builds can be read off its calls
part by part, and how the calls on different parts are mixed leaves no trace.
-/

namespace BoundSql

section Lists
variable {α β : Type} (f : α → Option β)

theorem filterMap_filter_isSome (xs : List α) :
    (xs.filter fun a => (f a).isSome).filterMap f = xs.filterMap f := by
  rw [List.filterMap_filter]
  apply List.filterMap_congr
  intro a _
  cases h : f a <;> simp

/-- The last image is the image of the last element that has one. -/
theorem getLast?_filterMap_eq_bind (xs : List α) :
    (xs.filterMap f).getLast? = (xs.filter fun a => (f a).isSome).getLast?.bind f := by
  induction xs using List.reverseRecOn with
  | nil => rfl
  | append_singleton xs a ih =>
      cases h : f a with
      | none => simpa [h] using ih
      | some b => simp [h]

end Lists

namespace Select

/-- A change of one part of a selection. -/
inductive Edit
  | columns (names : List String)
  | distinct (b : Bool)
  | join (j : Join)
  | filter (entry : Connective × Term)
  | groups (names : List String)
  | having (entry : Connective × Term)
  | order (key : SortKey)
  | limit (n : Nat)
  | offset (n : Nat)
  | lock (l : RowLock)

namespace Edit

/-- Make a change. -/
def apply (s : Select) : Edit → Select
  | .columns names => { s with columns := names }
  | .distinct b => { s with distinct := b }
  | .join j => { s with joins := s.joins ++ [j] }
  | .filter entry => { s with filter := s.filter.add entry.1 entry.2 }
  | .groups names => { s with groups := s.groups ++ names }
  | .having entry => { s with having := s.having.add entry.1 entry.2 }
  | .order key => { s with order := s.order ++ [key] }
  | .limit n => { s with limit := some n }
  | .offset n => { s with offset := some n }
  | .lock l => { s with lock := some l }

/-- The selected columns that a change gives. -/
def columns? : Edit → Option (List String)
  | .columns names => some names
  | _ => none

/-- What a change says of repeated rows. -/
def distinct? : Edit → Option Bool
  | .distinct b => some b
  | _ => none

/-- The join that a change adds. -/
def join? : Edit → Option Join
  | .join j => some j
  | _ => none

/-- The entry that a change adds to the condition on rows. -/
def filter? : Edit → Option (Connective × Term)
  | .filter entry => some entry
  | _ => none

/-- The columns that a change adds to those by which rows are grouped. -/
def groups? : Edit → Option (List String)
  | .groups names => some names
  | _ => none

/-- The entry that a change adds to the condition on groups. -/
def having? : Edit → Option (Connective × Term)
  | .having entry => some entry
  | _ => none

/-- The sort key that a change adds. -/
def order? : Edit → Option SortKey
  | .order key => some key
  | _ => none

/-- The number of rows that a change gives. -/
def limit? : Edit → Option Nat
  | .limit n => some n
  | _ => none

/-- The number of rows left out that a change gives. -/
def offset? : Edit → Option Nat
  | .offset n => some n
  | _ => none

/-- The lock that a change gives. -/
def lock? : Edit → Option RowLock
  | .lock l => some l
  | _ => none

end Edit

/-- What changes make of the selection of all rows of a table: parts that accumulate hold all that
is added to them, and the other parts what was given last. -/
def edited (table : Table) (edits : List Edit) : Select where
  table := table
  columns := (edits.filterMap Edit.columns?).getLast?.getD []
  distinct := (edits.filterMap Edit.distinct?).getLast?.getD false
  joins := edits.filterMap Edit.join?
  filter := ⟨edits.filterMap Edit.filter?⟩
  groups := (edits.filterMap Edit.groups?).flatten
  having := ⟨edits.filterMap Edit.having?⟩
  order := edits.filterMap Edit.order?
  limit := (edits.filterMap Edit.limit?).getLast?
  offset := (edits.filterMap Edit.offset?).getLast?
  lock := (edits.filterMap Edit.lock?).getLast?

theorem edited_concat (table : Table) (edits : List Edit) (e : Edit) :
    edited table (edits ++ [e]) = e.apply (edited table edits) := by
  cases e <;>
    simp [edited, Edit.apply, Edit.columns?, Edit.distinct?, Edit.join?, Edit.filter?,
      Edit.groups?, Edit.having?, Edit.order?, Edit.limit?, Edit.offset?, Edit.lock?,
      Condition.add]

theorem foldl_apply_eq_edited (table : Table) (edits : List Edit) :
    edits.foldl Edit.apply (ofTable table) = edited table edits := by
  induction edits using List.reverseRecOn with
  | nil => rfl
  | append_singleton edits e ih => rw [List.foldl_concat, ih, edited_concat]

/-- A call on a selection. -/
inductive Call
  | withColumns (columns : List String)
  | withDistinct (distinct : Bool)
  | joinOn (kind : JoinKind) (table : Table) (build : Condition → Condition)
  | innerJoin (table : Table) (left right : String)
  | leftJoin (table : Table) (left right : String)
  | rightJoin (table : Table) (left right : String)
  | fullJoin (table : Table) (left right : String)
  | crossJoin (table : Table)
  | filter (call : Filtered.Call)
  | groupBy (columns : List String)
  | andHaving (column : String) (op : Comparison) (value : Value)
  | orHaving (column : String) (op : Comparison) (value : Value)
  | andHavingColumns (left : String) (op : Comparison) (right : String)
  | andHavingRaw (fragment : Fragment)
  | andHavingGroup (build : Condition → Condition)
  | orderIn (column : String) (direction : Direction)
  | orderBy (column : String)
  | orderByDesc (column : String)
  | withLimit (n : Nat)
  | withOffset (n : Nat)
  | withLock (strength : LockStrength) (wait : Option LockWait)
  | forUpdate
  | forShare

namespace Call

/-- Make a call. -/
def apply (s : Select) : Call → Select
  | .withColumns columns => s.withColumns columns
  | .withDistinct distinct => s.withDistinct distinct
  | .joinOn kind table build => s.joinOn kind table build
  | .innerJoin table left right => s.innerJoin table left right
  | .leftJoin table left right => s.leftJoin table left right
  | .rightJoin table left right => s.rightJoin table left right
  | .fullJoin table left right => s.fullJoin table left right
  | .crossJoin table => s.crossJoin table
  | .filter call => call.apply s
  | .groupBy columns => s.groupBy columns
  | .andHaving column op value => s.andHaving column op value
  | .orHaving column op value => s.orHaving column op value
  | .andHavingColumns left op right => s.andHavingColumns left op right
  | .andHavingRaw fragment => s.andHavingRaw fragment
  | .andHavingGroup build => s.andHavingGroup build
  | .orderIn column direction => s.orderIn column direction
  | .orderBy column => s.orderBy column
  | .orderByDesc column => s.orderByDesc column
  | .withLimit n => s.withLimit n
  | .withOffset n => s.withOffset n
  | .withLock strength wait => s.withLock strength wait
  | .forUpdate => s.forUpdate
  | .forShare => s.forShare

/-- The change that a call makes. -/
def edit : Call → Edit
  | .withColumns columns => .columns columns
  | .withDistinct distinct => .distinct distinct
  | .joinOn kind table build => .join ⟨kind, table, build ∅⟩
  | .innerJoin table left right => .join ⟨.inner, table, ⟨[(.and, .compareColumns left .eq right)]⟩⟩
  | .leftJoin table left right => .join ⟨.left, table, ⟨[(.and, .compareColumns left .eq right)]⟩⟩
  | .rightJoin table left right => .join ⟨.right, table, ⟨[(.and, .compareColumns left .eq right)]⟩⟩
  | .fullJoin table left right => .join ⟨.full, table, ⟨[(.and, .compareColumns left .eq right)]⟩⟩
  | .crossJoin table => .join ⟨.cross, table, ∅⟩
  | .filter call => .filter call.entry
  | .groupBy columns => .groups columns
  | .andHaving column op value => .having (.and, .compare column op value)
  | .orHaving column op value => .having (.or, .compare column op value)
  | .andHavingColumns left op right => .having (.and, .compareColumns left op right)
  | .andHavingRaw fragment => .having (.and, .raw fragment)
  | .andHavingGroup build => .having (.and, .group (build ∅).entries)
  | .orderIn column direction => .order ⟨column, direction⟩
  | .orderBy column => .order ⟨column, .asc⟩
  | .orderByDesc column => .order ⟨column, .desc⟩
  | .withLimit n => .limit n
  | .withOffset n => .offset n
  | .withLock strength wait => .lock ⟨strength, wait⟩
  | .forUpdate => .lock ⟨.update, none⟩
  | .forShare => .lock ⟨.share, none⟩

/-- A call makes its change and no other one. -/
theorem apply_eq_edit (s : Select) (call : Call) : call.apply s = call.edit.apply s := by
  cases call with
  | filter call => exact call.apply_eq_addTerm s
  | _ => rfl

end Call

/-- The selection that a run of calls builds, from all rows of a table. -/
def build (table : Table) (calls : List Call) : Select :=
  calls.foldl Call.apply (ofTable table)

theorem build_eq_edited (table : Table) (calls : List Call) :
    build table calls = edited table (calls.map Call.edit) := by
  have happly : Call.apply = fun s call => call.edit.apply s := by
    funext s call
    exact call.apply_eq_edit s
  rw [build, happly, ← List.foldl_map, foldl_apply_eq_edited]

/-- The calls of a run that give something for one part, in order. -/
def callsOn {α : Type} (part : Edit → Option α) (calls : List Call) : List Call :=
  calls.filter fun call => (part call.edit).isSome

/-- Two runs with the same calls on each part that accumulates and the same last call on each part
that is replaced. -/
structure Alike (calls others : List Call) : Prop where
  joins : callsOn Edit.join? calls = callsOn Edit.join? others
  filter : callsOn Edit.filter? calls = callsOn Edit.filter? others
  groups : callsOn Edit.groups? calls = callsOn Edit.groups? others
  having : callsOn Edit.having? calls = callsOn Edit.having? others
  order : callsOn Edit.order? calls = callsOn Edit.order? others
  columns : (callsOn Edit.columns? calls).getLast? = (callsOn Edit.columns? others).getLast?
  distinct : (callsOn Edit.distinct? calls).getLast? = (callsOn Edit.distinct? others).getLast?
  limit : (callsOn Edit.limit? calls).getLast? = (callsOn Edit.limit? others).getLast?
  offset : (callsOn Edit.offset? calls).getLast? = (callsOn Edit.offset? others).getLast?
  lock : (callsOn Edit.lock? calls).getLast? = (callsOn Edit.lock? others).getLast?

section Part
variable {α : Type} (part : Edit → Option α) {calls others : List Call}

/-- The calls on a part decide what is added to it. -/
theorem added_congr (h : callsOn part calls = callsOn part others) :
    (calls.map Call.edit).filterMap part = (others.map Call.edit).filterMap part := by
  have hadded (run : List Call) : (run.map Call.edit).filterMap part =
      (callsOn part run).filterMap (part ∘ Call.edit) := by
    rw [List.filterMap_map, ← filterMap_filter_isSome (part ∘ Call.edit) run]
    rfl
  rw [hadded, hadded, h]

/-- The last call on a part decides what is given last for it. -/
theorem lastGiven_congr (h : (callsOn part calls).getLast? = (callsOn part others).getLast?) :
    ((calls.map Call.edit).filterMap part).getLast? =
      ((others.map Call.edit).filterMap part).getLast? := by
  have hlast (run : List Call) : ((run.map Call.edit).filterMap part).getLast? =
      (callsOn part run).getLast?.bind (part ∘ Call.edit) := by
    rw [List.filterMap_map, getLast?_filterMap_eq_bind]
    rfl
  rw [hlast, hlast, h]

end Part

/-- Runs that are alike build the same selection. -/
theorem build_congr (table : Table) {calls others : List Call} (h : Alike calls others) :
    build table calls = build table others := by
  rw [build_eq_edited, build_eq_edited]
  simp only [edited, added_congr _ h.joins, added_congr _ h.filter, added_congr _ h.groups,
    added_congr _ h.having, added_congr _ h.order, lastGiven_congr _ h.columns,
    lastGiven_congr _ h.distinct, lastGiven_congr _ h.limit, lastGiven_congr _ h.offset,
    lastGiven_congr _ h.lock]

end Select

end BoundSql
