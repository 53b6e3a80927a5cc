import BoundSql.Proofs.Statement.SelectCalls
import BoundSql.Statement.Basic

/-!
# Runs of calls

Insertions and updates are built by runs of calls too. They have their first value or assignment
before they are statements, and more of them are added one by one or several at once. Whatever the
statement, two runs that are alike part by part build the same one.
-/

namespace BoundSql

theorem Assignments.addAll_addAll (a : Assignments) (pairs more : List (String × Value)) :
    (a.addAll pairs).addAll more = a.addAll (pairs ++ more) := by
  simp [addAll, List.append_assoc]

namespace Insert

/-- A call that an insertion has with or without values. -/
inductive Setting
  | returning (columns : List String)
  | withKey (column : String)

namespace Setting

/-- Make a call on an insertion without values. -/
def applyDraft (d : Draft) : Setting → Draft
  | .returning columns => d.returning columns
  | .withKey column => d.withKey column

/-- Make a call on an insertion with values. -/
def apply (i : Insert) : Setting → Insert
  | .returning columns => i.returning columns
  | .withKey column => i.withKey column

/-- The returned columns that a call gives. -/
def returned? : Setting → Option (List String)
  | .returning columns => some columns
  | .withKey _ => none

/-- The key that a call gives. -/
def key? : Setting → Option String
  | .returning _ => none
  | .withKey column => some column

end Setting

/-- A call on an insertion with values. -/
inductive Call
  | value (column : String) (v : Value)
  | values (pairs : List (String × Value))
  | setting (s : Setting)

namespace Call

/-- Make a call. -/
def apply (i : Insert) : Call → Insert
  | .value column v => i.value column v
  | .values pairs => i.values pairs
  | .setting s => s.apply i

/-- The columns with their values that a call adds. -/
def pairs : Call → List (String × Value)
  | .value column v => [(column, v)]
  | .values pairs => pairs
  | .setting _ => []

/-- The call among those that an insertion has also without values. -/
def setting? : Call → Option Setting
  | .setting s => some s
  | _ => none

end Call

/-- A run of calls that builds an insertion: settings, the first value, and further calls. -/
structure Run where
  table : Table
  before : List Setting
  column : String
  first : Value
  after : List Call

namespace Run

/-- The insertion without values that a run builds before the first value. -/
def draft (r : Run) : Draft :=
  r.before.foldl Setting.applyDraft (into r.table)

/-- The insertion that a run builds. -/
def build (r : Run) : Insert :=
  r.after.foldl Call.apply (r.draft.value r.column r.first)

/-- The columns with their values, in order. -/
def pairs (r : Run) : List (String × Value) :=
  (r.column, r.first) :: r.after.flatMap Call.pairs

/-- The settings in front of the first value and behind it. -/
def settings (r : Run) : List Setting :=
  r.before ++ r.after.filterMap Call.setting?

/-- The returned columns that are given last. -/
def returned? (r : Run) : Option (List String) :=
  (r.settings.filterMap Setting.returned?).getLast?

/-- The key that is given last. -/
def key? (r : Run) : Option String :=
  (r.settings.filterMap Setting.key?).getLast?

theorem draft_eq (r : Run) :
    r.draft = ⟨r.table, (r.before.filterMap Setting.returned?).getLast?.getD [],
      (r.before.filterMap Setting.key?).getLast?.getD "id"⟩ := by
  unfold draft
  induction r.before using List.reverseRecOn with
  | nil => rfl
  | append_singleton settings s ih =>
      rw [List.foldl_concat, ih]
      cases s <;>
        simp [Setting.applyDraft, Draft.returning, Draft.withKey, Setting.returned?, Setting.key?]

end Run

/-- What calls make of an insertion with values. -/
theorem foldl_apply_eq (i : Insert) (calls : List Call) :
    calls.foldl Call.apply i =
      ⟨i.table, i.assignments.addAll (calls.flatMap Call.pairs),
        ((calls.filterMap Call.setting?).filterMap Setting.returned?).getLast?.getD i.returned,
        ((calls.filterMap Call.setting?).filterMap Setting.key?).getLast?.getD i.key⟩ := by
  induction calls using List.reverseRecOn with
  | nil => simp [Assignments.addAll]
  | append_singleton calls call ih =>
      rw [List.foldl_concat, ih]
      cases call with
      | value column v =>
          simp [Call.apply, value, Assignments.add, Assignments.addAll_addAll, Call.pairs,
            Call.setting?, List.filterMap_cons]
      | values pairs =>
          simp [Call.apply, values, Assignments.addAll_addAll, Call.pairs, Call.setting?,
            List.filterMap_cons]
      | setting s =>
          cases s <;>
            simp [Call.apply, Setting.apply, returning, withKey, Call.pairs, Call.setting?,
              Setting.returned?, Setting.key?]

/-- A run builds the insertion of all its values, with what is given last. -/
theorem Run.build_eq (r : Run) :
    r.build = ⟨r.table, ⟨r.pairs, List.cons_ne_nil _ _⟩, r.returned?.getD [],
      r.key?.getD "id"⟩ := by
  rw [build, draft_eq, foldl_apply_eq]
  simp [Draft.value, Assignments.addAll, pairs, returned?, key?, settings, List.getLast?_append]

end Insert

namespace Update

/-- A call on an update with an assignment. -/
inductive Call
  | set (column : String) (value : Value)
  | filter (call : Filtered.Call)

namespace Call

/-- Make a call. -/
def apply (u : Update) : Call → Update
  | .set column value => u.set column value
  | .filter call => call.apply u

/-- The assignment that a call adds. -/
def assignment? : Call → Option (String × Value)
  | .set column value => some (column, value)
  | .filter _ => none

/-- The call among those on a condition. -/
def filter? : Call → Option Filtered.Call
  | .set _ _ => none
  | .filter call => some call

end Call

/-- A run of calls that builds an update: the first assignment and further calls. -/
structure Run where
  table : Table
  column : String
  first : Value
  after : List Call

namespace Run

/-- The update that a run builds. -/
def build (r : Run) : Update :=
  r.after.foldl Call.apply ((ofTable r.table).set r.column r.first)

/-- The assignments in order. -/
def assignments (r : Run) : List (String × Value) :=
  (r.column, r.first) :: r.after.filterMap Call.assignment?

/-- The calls on the condition in order. -/
def filters (r : Run) : List Filtered.Call :=
  r.after.filterMap Call.filter?

end Run

/-- What calls make of an update. -/
theorem foldl_apply_eq (u : Update) (calls : List Call) :
    calls.foldl Call.apply u =
      ⟨u.table, u.assignments.addAll (calls.filterMap Call.assignment?),
        ⟨u.filter.entries ++ (calls.filterMap Call.filter?).map Filtered.Call.entry⟩⟩ := by
  induction calls using List.reverseRecOn with
  | nil => simp [Assignments.addAll]
  | append_singleton calls call ih =>
      rw [List.foldl_concat, ih]
      cases call with
      | set column value =>
          simp [Call.apply, set, Assignments.add, Assignments.addAll_addAll, Call.assignment?,
            Call.filter?]
      | filter call =>
          rw [Call.apply, call.apply_eq_addTerm]
          simp [Filtered.addTerm, Filtered.condition, Filtered.withCondition, Condition.add,
            Call.assignment?, Call.filter?, List.filterMap_cons]

/-- A run builds the update of all its assignments on all its conditions. -/
theorem Run.build_eq (r : Run) :
    r.build = ⟨r.table, ⟨r.assignments, List.cons_ne_nil _ _⟩,
      ⟨r.filters.map Filtered.Call.entry⟩⟩ := by
  rw [build, foldl_apply_eq]
  simp [ofTable, Draft.set, Assignments.addAll, assignments, filters]

end Update

namespace Statement

/-- A run of calls that builds a selection, an insertion or an update. -/
inductive Run
  | select (table : Table) (calls : List Select.Call)
  | insert (r : Insert.Run)
  | update (r : Update.Run)

namespace Run

/-- The statement that a run builds. -/
def build : Run → Statement
  | .select table calls => .select (Select.build table calls)
  | .insert r => .insert r.build
  | .update r => .update r.build

/-- Runs on one table that differ in the order of calls on different parts and in replaced values
only. -/
inductive Alike : Run → Run → Prop
  | select (table : Table) {calls others : List Select.Call} (h : Select.Alike calls others) :
      Alike (.select table calls) (.select table others)
  | insert {r other : Insert.Run} (table : r.table = other.table) (pairs : r.pairs = other.pairs)
      (returned : r.returned? = other.returned?) (key : r.key? = other.key?) :
      Alike (.insert r) (.insert other)
  | update {r other : Update.Run} (table : r.table = other.table)
      (assignments : r.assignments = other.assignments) (filters : r.filters = other.filters) :
      Alike (.update r) (.update other)

/-- Runs that are alike build the same statement, which is finished alike in every dialect. -/
theorem build_eq_of_alike {r other : Run} (h : r.Alike other) :
    r.build = other.build ∧ ∀ d : Dialect, r.build.compile d = other.build.compile d := by
  have hbuild : r.build = other.build := by
    cases h with
    | select table h => rw [build, build, Select.build_congr table h]
    | insert table pairs returned key =>
        simp only [build, Insert.Run.build_eq, table, pairs, returned, key]
    | update table assignments filters =>
        simp only [build, Update.Run.build_eq, table, assignments, filters]
  exact ⟨hbuild, fun d => by rw [hbuild]⟩

/-- A limit and a lock that are replaced later, and calls on the condition and on the order that
are mixed differently. -/
theorem build_eq_of_replaced_limit :
    let jobs : Table := .aliased "jobs" "j"
    let calls : List Select.Call :=
      [.withLimit 1, .filter (.andWhere "j.state" .eq (.string "ready")), .forShare,
        .orderBy "j.due", .filter (.orWhereGroup (Filtered.andWhereNull "j.owner")),
        .withLimit 5, .withLock .update (some .skipLocked)]
    let others : List Select.Call :=
      [.withLock .update (some .skipLocked), .orderBy "j.due", .withLimit 5,
        .filter (.andWhere "j.state" .eq (.string "ready")),
        .filter (.orWhereGroup (Filtered.andWhereNull "j.owner"))]
    Alike (.select jobs calls) (.select jobs others) ∧
      (Run.select jobs calls).build = (Run.select jobs others).build ∧
      ∀ d : Dialect, (Run.select jobs calls).build.compile d =
        (Run.select jobs others).build.compile d := by
  intro jobs calls others
  have h : Alike (.select jobs calls) (.select jobs others) :=
    .select jobs ⟨rfl, rfl, rfl, rfl, rfl, rfl, rfl, rfl, rfl, rfl⟩
  exact ⟨h, build_eq_of_alike h⟩

end Run

end Statement

end BoundSql
