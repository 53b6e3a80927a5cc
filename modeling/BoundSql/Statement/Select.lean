import BoundSql.Condition.Compile
import BoundSql.Condition.Filtered
import BoundSql.Dialect.Basic
import BoundSql.Statement.Table

/-!
# Selections

A selection collects columns, joins, conditions, groups, an order, bounds and a lock. Columns,
bounds and lock are replaced by a later call; everything else accumulates. The clauses of the
statement stand in a fixed order, and a clause with nothing in it is left out.
-/

namespace BoundSql

/-- How a table is joined. -/
inductive JoinKind
  | inner
  | left
  | right
  | full
  | cross
  deriving DecidableEq

namespace JoinKind

/-- The keywords of a join. -/
def keyword : JoinKind → String
  | .inner => "INNER JOIN"
  | .left => "LEFT JOIN"
  | .right => "RIGHT JOIN"
  | .full => "FULL OUTER JOIN"
  | .cross => "CROSS JOIN"

/-- The tag of a join in documents. -/
def tag : JoinKind → String
  | .inner => "Inner"
  | .left => "Left"
  | .right => "Right"
  | .full => "Full"
  | .cross => "Cross"

/-- The joins under their tags. -/
def tags : List (String × JoinKind) :=
  [.inner, .left, .right, .full, .cross].map fun k => (k.tag, k)

instance : Json.Tagged JoinKind where
  toDocument k := .string k.tag
  ofDocument? := Json.ofTags? tags

end JoinKind

/-- A joined table and the condition on which its rows are joined. -/
structure Join where
  kind : JoinKind
  table : Table
  on : Condition
  deriving BEq

/-- The direction of an order. -/
inductive Direction
  | asc
  | desc
  deriving DecidableEq

namespace Direction

/-- The keyword of a direction. -/
def keyword : Direction → String
  | .asc => "ASC"
  | .desc => "DESC"

/-- The tag of a direction in documents. -/
def tag : Direction → String
  | .asc => "Asc"
  | .desc => "Desc"

/-- The directions under their tags. -/
def tags : List (String × Direction) :=
  [.asc, .desc].map fun d => (d.tag, d)

instance : Json.Tagged Direction where
  toDocument d := .string d.tag
  ofDocument? := Json.ofTags? tags

end Direction

/-- A column by which rows are ordered. -/
structure SortKey where
  column : String
  direction : Direction
  deriving DecidableEq

/-- Which lock is taken on the selected rows. -/
inductive LockStrength
  | update
  | share
  deriving DecidableEq

/-- What is done about rows that others have locked, other than to wait for them. -/
inductive LockWait
  | noWait
  | skipLocked
  deriving DecidableEq

/-- A lock on the selected rows. -/
structure RowLock where
  strength : LockStrength
  wait : Option LockWait
  deriving DecidableEq

/-- A selection of rows. -/
structure Select where
  table : Table
  columns : List String
  distinct : Bool
  joins : List Join
  filter : Condition
  groups : List String
  having : Condition
  order : List SortKey
  limit : Option Nat
  offset : Option Nat
  lock : Option RowLock
  deriving BEq

namespace Select

/-- All rows of a table. -/
def ofTable (table : Table) : Select where
  table := table
  columns := []
  distinct := false
  joins := []
  filter := ∅
  groups := []
  having := ∅
  order := []
  limit := none
  offset := none
  lock := none

instance : Filtered Select := ⟨filter, fun s c => { s with filter := c }⟩

/-- Select these columns only. -/
def withColumns (s : Select) (columns : List String) : Select :=
  { s with columns := columns }

/-- Leave out repeated rows, or keep them. -/
def withDistinct (s : Select) (distinct : Bool) : Select :=
  { s with distinct := distinct }

/-- Join a table on a condition built from the empty one. -/
def joinOn (s : Select) (kind : JoinKind) (table : Table) (build : Condition → Condition) :
    Select :=
  { s with joins := s.joins ++ [⟨kind, table, build ∅⟩] }

/-- Join a table on the equality of two columns. -/
def joinColumns (s : Select) (kind : JoinKind) (table : Table) (left right : String) : Select :=
  s.joinOn kind table (Filtered.andWhereColumns left .eq right)

/-- Join a table, keeping matched rows only. -/
def innerJoin (s : Select) : Table → String → String → Select :=
  s.joinColumns .inner

/-- Join a table, keeping all rows in front of it. -/
def leftJoin (s : Select) : Table → String → String → Select :=
  s.joinColumns .left

/-- Join a table, keeping all its rows. -/
def rightJoin (s : Select) : Table → String → String → Select :=
  s.joinColumns .right

/-- Join a table, keeping all rows of both sides. -/
def fullJoin (s : Select) : Table → String → String → Select :=
  s.joinColumns .full

/-- Join every row with every row of a table. -/
def crossJoin (s : Select) (table : Table) : Select :=
  s.joinOn .cross table id

/-- Group by further columns. -/
def groupBy (s : Select) (columns : List String) : Select :=
  { s with groups := s.groups ++ columns }

/-- Add a term at the end of the condition on groups. -/
def addHaving (s : Select) (connective : Connective) (term : Term) : Select :=
  { s with having := s.having.add connective term }

/-- And the column of a group compares so with the value. -/
def andHaving (s : Select) (column : String) (op : Comparison) (value : Value) : Select :=
  s.addHaving .and (.compare column op value)

/-- Or the column of a group compares so with the value. -/
def orHaving (s : Select) (column : String) (op : Comparison) (value : Value) : Select :=
  s.addHaving .or (.compare column op value)

/-- And the left side compares so with the right one in a group. -/
def andHavingColumns (s : Select) (left : String) (op : Comparison) (right : String) : Select :=
  s.addHaving .and (.compareColumns left op right)

/-- And the fragment holds of a group. -/
def andHavingRaw (s : Select) (fragment : Fragment) : Select :=
  s.addHaving .and (.raw fragment)

/-- And the group of terms, built from the empty condition, holds of a group of rows. -/
def andHavingGroup (s : Select) (build : Condition → Condition) : Select :=
  s.addHaving .and (.group (build ∅).entries)

/-- Order by a further column in a direction. -/
def orderIn (s : Select) (column : String) (direction : Direction) : Select :=
  { s with order := s.order ++ [⟨column, direction⟩] }

/-- Order by a further column, the least first. -/
def orderBy (s : Select) (column : String) : Select :=
  s.orderIn column .asc

/-- Order by a further column, the greatest first. -/
def orderByDesc (s : Select) (column : String) : Select :=
  s.orderIn column .desc

/-- Select at most so many rows. -/
def withLimit (s : Select) (n : Nat) : Select :=
  { s with limit := some n }

/-- Leave out so many rows in front. -/
def withOffset (s : Select) (n : Nat) : Select :=
  { s with offset := some n }

/-- Lock the selected rows. -/
def withLock (s : Select) (strength : LockStrength) (wait : Option LockWait) : Select :=
  { s with lock := some ⟨strength, wait⟩ }

/-- Lock the selected rows for an update. -/
def forUpdate (s : Select) : Select :=
  s.withLock .update none

/-- Lock the selected rows against updates by others. -/
def forShare (s : Select) : Select :=
  s.withLock .share none

end Select

end BoundSql
