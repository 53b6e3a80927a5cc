import BoundSql.Statement.Select

/-!
# Clauses of selections

The clauses of a selection in the order in which they are written. Only the bounds and the lock
depend on the dialect.
-/

namespace BoundSql

namespace Join

/-- A joined table and its condition. -/
def clause (j : Join) : Fragment :=
  .ofText (" " ++ j.kind.keyword ++ " " ++ j.table.toString) ++ j.on.clause " ON "

end Join

namespace RowLock

/-- The keywords of a lock. -/
def keywords (l : RowLock) : String :=
  (match l.strength with
    | .update => " FOR UPDATE"
    | .share => " FOR SHARE") ++
  match l.wait with
  | some .noWait => " NOWAIT"
  | some .skipLocked => " SKIP LOCKED"
  | none => ""

end RowLock

namespace Select

/-- The selected columns, all of them where none is named. -/
def columnList (s : Select) : String :=
  if s.columns.isEmpty then "*" else String.intercalate ", " s.columns

/-- The clause from the first keyword to the table. -/
def headClause (s : Select) : Fragment :=
  .ofText ("SELECT " ++ (if s.distinct then "DISTINCT " else "") ++ s.columnList ++ " FROM " ++
    s.table.toString)

/-- The clause that groups rows. -/
def groupClause (s : Select) : Fragment :=
  if s.groups.isEmpty then ∅ else .ofText (" GROUP BY " ++ String.intercalate ", " s.groups)

/-- The clause that orders rows. -/
def orderClause (s : Select) : Fragment :=
  if s.order.isEmpty then ∅
  else
    let keys := s.order.map fun key => key.column ++ " " ++ key.direction.keyword
    .ofText (" ORDER BY " ++ String.intercalate ", " keys)

/-- The bound on the number of rows. An offset without one gets the bound that stands for none,
where the dialect has such a bound. -/
def limitClause (s : Select) (d : Dialect) : Fragment :=
  match s.limit, s.offset, d.unboundedLimit with
  | some n, _, _ => .ofText (" LIMIT " ++ toString n)
  | none, some _, some all => .ofText (" LIMIT " ++ all)
  | none, _, _ => ∅

/-- The number of rows left out. -/
def offsetClause (s : Select) : Fragment :=
  match s.offset with
  | some n => .ofText (" OFFSET " ++ toString n)
  | none => ∅

/-- The lock, in a dialect that has locks. -/
def lockClause (s : Select) (d : Dialect) : Fragment :=
  match s.lock with
  | some lock => if d.locking then .ofText lock.keywords else ∅
  | none => ∅

/-- The clauses in order, with markers for the bound values. -/
def clauses (s : Select) (d : Dialect) : Fragment :=
  .concat
    [s.headClause, .concat (s.joins.map Join.clause), s.filter.clause " WHERE ", s.groupClause,
      s.having.clause " HAVING ", s.orderClause, s.limitClause d, s.offsetClause, s.lockClause d]

/-- The statement of a selection. -/
def compile (s : Select) (d : Dialect) : Fragment :=
  d.render (s.clauses d)

end Select

end BoundSql
