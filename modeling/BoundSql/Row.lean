import BoundSql.Keyed
import BoundSql.Value.Conversion

/-!
# Rows

A row gives the value of a column by its name. A row of cells in order answers with the first
cell of a name; a row under sorted names holds one cell for each name, the last one put there.
-/

namespace BoundSql

/-- A type of rows. -/
class Row (ρ : Type) where
  cell? : ρ → String → Option Value

namespace Row

/-- Read a column as a type. -/
def decode {ρ α : Type} [Row ρ] [FromValue α] (row : ρ) (name : String) :
    Except DecodeError α :=
  match cell? row name with
  | none => .error (.missingColumn name)
  | some value => fromValue value

end Row

/-- A row of cells in order. -/
structure CellRow where
  cells : List (String × Value)

instance : Row CellRow := ⟨fun row name => Keyed.find? name row.cells⟩

/-- A row with one cell for each name, in ascending order of the names. -/
structure KeyedRow where
  cells : List (String × Value)
  sorted : Keyed.Sorted cells

namespace KeyedRow

/-- The row filled with cells in order; a later cell replaces an earlier one of its name. -/
def ofCells (cells : List (String × Value)) : KeyedRow :=
  ⟨Keyed.ofList cells, Keyed.sorted_ofList cells⟩

end KeyedRow

instance : Row KeyedRow := ⟨fun row name => Keyed.find? name row.cells⟩

end BoundSql
