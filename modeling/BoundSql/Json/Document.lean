import BoundSql.Keyed

/-!
# JSON documents

Whole numbers and floating point numbers are kept apart. The fields of an object are sorted by
name, so the order in which they were given leaves no trace.
-/

namespace BoundSql.Json

/-- A JSON document. -/
inductive Document
  | null
  | bool (b : Bool)
  | integer (n : Int)
  | real (x : Float)
  | string (s : String)
  | array (items : List Document)
  | object (fields : List (String × Document))
  deriving Inhabited

namespace Document

/-- The object with these fields, sorted; of two fields with one name the last one stays. -/
def ofFields (fields : List (String × Document)) : Document :=
  .object (Keyed.ofList fields)

mutual

/-- Equality by structure. A whole number never equals a floating point number, and floating
point numbers are compared as numbers. -/
def beq : Document → Document → Bool
  | .null, .null => true
  | .bool a, .bool b => a == b
  | .integer a, .integer b => a == b
  | .real a, .real b => a == b
  | .string a, .string b => a == b
  | .array a, .array b => beqItems a b
  | .object a, .object b => beqFields a b
  | _, _ => false

/-- Equality of items, one by one. -/
def beqItems : List Document → List Document → Bool
  | [], [] => true
  | a :: as, b :: bs => beq a b && beqItems as bs
  | _, _ => false

/-- Equality of fields, name by name. -/
def beqFields : List (String × Document) → List (String × Document) → Bool
  | [], [] => true
  | (name, a) :: as, (other, b) :: bs => name == other && beq a b && beqFields as bs
  | _, _ => false

end

instance : BEq Document := ⟨beq⟩

end Document

end BoundSql.Json
