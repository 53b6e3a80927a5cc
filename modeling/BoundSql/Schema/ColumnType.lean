import BoundSql.Json.Tagged

/-!
# Column types

The types that every dialect has a name for, and types that are named outright.
-/

namespace BoundSql

/-- The type of a column. -/
inductive ColumnType
  | int
  | bigInt
  | string
  | bool
  | double
  | uuid
  | date
  | json
  | bytes
  | increments
  | custom (name : String)
  deriving DecidableEq

namespace ColumnType

/-- The types without a name of their own, under their tags in documents. -/
def tags : List (String × ColumnType) :=
  [("Int", .int), ("BigInt", .bigInt), ("String", .string), ("Bool", .bool),
    ("Double", .double), ("Uuid", .uuid), ("Date", .date), ("Json", .json),
    ("Bytes", .bytes), ("Increments", .increments)]

/-- The field under which a type that is named outright has its name. -/
def customTag : String := "Custom"

/-- The document of a type. -/
def toDocument : ColumnType → Json.Document
  | .int => .string "Int"
  | .bigInt => .string "BigInt"
  | .string => .string "String"
  | .bool => .string "Bool"
  | .double => .string "Double"
  | .uuid => .string "Uuid"
  | .date => .string "Date"
  | .json => .string "Json"
  | .bytes => .string "Bytes"
  | .increments => .string "Increments"
  | .custom name => .object [(customTag, .string name)]

/-- The type of a document. -/
def ofDocument? (document : Json.Document) : Option ColumnType :=
  match document with
  | .object [(tag, .string name)] => if tag = customTag then some (.custom name) else none
  | _ => Json.ofTags? tags document

instance : Json.Tagged ColumnType := ⟨toDocument, ofDocument?⟩

/-- A written type is read back. -/
@[simp] theorem ofDocument?_toDocument (t : ColumnType) : ofDocument? t.toDocument = some t := by
  cases t <;> rfl

end ColumnType

end BoundSql
