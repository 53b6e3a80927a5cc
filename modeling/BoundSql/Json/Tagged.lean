import BoundSql.Json.Document

/-!
# Enumerations as documents

A constructor without data is written as its name. It is read from its name or from an object
with that name as its only field and null under it. A constructor with data is an object with
its name as the only field.
-/

namespace BoundSql.Json

/-- A type whose values are written as documents and read back. -/
class Tagged (α : Type) where
  toDocument : α → Document
  ofDocument? : Document → Option α

/-- The name of a constructor and the document under it, if there is one. -/
def constructor? : Document → Option (String × Option Document)
  | .string name => some (name, none)
  | .object [(name, payload)] => some (name, some payload)
  | _ => none

/-- Whether what stands under a name is what a constructor without data allows. -/
def isBare : Option Document → Bool
  | none => true
  | some .null => true
  | some _ => false

/-- The constructor without data that a document names, looked up in a table. -/
def ofTags? {α : Type} (tags : List (String × α)) (document : Document) : Option α := do
  let (name, payload) ← constructor? document
  if isBare payload then Keyed.find? name tags else none

/-- A constructor without data is read back from its name. -/
theorem ofTags?_string {α : Type} (tags : List (String × α)) (name : String) :
    ofTags? tags (.string name) = Keyed.find? name tags := rfl

end BoundSql.Json
