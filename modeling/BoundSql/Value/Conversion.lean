import BoundSql.Value.Basic

/-!
# Values of other types

A type of scalars is embedded into the values; a missing scalar is the null value. Reading back
accepts values of exactly one kind.
-/

namespace BoundSql

/-- A type whose elements may be bound as values. -/
class ToValue (α : Type) where
  toValue : α → Value

export ToValue (toValue)

instance : ToValue Value := ⟨id⟩
instance : ToValue Bool := ⟨.bool⟩
instance : ToValue Int64 := ⟨.int⟩
instance : ToValue Int32 := ⟨fun n => .int n.toInt64⟩
instance : ToValue Int16 := ⟨fun n => .int n.toInt64⟩
instance : ToValue Int8 := ⟨fun n => .int n.toInt64⟩
instance : ToValue UInt32 := ⟨fun n => .int (Int64.ofNat n.toNat)⟩
instance : ToValue UInt16 := ⟨fun n => .int (Int64.ofNat n.toNat)⟩
instance : ToValue UInt8 := ⟨fun n => .int (Int64.ofNat n.toNat)⟩
instance : ToValue Float := ⟨.double⟩
instance : ToValue Float32 := ⟨fun x => .double x.toFloat⟩
instance : ToValue String := ⟨.string⟩
instance : ToValue (List UInt8) := ⟨.bytes⟩
instance : ToValue Calendar.Timestamp := ⟨.date⟩
instance : ToValue { d : Calendar.Date // d.Valid } :=
  ⟨fun d => .date (.midnight d.1 d.2)⟩
instance : ToValue Uuid := ⟨.uuid⟩
instance : ToValue Json.Document := ⟨.json⟩

instance {α : Type} [ToValue α] : ToValue (Option α) where
  toValue
    | some x => toValue x
    | none => .null

/-- Why a cell of a row could not be read as a type. -/
inductive DecodeError
  | missingColumn (name : String)
  | typeMismatch (expected found : Value.Kind)
  | outOfRange (n : Int64)
  deriving DecidableEq

/-- The words of an error. -/
def DecodeError.message : DecodeError → String
  | .missingColumn name => "missing column: " ++ name
  | .typeMismatch expected found =>
      "type mismatch: expected " ++ expected.name ++ ", found " ++ found.name
  | .outOfRange n => "value " ++ toString n ++ " out of range for i32"

/-- A type that is read from values. -/
class FromValue (α : Type) where
  fromValue : Value → Except DecodeError α

export FromValue (fromValue)

instance : FromValue Value := ⟨.ok⟩

instance : FromValue Bool where
  fromValue
    | .bool b => .ok b
    | v => .error (.typeMismatch .bool v.kind)

instance : FromValue Int64 where
  fromValue
    | .int n => .ok n
    | v => .error (.typeMismatch .int v.kind)

/-- Whether a number has thirty-two bits. -/
def fitsInt32 (n : Int64) : Bool :=
  Int32.minValue.toInt ≤ n.toInt && n.toInt ≤ Int32.maxValue.toInt

instance : FromValue Int32 where
  fromValue
    | .int n => if fitsInt32 n then .ok n.toInt32 else .error (.outOfRange n)
    | v => .error (.typeMismatch .int v.kind)

instance : FromValue Float where
  fromValue
    | .double x => .ok x
    | v => .error (.typeMismatch .double v.kind)

instance : FromValue String where
  fromValue
    | .string s => .ok s
    | v => .error (.typeMismatch .string v.kind)

instance : FromValue Calendar.Timestamp where
  fromValue
    | .date t => .ok t
    | v => .error (.typeMismatch .date v.kind)

instance : FromValue (List UInt8) where
  fromValue
    | .bytes bytes => .ok bytes
    | v => .error (.typeMismatch .bytes v.kind)

instance : FromValue Uuid where
  fromValue
    | .uuid id => .ok id
    | v => .error (.typeMismatch .uuid v.kind)

instance : FromValue Json.Document where
  fromValue
    | .json document => .ok document
    | v => .error (.typeMismatch .json v.kind)

/-- The null value is read as nothing, whatever the type inside. -/
instance {α : Type} [FromValue α] : FromValue (Option α) where
  fromValue
    | .null => .ok none
    | v => (fromValue v).map some

@[simp] theorem toValue_none {α : Type} [ToValue α] : toValue (none : Option α) = .null := rfl

@[simp] theorem toValue_some {α : Type} [ToValue α] (x : α) :
    toValue (some x) = toValue x := rfl

@[simp] theorem fromValue_null {α : Type} [FromValue α] :
    (fromValue .null : Except DecodeError (Option α)) = .ok none := rfl

theorem fromValue_of_ne_null {α : Type} [FromValue α] {v : Value} (h : v ≠ .null) :
    (fromValue v : Except DecodeError (Option α)) = (fromValue v).map some := by
  cases v with
  | null => exact absurd rfl h
  | _ => rfl

end BoundSql
