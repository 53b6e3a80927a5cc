import BoundSql.Value.Conversion

/-!
# Reading values back

Reading a value as a type of scalars is the inverse of embedding the type: a value is read exactly
where it is the value of a scalar, and as that scalar. Optional scalars at any depth are read like
the scalar inside, but for the null value. So a scalar that is missing at some depth comes back as
missing at the outermost one.
-/

namespace BoundSql

/-- The types of scalars that values are read as. -/
inductive Scalar
  | bool
  | int64
  | int32
  | double
  | string
  | bytes
  | date
  | uuid
  | json
  deriving DecidableEq

namespace Scalar

/-- The type of a scalar. -/
def Carrier : Scalar → Type
  | .bool => Bool
  | .int64 => Int64
  | .int32 => Int32
  | .double => Float
  | .string => String
  | .bytes => List UInt8
  | .date => Calendar.Timestamp
  | .uuid => Uuid
  | .json => Json.Document

instance : (s : Scalar) → ToValue s.Carrier
  | .bool => inferInstanceAs (ToValue Bool)
  | .int64 => inferInstanceAs (ToValue Int64)
  | .int32 => inferInstanceAs (ToValue Int32)
  | .double => inferInstanceAs (ToValue Float)
  | .string => inferInstanceAs (ToValue String)
  | .bytes => inferInstanceAs (ToValue (List UInt8))
  | .date => inferInstanceAs (ToValue Calendar.Timestamp)
  | .uuid => inferInstanceAs (ToValue Uuid)
  | .json => inferInstanceAs (ToValue Json.Document)

instance : (s : Scalar) → FromValue s.Carrier
  | .bool => inferInstanceAs (FromValue Bool)
  | .int64 => inferInstanceAs (FromValue Int64)
  | .int32 => inferInstanceAs (FromValue Int32)
  | .double => inferInstanceAs (FromValue Float)
  | .string => inferInstanceAs (FromValue String)
  | .bytes => inferInstanceAs (FromValue (List UInt8))
  | .date => inferInstanceAs (FromValue Calendar.Timestamp)
  | .uuid => inferInstanceAs (FromValue Uuid)
  | .json => inferInstanceAs (FromValue Json.Document)

/-- The kind of the values of a scalar. -/
def kind : Scalar → Value.Kind
  | .bool => .bool
  | .int64 => .int
  | .int32 => .int
  | .double => .double
  | .string => .string
  | .bytes => .bytes
  | .date => .date
  | .uuid => .uuid
  | .json => .json

/-- Why a value that is not the value of a scalar is refused: an integer by its size where one is
expected, and any other value by its kind. -/
def refusal : Scalar → Value → DecodeError
  | .int32, .int n => .outOfRange n
  | s, v => .typeMismatch s.kind v.kind

theorem fitsInt32_iff {n : Int64} : fitsInt32 n ↔ -2147483648 ≤ n.toInt ∧ n.toInt < 2147483648 := by
  have hmin : Int32.minValue.toInt = -2147483648 := rfl
  have hmax : Int32.maxValue.toInt = 2147483647 := rfl
  simp only [fitsInt32, hmin, hmax, Bool.and_eq_true, decide_eq_true_eq]
  omega

/-- A number of thirty-two bits fits. -/
theorem fitsInt32_toInt64 (n : Int32) : fitsInt32 n.toInt64 := by
  rw [fitsInt32_iff, Int32.toInt_toInt64]
  exact ⟨n.le_toInt, n.toInt_lt⟩

/-- A number that fits is kept when it is cut to thirty-two bits. -/
theorem toInt64_toInt32 {n : Int64} (h : fitsInt32 n) : n.toInt32.toInt64 = n := by
  obtain ⟨hlow, hhigh⟩ := fitsInt32_iff.mp h
  rw [← Int64.toInt_inj, Int32.toInt_toInt64, Int64.toInt_toInt32]
  exact Int.bmod_eq_of_le (by omega) (by omega)

variable (s : Scalar)

theorem toValue_ne_null (x : s.Carrier) : toValue x ≠ .null := by
  cases s <;> exact Value.noConfusion

theorem fromValue_toValue (x : s.Carrier) : fromValue (toValue x) = .ok x := by
  cases s with
  | int32 =>
      have hback : (Int32.toInt64 x).toInt32 = x := Int32.toInt32_toInt64 x
      calc
        (if fitsInt32 (Int32.toInt64 x) then .ok (Int32.toInt64 x).toInt32
          else .error (.outOfRange (Int32.toInt64 x)) : Except DecodeError Int32)
        _ = .ok (Int32.toInt64 x).toInt32 := if_pos (fitsInt32_toInt64 x)
        _ = .ok x := congrArg Except.ok hback
  | _ => rfl

/-- A value is that of a scalar, or it is refused. -/
theorem exists_toValue_eq_or_refused (v : Value) :
    (∃ x : s.Carrier, toValue x = v) ∨
      (fromValue v : Except _ s.Carrier) = .error (s.refusal v) := by
  cases s with
  | int32 =>
      cases v with
      | int n =>
          by_cases hfits : fitsInt32 n
          · exact .inl ⟨n.toInt32, congrArg Value.int (toInt64_toInt32 hfits)⟩
          · exact .inr (if_neg hfits)
      | _ => exact .inr rfl
  | _ => cases v <;> first | exact .inl ⟨_, rfl⟩ | exact .inr rfl

/-- A value is read as a scalar exactly where it is its value. -/
theorem fromValue_eq_ok_iff {v : Value} {x : s.Carrier} : fromValue v = .ok x ↔ toValue x = v := by
  refine ⟨fun h => ?_, fun h => h ▸ s.fromValue_toValue x⟩
  obtain ⟨y, rfl⟩ | hrefused := s.exists_toValue_eq_or_refused v
  · rw [s.fromValue_toValue y] at h
    rw [Except.ok.inj h]
  · rw [hrefused] at h
    exact nomatch h

/-- The values of integers of thirty-two bits are those in their range. -/
theorem exists_toValue_int32_eq_iff {n : Int64} :
    (∃ x : Scalar.int32.Carrier, toValue x = .int n) ↔
      -2147483648 ≤ n.toInt ∧ n.toInt < 2147483648 := by
  rw [← fitsInt32_iff]
  constructor
  · rintro ⟨x, hx⟩
    rw [← Value.int.inj hx]
    exact fitsInt32_toInt64 x
  · intro hfits
    exact ⟨n.toInt32, congrArg Value.int (toInt64_toInt32 hfits)⟩

end Scalar

/-- A type inside so many options. -/
def Optional (α : Type) : Nat → Type
  | 0 => α
  | depth + 1 => Option (Optional α depth)

namespace Optional

variable {α : Type} {depth : Nat}

instance instToValue [ToValue α] : (depth : Nat) → ToValue (Optional α depth)
  | 0 => inferInstanceAs (ToValue α)
  | depth + 1 =>
      have := instToValue depth
      inferInstanceAs (ToValue (Option (Optional α depth)))

instance instFromValue [FromValue α] : (depth : Nat) → FromValue (Optional α depth)
  | 0 => inferInstanceAs (FromValue α)
  | depth + 1 =>
      have := instFromValue depth
      inferInstanceAs (FromValue (Option (Optional α depth)))

/-- The scalar inside, if it is missing at no depth. -/
def flatten : {depth : Nat} → Optional α depth → Option α
  | 0, x => some x
  | _ + 1, none => none
  | _ + 1, some y => flatten y

/-- A scalar that is present at every depth. -/
def wrap : (depth : Nat) → α → Optional α depth
  | 0, x => x
  | depth + 1, x => some (wrap depth x)

/-- What is missing at some depth, missing at the outermost one. -/
def collapse (y : Optional α (depth + 1)) : Optional α (depth + 1) :=
  (flatten y).map (wrap depth)

theorem flatten_wrap (depth : Nat) (x : α) : flatten (wrap depth x) = some x := by
  induction depth with
  | zero => rfl
  | succ depth ih => exact ih

theorem collapse_of_flatten_eq_some {y : Optional α (depth + 1)} {x : α} (h : flatten y = some x) :
    collapse y = wrap (depth + 1) x := by
  rw [collapse, h]
  rfl

theorem collapse_of_flatten_eq_none {y : Optional α (depth + 1)} (h : flatten y = none) :
    collapse y = none := by
  rw [collapse, h]
  rfl

theorem collapse_wrap (x : α) : collapse (wrap (depth + 1) x) = wrap (depth + 1) x :=
  collapse_of_flatten_eq_some (flatten_wrap (depth + 1) x)

/-- The value of an optional scalar is that of the scalar inside, and otherwise the null value. -/
theorem toValue_eq_elim [ToValue α] (y : Optional α depth) :
    toValue y = (flatten y).elim .null toValue := by
  induction depth with
  | zero => rfl
  | succ depth ih =>
      cases y with
      | none => rfl
      | some y => exact ih y

theorem toValue_wrap [ToValue α] (depth : Nat) (x : α) : toValue (wrap depth x) = toValue x := by
  rw [toValue_eq_elim, flatten_wrap, Option.elim_some]

/-- Any value but the null value is read at every depth as it is read inside. -/
theorem fromValue_eq_map_wrap [FromValue α] (depth : Nat) {v : Value} (h : v ≠ .null) :
    (fromValue v : Except DecodeError (Optional α depth)) = (fromValue v).map (wrap depth) := by
  induction depth with
  | zero =>
      show (fromValue v : Except DecodeError α) = (fromValue v).map id
      rw [Except.map_id]
      rfl
  | succ depth ih =>
      have houter : (fromValue v : Except DecodeError (Optional α (depth + 1))) =
          (fromValue v : Except DecodeError (Optional α depth)).map some :=
        fromValue_of_ne_null h
      rw [houter, ih]
      cases (fromValue v : Except DecodeError α) with
      | error e => rfl
      | ok x => rfl

section Scalars
variable {s : Scalar}

/-- A value that is read back comes back collapsed. -/
theorem fromValue_toValue (y : Optional s.Carrier (depth + 1)) :
    fromValue (toValue y) = .ok y.collapse := by
  cases hy : flatten y with
  | none =>
      rw [toValue_eq_elim, hy, collapse_of_flatten_eq_none hy]
      rfl
  | some x =>
      rw [toValue_eq_elim, hy, Option.elim_some, fromValue_eq_map_wrap _ (s.toValue_ne_null x),
        s.fromValue_toValue, collapse_of_flatten_eq_some hy]
      rfl

/-- A value is read as an optional scalar where it is its value, and as no scalar that is missing
further inside only. -/
theorem fromValue_eq_ok_iff {v : Value} {y : Optional s.Carrier (depth + 1)} :
    fromValue v = .ok y ↔ toValue y = v ∧ y.collapse = y := by
  constructor
  · intro h
    by_cases hnull : v = .null
    · subst hnull
      have hy : y = none := (Except.ok.inj h).symm
      rw [hy]
      exact ⟨rfl, rfl⟩
    · rw [fromValue_eq_map_wrap _ hnull] at h
      cases hx : (fromValue v : Except _ s.Carrier) with
      | error e => exact nomatch hx ▸ h
      | ok x =>
          rw [hx] at h
          obtain rfl : wrap (depth + 1) x = y := Except.ok.inj h
          exact ⟨(toValue_wrap _ x).trans (s.fromValue_eq_ok_iff.mp hx), collapse_wrap x⟩
  · rintro ⟨rfl, hcollapse⟩
    rw [fromValue_toValue, hcollapse]

end Scalars

end Optional

/-- Reading is the inverse of embedding. A value that is not the value of a scalar is refused with
its kind, or by its size where the scalar is an integer of thirty-two bits, whose values are those
in range. Inside one option or more the null value is read as nothing, any other value as it is read
without them, and what is embedded comes back collapsed. -/
theorem Scalar.fromValue_inverse_of_toValue (s : Scalar) :
    (∀ v : Value,
      (∀ x : s.Carrier, fromValue v = .ok x ↔ toValue x = v) ∧
      ((∀ x : s.Carrier, toValue x ≠ v) →
        (fromValue v : Except _ s.Carrier) = .error (s.refusal v))) ∧
    (∀ n : Int64, (∃ x : Scalar.int32.Carrier, toValue x = .int n) ↔
      -2147483648 ≤ n.toInt ∧ n.toInt < 2147483648) ∧
    ∀ depth : Nat,
      (∀ (v : Value) (y : Optional s.Carrier (depth + 1)),
        fromValue v = .ok y ↔ toValue y = v ∧ y.collapse = y) ∧
      (fromValue .null : Except _ (Optional s.Carrier (depth + 1))) = .ok none ∧
      (∀ v ≠ Value.null, (fromValue v : Except _ (Optional s.Carrier (depth + 1))) =
        (fromValue v).map (Optional.wrap (depth + 1))) ∧
      ∀ y : Optional s.Carrier (depth + 1), fromValue (toValue y) = .ok y.collapse := by
  refine ⟨fun v => ⟨fun x => s.fromValue_eq_ok_iff, ?_⟩, fun n => exists_toValue_int32_eq_iff, ?_⟩
  · intro hnone
    exact (s.exists_toValue_eq_or_refused v).resolve_left fun ⟨x, hx⟩ => hnone x hx
  · intro depth
    exact ⟨fun v y => Optional.fromValue_eq_ok_iff, rfl,
      fun v hv => Optional.fromValue_eq_map_wrap _ hv, Optional.fromValue_toValue⟩

/-- An integer beyond the range is refused by its size, also inside options. A document that is null
is not the null value. -/
theorem Scalar.integer_out_of_range_refused :
    (∀ x : Scalar.int32.Carrier, toValue x ≠ .int 2147483648) ∧
      (fromValue (.int 2147483648) : Except _ Scalar.int32.Carrier) =
        .error (.outOfRange 2147483648) ∧
      Value.json .null ≠ .null ∧
      (fromValue (.json .null) : Except _ (Optional Scalar.json.Carrier 2)) =
        .ok (some (some Json.Document.null)) := by
  have hnone : ∀ x : Scalar.int32.Carrier, toValue x ≠ .int 2147483648 := by
    intro x hx
    have hrange := (Scalar.int32.fromValue_inverse_of_toValue.2.1 2147483648).mp ⟨x, hx⟩
    exact absurd hrange.2 (by decide)
  have hne : Value.json .null ≠ .null := Value.noConfusion
  refine ⟨hnone, ?_, hne, ?_⟩
  · exact (Scalar.int32.fromValue_inverse_of_toValue.1 (.int 2147483648)).2 hnone
  · exact (Scalar.json.fromValue_inverse_of_toValue.2.2 1).2.2.1 _ hne

end BoundSql
