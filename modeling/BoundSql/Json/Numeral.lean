import BoundSql.Json.Document

/-!
# Numbers in JSON text

A numeral without a fraction and without an exponent is a whole number if it fits sixty-four bits.
Every other numeral is a floating point number: the digits that fit sixty-four bits make up a
whole number, which one multiplication or division by a power of ten then scales.
-/

namespace BoundSql.Json

/-- The characters of a numeral: its digits before and after the point, and its exponent. -/
structure Numeral where
  negative : Bool
  whole : List Char
  fraction : Option (List Char)
  exponent : Option Int
  deriving DecidableEq

/-- The number that a digit stands for. -/
def digitValue (c : Char) : Nat :=
  c.toNat - '0'.toNat

/-- The number that digits stand for. -/
def digitsValue (digits : List Char) : Nat :=
  digits.foldl (fun n c => 10 * n + digitValue c) 0

namespace Numeral

/-- The greatest whole number of sixty-four bits. -/
def maxWord : Nat := 18446744073709551615

/-- The greatest magnitude of a negative whole number of sixty-four bits. -/
def maxNegative : Nat := 9223372036854775808

/-- Take up digits as long as the number fits sixty-four bits; the others are returned. -/
def takeDigits : Nat → List Char → Nat × List Char
  | n, [] => (n, [])
  | n, c :: rest =>
      if 10 * n + digitValue c ≤ maxWord then takeDigits (10 * n + digitValue c) rest
      else (n, c :: rest)

/-- The scaled significand: digits before the point that did not fit raise the power of ten, and
those after it that fit lower it. -/
def scaled (x : Numeral) : Nat × Int :=
  let (n, left) := takeDigits 0 x.whole
  let fraction := x.fraction.getD []
  let (m, unused) := takeDigits n fraction
  let taken := fraction.length - unused.length
  (m, left.length - taken + x.exponent.getD 0)

/-- The greatest power of ten by which a number is scaled in one step. -/
def maxStep : Nat := 308

/-- A power of ten that one step may scale by. -/
def power (n : Nat) : Float :=
  Float.ofScientific 1 false n

/-- Divide by a power of ten, step by step until it is used up or nothing is left. -/
def divide (x : Float) (n : Nat) : Float :=
  if n ≤ maxStep then x / power n
  else if x == 0 then x
  else divide (x / power maxStep) (n - maxStep)
termination_by n
decreasing_by
  unfold maxStep at *
  omega

/-- The magnitude of the number, unless it is too great for a double. -/
def magnitude? (x : Numeral) : Option Float :=
  let (n, scale) := x.scaled
  let start := Float.ofScientific n false 0
  if scale < 0 then some (divide start scale.natAbs)
  else if scale.natAbs ≤ maxStep then
    let result := start * power scale.natAbs
    if result.isInf then none else some result
  else if n = 0 then some start
  else none

/-- The floating point number of a numeral. -/
def toReal? (x : Numeral) : Option Document :=
  x.magnitude?.map fun m => .real (if x.negative then -m else m)

/-- The document of a numeral. Zero with a sign is a floating point number. -/
def toDocument? (x : Numeral) : Option Document :=
  let n := digitsValue x.whole
  if x.fraction.isSome || x.exponent.isSome then x.toReal?
  else if x.negative then
    if 0 < n ∧ n ≤ maxNegative then some (.integer (-n)) else x.toReal?
  else if n ≤ maxWord then some (.integer n) else x.toReal?

end Numeral

end BoundSql.Json
