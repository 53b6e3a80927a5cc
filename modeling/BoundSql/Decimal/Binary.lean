/-!
# Binary floating point numbers as exact fractions

A finite double is a sign and a whole number times a power of two. Its neighbours leave room for
the reals that round to it; that room is given in quarters of the last place.
-/

namespace BoundSql.Decimal

/-- The magnitude of a finite double: `significand · 2 ^ exponent`. -/
structure Binary where
  significand : Nat
  exponent : Int
  deriving DecidableEq

/-- What the sixty-four bits of a double stand for. -/
inductive Reading
  | nan
  | infinite (negative : Bool)
  | finite (negative : Bool) (magnitude : Binary)
  deriving DecidableEq

/-- The least significand of a number that is not subnormal: fifty-two fraction bits above a
leading one. -/
def leastNormal : Nat := 4503599627370496

/-- Read a bit pattern: one sign bit, eleven exponent bits, fifty-two fraction bits. -/
def Reading.ofBits (bits : Nat) : Reading :=
  let negative := bits / leastNormal / 2048 % 2 == 1
  let biased : Nat := bits / leastNormal % 2048
  let fraction : Nat := bits % leastNormal
  if biased = 2047 then
    if fraction = 0 then .infinite negative else .nan
  else if biased = 0 then
    .finite negative ⟨fraction, -1074⟩
  else
    .finite negative ⟨leastNormal + fraction, (biased : Int) - 1075⟩

/-- Read a double. -/
def Reading.ofFloat (x : Float) : Reading :=
  .ofBits x.toBits.toNat

namespace Binary

/-- At a power of two the next smaller double is only half as far as the next larger one. -/
def narrowBelow (x : Binary) : Bool :=
  x.significand == leastNormal && -1074 < x.exponent

/-- The lower end of the reals that round to the number, in quarters of its last place. -/
def low (x : Binary) : Nat :=
  4 * x.significand - if x.narrowBelow then 1 else 2

/-- The upper end of the reals that round to the number, in quarters of its last place. -/
def high (x : Binary) : Nat :=
  4 * x.significand + 2

/-- The ends themselves round to the number when its significand is even. -/
def closed (x : Binary) : Bool :=
  x.significand % 2 == 0

end Binary

end BoundSql.Decimal
