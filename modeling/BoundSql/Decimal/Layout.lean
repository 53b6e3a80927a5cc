import BoundSql.Decimal.Shortest

/-!
# Layout of decimal numbers

A format decides where positional digits end and scientific ones begin, how the exponent is
written, and which way a tie between two shortest forms goes.
-/

namespace BoundSql.Decimal

/-- The decisions of a number format. Digits are written positionally when the power of ten of the
first one is at least `least` and below `bound`. -/
structure Layout where
  least : Int
  bound : Int
  plusSign : Bool
  tie : Tie

namespace Digits

/-- Digits around a decimal point, with at least one on each side of it. -/
def positional (d : Digits) : List Char :=
  if d.exponent < 0 then
    ['0', '.'] ++ List.replicate (-d.exponent - 1).toNat '0' ++ d.digits
  else
    let whole := d.exponent.toNat + 1
    let fraction := d.digits.drop whole
    d.digits.take whole ++ List.replicate (whole - d.digits.length) '0' ++
      '.' :: (if fraction.isEmpty then ['0'] else fraction)

/-- One digit, the others after a point, and the exponent; a lone digit has no point. -/
def scientific (d : Digits) (plusSign : Bool) : List Char :=
  let sign := if d.exponent < 0 then ['-'] else if plusSign then ['+'] else []
  let others := d.digits.drop 1
  d.digits.take 1 ++ (if others.isEmpty then [] else '.' :: others) ++
    'e' :: sign ++ Nat.toDigits 10 d.exponent.natAbs

end Digits

namespace Layout

/-- A positive or zero number in its format. -/
def magnitude (layout : Layout) (x : Binary) : List Char :=
  if x.significand = 0 then ['0', '.', '0']
  else
    let d := x.shortest layout.tie
    if layout.least ≤ d.exponent ∧ d.exponent < layout.bound then d.positional
    else d.scientific layout.plusSign

/-- A finite number with its sign. Zero has a sign too. -/
def finite (layout : Layout) (negative : Bool) (x : Binary) : String :=
  String.ofList (if negative then '-' :: layout.magnitude x else layout.magnitude x)

end Layout

end BoundSql.Decimal
