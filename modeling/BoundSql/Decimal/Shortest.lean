import BoundSql.Decimal.Binary

/-!
# The shortest decimal that reads back

For one, two, up to seventeen digits the two neighbours of a number on the decimal grid of that
many digits are tried. The first grid with a point that rounds to the number is taken, and of two
such points the nearer one. Everything is whole-number arithmetic.
-/

namespace BoundSql.Decimal

/-- Which of two equally near points is taken. -/
inductive Tie
  | away
  | even
  deriving DecidableEq

/-- A positive decimal number: its digits without zeros at either end, and the power of ten that
the first of them counts. -/
structure Digits where
  digits : List Char
  exponent : Int
  deriving DecidableEq

namespace Binary

/-- The power of ten of a number's first digit. -/
def firstDigit (x : Binary) : Int :=
  let numerator := x.significand * Nat.pow 2 x.exponent.toNat
  let denominator := Nat.pow 2 (-x.exponent).toNat
  let guess := ((Nat.toDigits 10 numerator).length : Int) - (Nat.toDigits 10 denominator).length
  if denominator * Nat.pow 10 guess.toNat ≤ numerator * Nat.pow 10 (-guess).toNat then guess
  else guess - 1

/-- The multiple of `10 ^ place` that rounds to the number, the nearer of two. -/
def onGrid? (x : Binary) (tie : Tie) (place : Int) : Option Nat :=
  let step := Nat.pow 10 place.toNat * Nat.pow 2 (2 - x.exponent).toNat
  let quarter := Nat.pow 2 (x.exponent - 2).toNat * Nat.pow 10 (-place).toNat
  let value := 4 * x.significand * quarter
  let inside (point : Nat) : Bool :=
    if x.closed then x.low * quarter ≤ point * step && point * step ≤ x.high * quarter
    else x.low * quarter < point * step && point * step < x.high * quarter
  let below := value / step
  let above := below + 1
  match inside below, inside above with
  | false, false => none
  | true, false => some below
  | false, true => some above
  | true, true =>
      match compare (value - below * step) (above * step - value) with
      | .lt => some below
      | .gt => some above
      | .eq =>
          match tie with
          | .away => some above
          | .even => some (if below % 2 = 0 then below else above)

/-- The first grid with a point that rounds to the number. Seventeen digits always suffice. -/
def shortestPoint? (x : Binary) (tie : Tie) : Option (Nat × Int) :=
  (List.range 17).findSome? fun (more : Nat) =>
    let place := x.firstDigit - more
    (x.onGrid? tie place).map fun point => (point, place)

/-- The fewest decimal digits that round to a positive number. -/
def shortest (x : Binary) (tie : Tie) : Digits :=
  let (point, place) := (x.shortestPoint? tie).getD (0, 0)
  let written := Nat.toDigits 10 point
  let kept := (written.reverse.dropWhile (· == '0')).reverse
  ⟨kept, place + written.length - 1⟩

end Binary

end BoundSql.Decimal
