/-!
# Decimal digits

Numbers written with a least count of digits, as dates and fractions of a second need them.
-/

namespace BoundSql.Text

/-- The decimal digits of a number, with zeros in front up to `width` of them. -/
def paddedDigits (width n : Nat) : List Char :=
  let digits := Nat.toDigits 10 n
  List.replicate (width - digits.length) '0' ++ digits

/-- The decimal digits of a number as text, with zeros in front up to `width` of them. -/
def padded (width n : Nat) : String :=
  String.ofList (paddedDigits width n)

theorem length_paddedDigits (width n : Nat) :
    (paddedDigits width n).length = max width (Nat.toDigits 10 n).length := by
  simp only [paddedDigits, List.length_append, List.length_replicate]
  omega

end BoundSql.Text
