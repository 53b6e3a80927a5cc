/-!
# Hexadecimal digits

Bytes are written as two digits each, the high half first, and read back in either case.
-/

namespace BoundSql.Text.Hex

/-- Which letters stand for ten to fifteen. -/
inductive LetterCase
  | lower
  | upper
  deriving DecidableEq

/-- The sixteen digits in ascending order. -/
def digits : LetterCase → List Char
  | .lower => ['0', '1', '2', '3', '4', '5', '6', '7', '8', '9', 'a', 'b', 'c', 'd', 'e', 'f']
  | .upper => ['0', '1', '2', '3', '4', '5', '6', '7', '8', '9', 'A', 'B', 'C', 'D', 'E', 'F']

/-- The digit of a number below sixteen. -/
def digit (letters : LetterCase) (n : Nat) : Char :=
  (digits letters).getD n '0'

/-- The number that a digit of either case stands for. -/
def value? (c : Char) : Option Nat :=
  if '0' ≤ c ∧ c ≤ '9' then some (c.toNat - '0'.toNat)
  else if 'a' ≤ c ∧ c ≤ 'f' then some (c.toNat - 'a'.toNat + 10)
  else if 'A' ≤ c ∧ c ≤ 'F' then some (c.toNat - 'A'.toNat + 10)
  else none

/-- The lowest `width` digits of a number, the highest first. -/
def ofNat (letters : LetterCase) : (width : Nat) → Nat → List Char
  | 0, _ => []
  | width + 1, n => ofNat letters width (n / 16) ++ [digit letters (n % 16)]

/-- The number that a list of digits stands for. -/
def toNat? (cs : List Char) : Option Nat :=
  cs.foldl (fun sofar c => do return 16 * (← sofar) + (← value? c)) (some 0)

/-- The two digits of a byte. -/
def ofByte (letters : LetterCase) (b : UInt8) : List Char :=
  [digit letters (b.toNat / 16), digit letters (b.toNat % 16)]

/-- The digits of a sequence of bytes. -/
def encode (letters : LetterCase) (bytes : List UInt8) : List Char :=
  bytes.flatMap (ofByte letters)

/-- The bytes that pairs of digits stand for. -/
def decode? : List Char → Option (List UInt8)
  | [] => some []
  | [_] => none
  | high :: low :: rest => do
      let byte := UInt8.ofNat (16 * (← value? high) + (← value? low))
      return byte :: (← decode? rest)

theorem length_ofNat (letters : LetterCase) (width n : Nat) :
    (ofNat letters width n).length = width := by
  induction width generalizing n with
  | zero => rfl
  | succ width ih => simp [ofNat, ih]

theorem length_encode (letters : LetterCase) (bytes : List UInt8) :
    (encode letters bytes).length = 2 * bytes.length := by
  induction bytes with
  | nil => rfl
  | cons b rest ih =>
      simp only [encode, List.flatMap_cons, List.length_append, List.length_cons] at ih ⊢
      rw [ih]
      simp [ofByte]
      omega

end BoundSql.Text.Hex
