import BoundSql.Text.Digits
import Mathlib.Algebra.GroupWithZero.Nat

/-!
# Reading decimal digits

Numbers are read from the front of a text: all digits that stand there, or a fixed count of them.
Zeros in front of a number do not change it, so a padded number is read back.
-/

namespace BoundSql.Text

/-- The number that decimal digits stand for. -/
def digitsToNat (digits : List Char) : Nat :=
  Nat.ofDigitChars 10 digits 0

/-- Read the digits in front, at least one. The answer is the digits and what follows them. -/
def digits? (cs : List Char) : Option (List Char × List Char) :=
  if (cs.takeWhile Char.isDigit).isEmpty then none
  else some (cs.takeWhile Char.isDigit, cs.dropWhile Char.isDigit)

/-- Read a number of a fixed count of digits. -/
def fixed? (count : Nat) (cs : List Char) : Option (Nat × List Char) :=
  if (cs.take count).length = count ∧ (cs.take count).all Char.isDigit then
    some (digitsToNat (cs.take count), cs.drop count)
  else none

/-- Read one of some characters. -/
def oneOf? (allowed : List Char) : List Char → Option (List Char)
  | [] => none
  | c :: rest => if c ∈ allowed then some rest else none

variable {width n : Nat}

theorem isDigit_of_mem_paddedDigits {c : Char} (h : c ∈ paddedDigits width n) : c.isDigit := by
  rcases List.mem_append.mp h with h | h
  · rw [List.eq_of_mem_replicate h]
    rfl
  · exact Nat.isDigit_of_mem_toDigits (by decide) (by decide) h

theorem digitsToNat_paddedDigits (width n : Nat) : digitsToNat (paddedDigits width n) = n := by
  rw [digitsToNat, paddedDigits, Nat.ofDigitChars_append, Nat.ofDigitChars_replicate_zero,
    Nat.mul_zero, Nat.ofDigitChars_ten_toDigits]

theorem length_paddedDigits_of_lt (hwidth : 0 < width) (h : n < 10 ^ width) :
    (paddedDigits width n).length = width := by
  rw [length_paddedDigits]
  exact Nat.max_eq_left ((Nat.length_toDigits_le_iff (by decide) hwidth).mpr h)

theorem paddedDigits_ne_nil (width n : Nat) : paddedDigits width n ≠ [] :=
  List.append_ne_nil_of_right_ne_nil _ (List.ne_nil_of_length_pos Nat.length_toDigits_pos)

/-- Digits are read up to the first character that is none. -/
theorem digits?_paddedDigits_append {rest : List Char} (h : ∀ c ∈ rest.head?, ¬c.isDigit) :
    digits? (paddedDigits width n ++ rest) = some (paddedDigits width n, rest) := by
  have hall : ∀ c ∈ paddedDigits width n, c.isDigit := fun c => isDigit_of_mem_paddedDigits
  have hstop : rest.takeWhile Char.isDigit = [] ∧ rest.dropWhile Char.isDigit = rest := by
    cases rest with
    | nil => exact ⟨rfl, rfl⟩
    | cons c rest => simp [Bool.eq_false_iff.mpr (h c rfl)]
  rw [digits?, List.takeWhile_append_of_pos hall, List.dropWhile_append_of_pos hall, hstop.1,
    hstop.2, List.append_nil, if_neg (by simpa using paddedDigits_ne_nil width n)]

/-- A padded number is read back where it has no more digits than it is padded to. -/
theorem fixed?_paddedDigits_append (hwidth : 0 < width) (h : n < 10 ^ width) (rest : List Char) :
    fixed? width (paddedDigits width n ++ rest) = some (n, rest) := by
  have hlength := length_paddedDigits_of_lt hwidth h
  have hall : (paddedDigits width n).all Char.isDigit :=
    List.all_eq_true.mpr fun c => isDigit_of_mem_paddedDigits
  rw [fixed?, List.take_left' hlength, List.drop_left' hlength, if_pos ⟨hlength, hall⟩,
    digitsToNat_paddedDigits]

@[simp] theorem toList_padded (width n : Nat) : (padded width n).toList = paddedDigits width n :=
  String.toList_ofList

end BoundSql.Text
