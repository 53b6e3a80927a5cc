import BoundSql.Decimal.Layout

/-!
# Characters of numerals

Whatever its layout, a finite number is written with digits, a point, an exponent sign and the
signs of numbers.
-/

namespace BoundSql.Decimal

/-- The characters with which numbers are written. -/
def isNumeral (c : Char) : Bool :=
  c.isDigit || c = '.' || c = 'e' || c = '-' || c = '+'

theorem isNumeral_of_isDigit {c : Char} (h : c.isDigit) : isNumeral c := by
  simp [isNumeral, h]

theorem isDigit_of_mem_toDigits {n : Nat} {c : Char} (h : c ∈ Nat.toDigits 10 n) : c.isDigit :=
  Nat.isDigit_of_mem_toDigits (by decide) (by decide) h

/-- The shortest form has nothing but digits. -/
theorem isDigit_of_mem_shortest {x : Binary} {tie : Tie} {c : Char}
    (h : c ∈ (x.shortest tie).digits) : c.isDigit := by
  have hkept := (List.dropWhile_sublist (· == '0')).subset (List.mem_reverse.mp h)
  exact isDigit_of_mem_toDigits (List.mem_reverse.mp hkept)

namespace Digits

variable {d : Digits}

theorem isNumeral_of_mem_positional (h : ∀ c ∈ d.digits, c.isDigit) {c : Char}
    (hc : c ∈ d.positional) : isNumeral c := by
  have hdigit {c : Char} (hc : c ∈ d.digits) : isNumeral c := isNumeral_of_isDigit (h c hc)
  unfold positional at hc
  split at hc
  · simp only [List.mem_append, List.mem_cons, List.not_mem_nil, or_false,
      List.mem_replicate] at hc
    rcases hc with ((rfl | rfl) | ⟨-, rfl⟩) | hc
    · rfl
    · rfl
    · rfl
    · exact hdigit hc
  · simp only [List.mem_append, List.mem_cons, List.mem_replicate] at hc
    rcases hc with (hc | ⟨-, rfl⟩) | rfl | hc
    · exact hdigit (List.mem_of_mem_take hc)
    · rfl
    · rfl
    · split at hc
      · obtain rfl := List.mem_singleton.mp hc
        rfl
      · exact hdigit (List.mem_of_mem_drop hc)

theorem isNumeral_of_mem_scientific (h : ∀ c ∈ d.digits, c.isDigit) {plusSign : Bool} {c : Char}
    (hc : c ∈ d.scientific plusSign) : isNumeral c := by
  have hdigit {c : Char} (hc : c ∈ d.digits) : isNumeral c := isNumeral_of_isDigit (h c hc)
  have hsign {c : Char}
      (hc : c ∈ if d.exponent < 0 then ['-'] else if plusSign then ['+'] else []) :
      isNumeral c := by
    split at hc
    · obtain rfl := List.mem_singleton.mp hc
      rfl
    · split at hc
      · obtain rfl := List.mem_singleton.mp hc
        rfl
      · exact absurd hc List.not_mem_nil
  simp only [scientific, List.mem_append, List.mem_cons] at hc
  rcases hc with ((hc | hc) | rfl | hc) | hc
  · exact hdigit (List.mem_of_mem_take hc)
  · split at hc
    · exact absurd hc List.not_mem_nil
    · rcases List.mem_cons.mp hc with rfl | hc
      · rfl
      · exact hdigit (List.mem_of_mem_drop hc)
  · rfl
  · exact hsign hc
  · exact isNumeral_of_isDigit (isDigit_of_mem_toDigits hc)

end Digits

namespace Layout

variable {layout : Layout} {x : Binary}

theorem isNumeral_of_mem_magnitude {c : Char} (hc : c ∈ layout.magnitude x) : isNumeral c := by
  unfold magnitude at hc
  split at hc
  · simp only [List.mem_cons, List.not_mem_nil, or_false] at hc
    rcases hc with rfl | rfl | rfl <;> rfl
  · simp only at hc
    split at hc
    · exact Digits.isNumeral_of_mem_positional (fun _ => isDigit_of_mem_shortest) hc
    · exact Digits.isNumeral_of_mem_scientific (fun _ => isDigit_of_mem_shortest) hc

/-- A finite number is written with the characters of numbers. -/
theorem isNumeral_of_mem_finite {negative : Bool} {c : Char}
    (hc : c ∈ (layout.finite negative x).toList) : isNumeral c := by
  rw [finite, String.toList_ofList] at hc
  split at hc
  · rcases List.mem_cons.mp hc with rfl | hc
    · rfl
    · exact isNumeral_of_mem_magnitude hc
  · exact isNumeral_of_mem_magnitude hc

end Layout

/-- A whole number is written with the characters of numbers. -/
theorem isNumeral_of_mem_int {n : Int} {c : Char} (hc : c ∈ (toString n).toList) :
    isNumeral c := by
  cases n with
  | ofNat n =>
      have hdigits : (toString (Int.ofNat n)).toList = Nat.toDigits 10 n := Nat.toList_repr
      exact isNumeral_of_isDigit (isDigit_of_mem_toDigits (hdigits ▸ hc))
  | negSucc n =>
      have hdigits : (toString (Int.negSucc n)).toList = '-' :: Nat.toDigits 10 (n + 1) := by
        have hsign : toString (Int.negSucc n) = "-" ++ (n + 1).repr := rfl
        rw [hsign, String.toList_append, Nat.toList_repr]
        rfl
      rw [hdigits] at hc
      rcases List.mem_cons.mp hc with rfl | hc
      · rfl
      · exact isNumeral_of_isDigit (isDigit_of_mem_toDigits hc)

end BoundSql.Decimal
