import BoundSql.Text.Hex

/-!
# Reading hexadecimal digits back

The digits of bytes are read back as the bytes. Between a fixed text in front and one behind that
begins with a single quote they end at that quote, since no digit is one.
-/

namespace BoundSql.Text.Hex

/-- The digit of a number is read back, in either case. -/
theorem value?_digit (letters : LetterCase) {n : Nat} (h : n < 16) :
    value? (digit letters n) = some n := by
  have hall : ∀ n < 16, value? (digit letters n) = some n := by
    cases letters <;> decide
  exact hall n h

/-- The digits of bytes are read back, the high half of each byte first. -/
theorem decode?_encode (letters : LetterCase) (bytes : List UInt8) :
    decode? (encode letters bytes) = some bytes := by
  induction bytes with
  | nil => rfl
  | cons b rest ih =>
      have hbyte := b.toNat_lt
      have hhigh : value? (digit letters (b.toNat / 16)) = some (b.toNat / 16) :=
        value?_digit letters (by omega)
      have hlow : value? (digit letters (b.toNat % 16)) = some (b.toNat % 16) :=
        value?_digit letters (by omega)
      have hhalves : UInt8.ofNat (16 * (b.toNat / 16) + b.toNat % 16) = b := by
        rw [Nat.div_add_mod, UInt8.ofNat_toNat]
      have hcons : encode letters (b :: rest) =
          digit letters (b.toNat / 16) :: digit letters (b.toNat % 16) :: encode letters rest := rfl
      rw [hcons, decode?, hhigh, hlow, ih]
      simp only [Option.bind_eq_bind, Option.bind_some, hhalves, Option.pure_def]

theorem digit_mem_digits (letters : LetterCase) (n : Nat) : digit letters n ∈ digits letters := by
  rw [digit, List.getD_eq_getElem?_getD]
  cases h : (digits letters)[n]? with
  | none => cases letters <;> decide
  | some c => exact List.mem_of_getElem? h

theorem mem_digits_of_mem_encode {letters : LetterCase} {bytes : List UInt8} {c : Char}
    (h : c ∈ encode letters bytes) : c ∈ digits letters := by
  obtain ⟨b, -, hc⟩ := List.mem_flatMap.mp h
  simp only [ofByte, List.mem_cons, List.not_mem_nil, or_false] at hc
  rcases hc with rfl | rfl <;> exact digit_mem_digits letters _

/-- A text that spells bytes: two digits for each byte between two fixed texts. -/
def Spells (opening closing text : String) (bytes : List UInt8) : Prop :=
  ∃ written : List Char, text = opening ++ String.ofList written ++ closing ∧
    written.length = 2 * bytes.length ∧ (∀ c ∈ written, c ∈ "0123456789ABCDEF".toList) ∧
    decode? written = some bytes

/-- Drop a fixed text in front. -/
def behind? (front : String) (cs : List Char) : Option (List Char) :=
  if front.toList <+: cs then some (cs.drop front.toList.length) else none

/-- Read bytes between two fixed texts. The digits end at the first single quote. The answer is the
bytes and what follows the text behind them. -/
def between? (opening closing text : String) : Option (List UInt8 × String) := do
  let cs ← behind? opening text.toList
  let bytes ← decode? (cs.takeWhile (· ≠ '\''))
  let rest ← behind? closing (cs.dropWhile (· ≠ '\''))
  return (bytes, String.ofList rest)

/-- Bytes are written without loss between two fixed texts: the digits spell them, they are read
back in front of any other text, and different bytes are written differently. -/
structure Lossless (opening closing : String) (write : List UInt8 → String) : Prop where
  spells : ∀ bytes, Spells opening closing (write bytes) bytes
  read_append : ∀ bytes rest, between? opening closing (write bytes ++ rest) = some (bytes, rest)
  injective : Function.Injective write

theorem behind?_append (front : String) (cs : List Char) :
    behind? front (front.toList ++ cs) = some cs := by
  rw [behind?, if_pos (List.prefix_append _ _), List.drop_left]

theorem ne_quote_of_mem_encode {bytes : List UInt8} {c : Char} (h : c ∈ encode .upper bytes) :
    c ≠ '\'' := by
  rintro rfl
  exact absurd (mem_digits_of_mem_encode h) (by decide)

theorem between?_append {opening closing : String} (h : closing.toList.head? = some '\'')
    (bytes : List UInt8) (rest : String) :
    between? opening closing
      (opening ++ String.ofList (encode .upper bytes) ++ closing ++ rest) = some (bytes, rest) := by
  obtain ⟨cs, hcs⟩ : ∃ cs, closing.toList = '\'' :: cs := List.head?_eq_some_iff.mp h
  have hbehind := behind?_append closing rest.toList
  have hall : ∀ c ∈ encode .upper bytes, decide (c ≠ '\'') = true := fun c hc =>
    decide_eq_true (ne_quote_of_mem_encode hc)
  have htake : (encode .upper bytes ++ (closing.toList ++ rest.toList)).takeWhile (· ≠ '\'') =
      encode .upper bytes := by
    rw [List.takeWhile_append_of_pos hall, hcs]
    simp
  have hdrop : (encode .upper bytes ++ (closing.toList ++ rest.toList)).dropWhile (· ≠ '\'') =
      closing.toList ++ rest.toList := by
    rw [List.dropWhile_append_of_pos hall, hcs]
    simp
  have htext : (opening ++ String.ofList (encode .upper bytes) ++ closing ++ rest).toList =
      opening.toList ++ (encode .upper bytes ++ (closing.toList ++ rest.toList)) := by
    simp
  rw [between?, htext, behind?_append, Option.bind_eq_bind, Option.bind_some, htake, hdrop,
    decode?_encode, hbehind]
  simp

/-- Upper-case digits between fixed texts, the one behind in front of which they end at its quote,
are a lossless way of writing bytes. -/
theorem lossless_encode {opening closing : String} (h : closing.toList.head? = some '\'') :
    Lossless opening closing fun bytes =>
      opening ++ String.ofList (encode .upper bytes) ++ closing where
  spells bytes :=
    ⟨encode .upper bytes, rfl, length_encode .upper bytes, fun _ => mem_digits_of_mem_encode,
      decode?_encode .upper bytes⟩
  read_append := between?_append h
  injective bytes others heq := by
    have hread := @between?_append opening closing h bytes ""
    have hothers := @between?_append opening closing h others ""
    simp only at heq
    rw [heq, hothers] at hread
    exact (Prod.mk.inj (Option.some.inj hread)).1.symm

end BoundSql.Text.Hex
