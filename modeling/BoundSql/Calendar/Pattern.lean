import BoundSql.Calendar.Timestamp
import BoundSql.Text.Digits

/-!
# Timestamp patterns

A pattern lists the parts of a written timestamp in order. It is itself written with a percent
sign before the letter of a part; every other character stands for itself.
-/

namespace BoundSql.Calendar

/-- One part of a written timestamp. -/
inductive Part
  | year
  | month
  | day
  | hour
  | minute
  | second
  | fraction
  | micros
  | offset
  | literal (c : Char)
  deriving DecidableEq

namespace Part

/-- A year has four digits; one before year zero or above 9999 also has its sign. -/
def yearText (year : Int) : String :=
  if year < 0 then "-" ++ Text.padded 4 year.natAbs
  else if year ≤ 9999 then Text.padded 4 year.natAbs
  else "+" ++ Text.padded 4 year.natAbs

/-- A fraction of a second has the fewest of three, six or nine digits that are exact, and a whole
second has none. -/
def fractionText (nanos : Nat) : String :=
  if nanos = 0 then ""
  else if nanos % 1000000 = 0 then "." ++ Text.padded 3 (nanos / 1000000)
  else if nanos % 1000 = 0 then "." ++ Text.padded 6 (nanos / 1000)
  else "." ++ Text.padded 9 nanos

example : yearText (-1) = "-0001" := by decide +kernel

example : yearText 262142 = "+262142" := by decide +kernel

example : fractionText 120000000 = ".120" := by decide +kernel

example : fractionText 1 = ".000000001" := by decide +kernel

/-- The text of one part of an instant. -/
def text (t : Timestamp) : Part → String
  | .year => yearText t.date.year
  | .month => Text.padded 2 t.date.month
  | .day => Text.padded 2 t.date.day
  | .hour => Text.padded 2 t.hour
  | .minute => Text.padded 2 t.minute
  | .second => Text.padded 2 t.second
  | .fraction => fractionText t.fraction
  | .micros => "." ++ Text.padded 6 (t.fraction / 1000)
  | .offset => "+00:00"
  | .literal c => String.singleton c

/-- How a part stands in a written pattern. -/
def specifier : Part → List Char
  | .year => ['%', 'Y']
  | .month => ['%', 'm']
  | .day => ['%', 'd']
  | .hour => ['%', 'H']
  | .minute => ['%', 'M']
  | .second => ['%', 'S']
  | .fraction => ['%', '.', 'f']
  | .micros => ['%', '.', '6', 'f']
  | .offset => ['%', ':', 'z']
  | .literal c => if c = '%' then ['%', '%'] else [c]

end Part

/-- The parts of a written timestamp in order. -/
structure Pattern where
  parts : List Part
  deriving DecidableEq

namespace Pattern

/-- The text of an instant: the texts of the parts, one after the other. -/
def format (p : Pattern) (t : Timestamp) : String :=
  String.join (p.parts.map (Part.text t))

/-- The written pattern. -/
def toString (p : Pattern) : String :=
  String.ofList (p.parts.flatMap Part.specifier)

/-- Read the parts of a written pattern; an unknown letter after a percent sign is refused. -/
def partsOf? : List Char → Option (List Part)
  | [] => some []
  | '%' :: 'Y' :: rest => (partsOf? rest).map (.year :: ·)
  | '%' :: 'm' :: rest => (partsOf? rest).map (.month :: ·)
  | '%' :: 'd' :: rest => (partsOf? rest).map (.day :: ·)
  | '%' :: 'H' :: rest => (partsOf? rest).map (.hour :: ·)
  | '%' :: 'M' :: rest => (partsOf? rest).map (.minute :: ·)
  | '%' :: 'S' :: rest => (partsOf? rest).map (.second :: ·)
  | '%' :: '.' :: 'f' :: rest => (partsOf? rest).map (.fraction :: ·)
  | '%' :: '.' :: '6' :: 'f' :: rest => (partsOf? rest).map (.micros :: ·)
  | '%' :: ':' :: 'z' :: rest => (partsOf? rest).map (.offset :: ·)
  | '%' :: '%' :: rest => (partsOf? rest).map (.literal '%' :: ·)
  | '%' :: _ => none
  | c :: rest => (partsOf? rest).map (.literal c :: ·)

/-- Read a written pattern. -/
def ofString? (text : String) : Option Pattern :=
  (partsOf? text.toList).map Pattern.mk

/-- Reading a written pattern gives the pattern. -/
theorem partsOf?_specifiers (parts : List Part) :
    partsOf? (parts.flatMap Part.specifier) = some parts := by
  induction parts with
  | nil => rfl
  | cons part rest ih =>
      cases part with
      | literal c =>
          by_cases h : c = '%'
          · simp [Part.specifier, h, partsOf?, ih]
          · simp [Part.specifier, h, partsOf?, ih]
      | _ => simp [Part.specifier, partsOf?, ih]

@[simp] theorem ofString?_toString (p : Pattern) : ofString? p.toString = some p := by
  simp [ofString?, toString, partsOf?_specifiers]

end Pattern

end BoundSql.Calendar
