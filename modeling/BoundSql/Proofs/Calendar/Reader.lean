import BoundSql.Calendar.Timestamp
import BoundSql.Proofs.Calendar.DayCount
import BoundSql.Proofs.Text.Digits

/-!
# Reading written instants

The reader knows no pattern. It reads a year with or without a sign, the month and the day with
hyphens in front, a `T` or a space, the hour, the minute and the second with colons between them,
and then a fraction of a second and the distance to universal time, where these are written. The
days up to the date are counted in the calendar.
-/

namespace BoundSql.Calendar

open Text

/-- The fields of a written instant: a date, a time of the day, a fraction of a second in
nanoseconds, and how many minutes it is ahead of universal time, where that is written. -/
structure Fields where
  date : Date
  hour : Nat
  minute : Nat
  second : Nat
  fraction : Nat
  ahead : Option Int

namespace Fields

/-- A date of the calendar and a time of the day. Second number sixty is a leap second. -/
structure Valid (f : Fields) : Prop where
  date : f.date.Valid
  hour_lt : f.hour < 24
  minute_lt : f.minute < 60
  second_le : f.second ≤ 60

/-- The seconds from the start of 1970 and the nanoseconds of the second. A leap second is the
second in front of it with the nanoseconds of a second more. -/
def instant (f : Fields) : Int × Nat :=
  (secondsPerDay * f.date.dayCount + 3600 * f.hour + 60 * (f.minute - f.ahead.getD 0) +
      min f.second 59,
    if f.second = 60 then nanosPerSecond + f.fraction else f.fraction)

/-- What fields denote: an instant, whose distance to universal time is written or not. -/
structure Denotes (f : Fields) (ahead : Option Int) (seconds : Int) (nanos : Nat) : Prop where
  valid : f.Valid
  ahead_eq : f.ahead = ahead
  second_eq_sixty_iff : f.second = 60 ↔ nanosPerSecond ≤ nanos
  instant_eq : f.instant = (seconds, nanos)

end Fields

/-- Read a sign. A number without one is positive. -/
def sign : List Char → Int × List Char
  | '-' :: rest => (-1, rest)
  | '+' :: rest => (1, rest)
  | cs => (1, cs)

/-- Read a year. -/
def year? (cs : List Char) : Option (Int × List Char) :=
  (digits? (sign cs).2).map fun (digits, rest) => ((sign cs).1 * digitsToNat digits, rest)

/-- Read a date. -/
def date? (cs : List Char) : Option (Date × List Char) := do
  let (year, cs) ← year? cs
  let (month, cs) ← fixed? 2 (← oneOf? ['-'] cs)
  let (day, cs) ← fixed? 2 (← oneOf? ['-'] cs)
  return (⟨year, month, day⟩, cs)

/-- Read a time of the day. -/
def clock? (cs : List Char) : Option ((Nat × Nat × Nat) × List Char) := do
  let (hour, cs) ← fixed? 2 cs
  let (minute, cs) ← fixed? 2 (← oneOf? [':'] cs)
  let (second, cs) ← fixed? 2 (← oneOf? [':'] cs)
  return ((hour, minute, second), cs)

/-- Read a fraction of a second of up to nine digits, as nanoseconds. There is none where no point
stands in front. -/
def fraction? : List Char → Option (Nat × List Char)
  | '.' :: cs => do
      let (digits, rest) ← digits? cs
      if digits.length ≤ 9 then some (digitsToNat digits * 10 ^ (9 - digits.length), rest) else none
  | cs => some (0, cs)

/-- Read the distance to universal time in minutes, up to the end of the text. There is none where
the text is at its end. -/
def ahead? (cs : List Char) : Option (Option Int) :=
  if cs.isEmpty then some none
  else do
    let (hours, rest) ← fixed? 2 (← oneOf? ['+', '-'] cs)
    let (minutes, rest) ← fixed? 2 (← oneOf? [':'] rest)
    if rest.isEmpty then some (some ((sign cs).1 * (60 * hours + minutes))) else none

/-- Read the fields of an instant. -/
def fields? (text : String) : Option Fields := do
  let (date, cs) ← date? text.toList
  let ((hour, minute, second), cs) ← clock? (← oneOf? ['T', ' '] cs)
  let (fraction, cs) ← fraction? cs
  return ⟨date, hour, minute, second, fraction, ← ahead? cs⟩

-- Behind universal time, in a leap second.
example : (fields? "1969-12-31 23:59:60.5-01:30").map Fields.instant = some (5399, 1500000000) := by
  decide +kernel

end BoundSql.Calendar
