import BoundSql.Calendar.Date

/-!
# Timestamps

An instant in universal time: seconds from the start of 1970 and nanoseconds of the second. Any
second may have up to a thousand million nanoseconds more. In the last second of a minute these are
a leap second; in any other one they are written like the next second.
-/

namespace BoundSql.Calendar

/-- Seconds of a day. -/
def secondsPerDay : Int := 86400

/-- Nanoseconds of a second. -/
def nanosPerSecond : Nat := 1000000000

/-- An instant within the supported years. -/
@[ext]
structure Timestamp where
  seconds : Int
  nanos : Nat
  seconds_ge : Date.firstDay * secondsPerDay ≤ seconds
  seconds_lt : seconds < (Date.lastDay + 1) * secondsPerDay
  nanos_lt : nanos < 2 * nanosPerSecond
  deriving DecidableEq

namespace Timestamp

/-- The instant with these seconds and nanoseconds, if there is one. -/
def ofUnix? (seconds : Int) (nanos : Nat) : Option Timestamp :=
  if h : Date.firstDay * secondsPerDay ≤ seconds ∧
      seconds < (Date.lastDay + 1) * secondsPerDay ∧ nanos < 2 * nanosPerSecond then
    some ⟨seconds, nanos, h.1, h.2.1, h.2.2⟩
  else none

/-- The first instant of a date. -/
def midnight (d : Date) (valid : d.Valid) : Timestamp where
  seconds := d.toDayNumber * secondsPerDay
  nanos := 0
  seconds_ge := by
    have := Date.firstDay_le_toDayNumber valid
    unfold secondsPerDay
    omega
  seconds_lt := by
    have := Date.toDayNumber_le_lastDay valid
    unfold secondsPerDay
    omega
  nanos_lt := by decide

/-- The date of an instant. -/
def date (t : Timestamp) : Date :=
  Date.ofDayNumber (t.seconds / secondsPerDay)

/-- The seconds since midnight, without a leap second. -/
def secondOfDay (t : Timestamp) : Nat :=
  (t.seconds % secondsPerDay).toNat

/-- The hour of the day, from zero. -/
def hour (t : Timestamp) : Nat :=
  t.secondOfDay / 3600

/-- The minute of the hour, from zero. -/
def minute (t : Timestamp) : Nat :=
  t.secondOfDay / 60 % 60

/-- The second of the minute, from zero; one more where it has more nanoseconds than a second, so
that a leap second is number sixty. -/
def second (t : Timestamp) : Nat :=
  t.secondOfDay % 60 + t.nanos / nanosPerSecond

/-- The nanoseconds of the second that is written. -/
def fraction (t : Timestamp) : Nat :=
  t.nanos % nanosPerSecond

end Timestamp

end BoundSql.Calendar
