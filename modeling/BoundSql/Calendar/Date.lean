/-!
# Dates of the Gregorian calendar

The calendar is extended to all years, with a year zero. Days are counted from 1970-01-01. Inside
the count a year begins in March, so that the leap day is its last day.
-/

namespace BoundSql.Calendar

/-- A year, a month from one and a day from one. -/
structure Date where
  year : Int
  month : Nat
  day : Nat
  deriving DecidableEq

namespace Date

/-- Every fourth year is a leap year, of the full centuries only every fourth. -/
def isLeapYear (year : Int) : Bool :=
  year % 4 == 0 && (year % 100 != 0 || year % 400 == 0)

/-- The number of days of a month. -/
def daysInMonth (year : Int) (month : Nat) : Nat :=
  if month = 2 then (if isLeapYear year then 29 else 28)
  else if month = 4 ∨ month = 6 ∨ month = 9 ∨ month = 11 then 30
  else 31

/-- The first year that a date may have. -/
def firstYear : Int := -262143

/-- The last year that a date may have. -/
def lastYear : Int := 262142

/-- A date that exists, in a year of the supported range. -/
structure Valid (d : Date) : Prop where
  year_ge : firstYear ≤ d.year
  year_le : d.year ≤ lastYear
  month_pos : 1 ≤ d.month
  month_le : d.month ≤ 12
  day_pos : 1 ≤ d.day
  day_le : d.day ≤ daysInMonth d.year d.month

instance (d : Date) : Decidable d.Valid :=
  decidable_of_iff
    (firstYear ≤ d.year ∧ d.year ≤ lastYear ∧ 1 ≤ d.month ∧ d.month ≤ 12 ∧ 1 ≤ d.day ∧
      d.day ≤ daysInMonth d.year d.month)
    ⟨fun ⟨a, b, c, e, f, g⟩ => ⟨a, b, c, e, f, g⟩, fun ⟨a, b, c, e, f, g⟩ => ⟨a, b, c, e, f, g⟩⟩

/-- Days from the first of March to the first of the month that many months later. -/
def daysBefore (months : Nat) : Nat :=
  (153 * months + 2) / 5

/-- The number of a date, counted from 1970-01-01. -/
def toDayNumber (d : Date) : Int :=
  let year := if d.month ≤ 2 then d.year - 1 else d.year
  let month := (d.month + 9) % 12
  365 * year + year / 4 - year / 100 + year / 400 + daysBefore month + d.day - 719469

/-- The date of a day number. Four hundred years, a century, four years and a year are taken off
in turn; the last century and the last year of a cycle also hold its extra day. -/
def ofDayNumber (n : Int) : Date :=
  let shifted := n + 719468
  let cycle := shifted / 146097
  let inCycle := (shifted % 146097).toNat
  let century := min (inCycle / 36524) 3
  let inCentury := inCycle - 36524 * century
  let four := inCentury / 1461
  let inFour := inCentury - 1461 * four
  let single := min (inFour / 365) 3
  let inYear := inFour - 365 * single
  let month := (5 * inYear + 2) / 153
  let day := inYear - daysBefore month + 1
  let year := 400 * cycle + (100 * century + 4 * four + single : Nat)
  if month < 10 then ⟨year, month + 3, day⟩ else ⟨year + 1, month - 9, day⟩

/-- The number of the first supported day. -/
def firstDay : Int := toDayNumber ⟨firstYear, 1, 1⟩

/-- The number of the last supported day. -/
def lastDay : Int := toDayNumber ⟨lastYear, 12, 31⟩

theorem firstDay_eq : firstDay = -96465292 := by decide

theorem lastDay_eq : lastDay = 95026236 := by decide

theorem daysInMonth_le (year : Int) (month : Nat) : daysInMonth year month ≤ 31 := by
  unfold daysInMonth
  split
  · split <;> decide
  · split <;> decide

theorem firstDay_le_toDayNumber {d : Date} (h : d.Valid) : firstDay ≤ d.toDayNumber := by
  obtain ⟨h₁, _, h₃, h₄, h₅, _⟩ := h
  rw [firstDay_eq]
  unfold firstYear at h₁
  simp only [toDayNumber, daysBefore]
  rcases Int.lt_or_eq_of_le h₁ with h | h <;> split <;> omega

theorem toDayNumber_le_lastDay {d : Date} (h : d.Valid) : d.toDayNumber ≤ lastDay := by
  obtain ⟨_, h₂, h₃, h₄, _, h₆⟩ := h
  have := daysInMonth_le d.year d.month
  rw [lastDay_eq]
  unfold lastYear at h₂
  simp only [toDayNumber, daysBefore]
  rcases Int.lt_or_eq_of_le h₂ with h | h <;> split <;> omega

end Date

end BoundSql.Calendar
