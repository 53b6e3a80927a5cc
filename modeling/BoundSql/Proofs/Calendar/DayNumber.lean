import BoundSql.Proofs.Calendar.DayCount
import Mathlib.Order.Interval.Finset.Nat
import Mathlib.Tactic.IntervalCases

/-!
# Numbers of dates

The arithmetic on cycles of years counts the days of the calendar, and the date of a number is the
only one that counts this many.
-/

namespace BoundSql.Calendar.Date

variable {d : Date}

/-- From March on the days in front of a month do not depend on the year. -/
theorem daysBeforeMonth_add_three (year : Int) {months : Nat} (h : months ≤ 9) :
    daysBeforeMonth year (months + 3) = daysBeforeMonth year 3 + daysBefore months := by
  induction months with
  | zero => rfl
  | succ months ih =>
      have hsucc := daysBeforeMonth_succ year (Nat.le_add_left 1 (months + 2))
      have hdays : daysBefore months + daysInMonth year (months + 3) = daysBefore (months + 1) := by
        have hle : months ≤ 8 := Nat.le_of_succ_le_succ h
        interval_cases months <;> rfl
      rw [Nat.add_right_comm, hsucc, ih (Nat.le_of_succ_le h), Nat.add_assoc, hdays]

theorem daysBeforeMonth_three (year : Int) : daysBeforeMonth year 3 + 306 = daysInYear year := by
  unfold daysInYear
  cases h : isLeapYear year <;> simp [daysBeforeMonth, daysInMonth, List.range', h]

/-- The arithmetic on cycles counts the days. -/
theorem toDayNumber_eq_dayCount (h : d.Exists) : d.toDayNumber = d.dayCount := by
  obtain ⟨hpos, hle, -, -⟩ := h
  rw [toDayNumber, dayCount]
  by_cases hmonth : d.month ≤ 2
  · have hbefore : daysBefore ((d.month + 9) % 12) = daysBeforeMonth d.year d.month + 306 := by
      rcases (by omega : d.month = 1 ∨ d.month = 2) with h | h <;> rw [h] <;> rfl
    simp only [if_pos hmonth, hbefore, newYear_eq]
    omega
  · -- The leap day of the year is behind, so the next year begins a fixed number of days later.
    obtain ⟨months, hmonths⟩ := Nat.exists_eq_add_of_le' (Nat.lt_of_not_le hmonth)
    have hbefore := @daysBeforeMonth_add_three d.year months (by omega)
    have hyear := newYear_succ d.year
    have hthree := daysBeforeMonth_three d.year
    have hshift : (d.month + 9) % 12 = months := by omega
    rw [newYear_eq (d.year + 1), Int.add_sub_cancel] at hyear
    simp only [if_neg hmonth, hshift]
    rw [hmonths, hbefore]
    omega

/-- The date of a day of a year that begins in March, from zero. -/
def ofMarchYear (year : Int) (inYear : Nat) : Date :=
  let month := (5 * inYear + 2) / 153
  let day := inYear - daysBefore month + 1
  if month < 10 then ⟨year, month + 3, day⟩ else ⟨year + 1, month - 9, day⟩

/-- A day of a cycle of four hundred years: whole centuries, then groups of four years, then years.
A year with a day more is the last of its four, which are the last of their century only in the
last century. -/
structure InCycle (century four single inYear : Nat) : Prop where
  century_le : century ≤ 3
  four_le : four ≤ 24
  single_le : single ≤ 3
  inYear_le : inYear ≤ 365
  single_eq : inYear = 365 → single = 3
  century_eq : inYear = 365 → four = 24 → century = 3

theorem exists_inCycle (n : Int) :
    ∃ (cycle : Int) (century four single inYear : Nat), InCycle century four single inYear ∧
      n + 719468 = 146097 * cycle + 36524 * century + 1461 * four + 365 * single + inYear ∧
      ofDayNumber n =
        ofMarchYear (400 * cycle + (100 * century + 4 * four + single : Nat)) inYear := by
  refine ⟨_, _, _, _, _, ?_, ?_, rfl⟩
  · have hday : ((n + 719468) % 146097).toNat < 146097 := by omega
    generalize ((n + 719468) % 146097).toNat = day at hday
    refine ⟨Nat.min_le_right _ _, ?_, Nat.min_le_right _ _, ?_, ?_, ?_⟩ <;> omega
  · omega

theorem toDayNumber_ofMarchYear (year : Int) {inYear : Nat} (h : inYear ≤ 365) :
    (ofMarchYear year inYear).toDayNumber =
      365 * year + year / 4 - year / 100 + year / 400 + inYear - 719468 := by
  simp only [ofMarchYear, daysBefore]
  split
  · have hmonth : ((5 * inYear + 2) / 153 + 3 + 9) % 12 = (5 * inYear + 2) / 153 := by omega
    simp only [toDayNumber, daysBefore, hmonth]
    omega
  · have hmonth : ((5 * inYear + 2) / 153 - 9 + 9) % 12 = (5 * inYear + 2) / 153 := by omega
    simp only [toDayNumber, daysBefore, hmonth]
    omega

theorem exists_ofMarchYear {year : Int} {inYear : Nat} (h : inYear ≤ 365)
    (hleap : inYear = 365 → isLeapYear (year + 1)) : (ofMarchYear year inYear).Exists := by
  simp only [ofMarchYear, daysBefore]
  split
  · refine ⟨Nat.le_add_left 1 _, by simp only; omega, Nat.le_add_left 1 _, ?_⟩
    simp only [daysInMonth]
    repeat' split
    all_goals omega
  · refine ⟨by simp only; omega, by simp only; omega, Nat.le_add_left 1 _, ?_⟩
    simp only [daysInMonth]
    split
    · split
      · omega
      · rename_i hcommon
        have hlast := mt hleap hcommon
        omega
    · split <;> omega

theorem toDayNumber_ofDayNumber (n : Int) : (ofDayNumber n).toDayNumber = n := by
  obtain ⟨cycle, century, four, single, inYear, h, hn, heq⟩ := exists_inCycle n
  obtain ⟨h₁, h₂, h₃, h₄, -, -⟩ := h
  rw [heq, toDayNumber_ofMarchYear _ h₄]
  omega

theorem exists_ofDayNumber (n : Int) : (ofDayNumber n).Exists := by
  obtain ⟨cycle, century, four, single, inYear, h, hn, heq⟩ := exists_inCycle n
  obtain ⟨h₁, h₂, h₃, h₄, h₅, h₆⟩ := h
  rw [heq]
  refine exists_ofMarchYear h₄ fun hlast => isLeapYear_iff.mpr ?_
  have := h₅ hlast
  have := h₆ hlast
  omega

theorem dayCount_ofDayNumber (n : Int) : (ofDayNumber n).dayCount = n := by
  rw [← toDayNumber_eq_dayCount (exists_ofDayNumber n), toDayNumber_ofDayNumber]

/-- The date of the number of a date is the date. -/
theorem ofDayNumber_toDayNumber (h : d.Exists) : ofDayNumber d.toDayNumber = d := by
  rw [← (exists_ofDayNumber _).dayCount_inj h, dayCount_ofDayNumber, toDayNumber_eq_dayCount h]

theorem exists_first : Exists ⟨firstYear, 1, 1⟩ :=
  ⟨by decide, by decide, by decide, by decide⟩

theorem exists_last : Exists ⟨lastYear, 12, 31⟩ :=
  ⟨by decide, by decide, by decide, by decide⟩

/-- A date that is counted between the first and the last supported day is a supported one. -/
theorem Exists.valid (h : d.Exists) (hfirst : firstDay ≤ d.dayCount)
    (hlast : d.dayCount ≤ lastDay) : d.Valid := by
  refine ⟨?_, ?_, h.month_pos, h.month_le, h.day_pos, h.day_le⟩
  · rw [firstDay, toDayNumber_eq_dayCount exists_first] at hfirst
    refine Int.not_lt.mp fun hyear => Int.not_lt.mpr hfirst ?_
    exact (h.dayCount_lt_iff exists_first).mpr (.inl hyear)
  · rw [lastDay, toDayNumber_eq_dayCount exists_last] at hlast
    refine Int.not_lt.mp fun hyear => Int.not_lt.mpr hlast ?_
    exact (exists_last.dayCount_lt_iff h).mpr (.inl hyear)

theorem valid_ofDayNumber {n : Int} (hfirst : firstDay ≤ n) (hlast : n ≤ lastDay) :
    (ofDayNumber n).Valid := by
  rw [← dayCount_ofDayNumber n] at hfirst hlast
  exact (exists_ofDayNumber n).valid hfirst hlast

/-- The day after a supported date is supported too, unless the date is the last one. -/
theorem Valid.next_valid_iff (h : d.Valid) : d.next.Valid ↔ d ≠ ⟨lastYear, 12, 31⟩ := by
  constructor
  · rintro hnext rfl
    exact absurd hnext (by decide)
  · intro hne
    have hfirst := firstDay_le_toDayNumber h
    have hlast := toDayNumber_le_lastDay h
    have hbelow := mt (h.exists.dayCount_inj exists_last).mp hne
    rw [toDayNumber_eq_dayCount h.exists] at hfirst hlast
    rw [lastDay, toDayNumber_eq_dayCount exists_last] at hlast
    refine h.exists.next.valid ?_ ?_
    · rw [h.exists.dayCount_next]
      omega
    · rw [h.exists.dayCount_next, lastDay, toDayNumber_eq_dayCount exists_last]
      omega

end BoundSql.Calendar.Date
