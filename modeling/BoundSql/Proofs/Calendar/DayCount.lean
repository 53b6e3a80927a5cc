import BoundSql.Calendar.Date
import Mathlib.Algebra.GroupWithZero.Nat
import Mathlib.Data.Int.Init

/-!
# Counting the days of the calendar

Days can be counted without arithmetic on cycles: those of the whole years from 1970 on, those of
the whole months of the year, and those of the month. The count follows the order of dates, and the
day after a date counts one more.
-/

namespace BoundSql.Calendar.Date

/-- The number of days of a year. -/
def daysInYear (year : Int) : Nat :=
  if isLeapYear year then 366 else 365

/-- The days of years in a row. -/
def daysInYears (first : Int) (count : Nat) : Nat :=
  ((List.range count).map fun k : Nat => daysInYear (first + k)).sum

/-- The days from the first of January 1970 to that of a year, fewer than none where the year is an
earlier one. -/
def newYear (year : Int) : Int :=
  daysInYears 1970 (year - 1970).toNat - daysInYears year (1970 - year).toNat

/-- The days of a year in front of a month. -/
def daysBeforeMonth (year : Int) (month : Nat) : Nat :=
  ((List.range' 1 (month - 1)).map (daysInMonth year)).sum

/-- The days from the first of January 1970 to a date. -/
def dayCount (d : Date) : Int :=
  newYear d.year + daysBeforeMonth d.year d.month + d.day - 1

/-- A date of the calendar, in any year. -/
structure Exists (d : Date) : Prop where
  month_pos : 1 ≤ d.month
  month_le : d.month ≤ 12
  day_pos : 1 ≤ d.day
  day_le : d.day ≤ daysInMonth d.year d.month

/-- A date comes before another one in the order of years, months and days. -/
def Before (d e : Date) : Prop :=
  d.year < e.year ∨ d.year = e.year ∧ (d.month < e.month ∨ d.month = e.month ∧ d.day < e.day)

/-- The date of the day after. -/
def next (d : Date) : Date :=
  if d.day < daysInMonth d.year d.month then ⟨d.year, d.month, d.day + 1⟩
  else if d.month < 12 then ⟨d.year, d.month + 1, 1⟩
  else ⟨d.year + 1, 1, 1⟩

variable {d e : Date}

theorem Valid.exists (h : d.Valid) : d.Exists :=
  ⟨h.month_pos, h.month_le, h.day_pos, h.day_le⟩

theorem isLeapYear_iff {year : Int} :
    isLeapYear year ↔ year % 4 = 0 ∧ (year % 100 ≠ 0 ∨ year % 400 = 0) := by
  simp [isLeapYear]

section Years

theorem daysInYears_succ (first : Int) (count : Nat) :
    daysInYears first (count + 1) = daysInYears first count + daysInYear (first + count) := by
  simp [daysInYears, List.range_succ]

theorem daysInYears_succ' (first : Int) (count : Nat) :
    daysInYears first (count + 1) = daysInYear first + daysInYears (first + 1) count := by
  have hshift (k : Nat) : first + ((k + 1 : Nat) : Int) = first + 1 + k := by omega
  simp only [daysInYears, List.range_succ_eq_map, List.map_cons, List.map_map, List.sum_cons,
    Function.comp_def, Nat.succ_eq_add_one, hshift]
  simp

theorem newYear_succ (year : Int) : newYear (year + 1) = newYear year + daysInYear year := by
  by_cases h : year < 1970
  · obtain ⟨count, hcount⟩ := Int.le.dest (Int.add_one_le_of_lt h)
    have hnext : (1970 - (year + 1)).toNat = count := by omega
    have hthis : (1970 - year).toNat = count + 1 := by omega
    have hnone : (year + 1 - 1970).toNat = 0 := by omega
    have hnone' : (year - 1970).toNat = 0 := by omega
    simp only [newYear, hnext, hthis, hnone, hnone', daysInYears_succ']
    omega
  · obtain ⟨count, rfl⟩ := Int.le.dest (Int.not_lt.mp h)
    have hnext : (1970 + (count : Int) + 1 - 1970).toNat = count + 1 := by omega
    have hthis : (1970 + (count : Int) - 1970).toNat = count := by omega
    have hnone : (1970 - (1970 + (count : Int) + 1)).toNat = 0 := by omega
    have hnone' : (1970 - (1970 + (count : Int))).toNat = 0 := by omega
    simp only [newYear, hnext, hthis, hnone, hnone', daysInYears_succ]
    simp [daysInYears]

/-- Every year has 365 days, and every leap year in front of it gives one more. -/
theorem newYear_eq (year : Int) :
    newYear year = 365 * year + (year - 1) / 4 - (year - 1) / 100 + (year - 1) / 400 - 719527 := by
  have hstep (year : Int) : (daysInYear year : Int) = 365 + (year / 4 - (year - 1) / 4) -
      (year / 100 - (year - 1) / 100) + (year / 400 - (year - 1) / 400) := by
    simp only [daysInYear, isLeapYear_iff]
    split <;> omega
  refine Int.inductionOn' year 1970 rfl (fun year _ ih => ?_) (fun year _ ih => ?_)
  · rw [newYear_succ, ih, hstep]
    omega
  · have hsucc := newYear_succ (year - 1)
    rw [Int.sub_add_cancel, ih, hstep] at hsucc
    omega

/-- A later year begins when the earlier one is over. -/
theorem newYear_add_le {year later : Int} (h : year < later) :
    newYear year + daysInYear year ≤ newYear later := by
  rw [← newYear_succ]
  induction later, Int.add_one_le_of_lt h using Int.leInduction with
  | base => exact Int.le_refl _
  | succ later _ ih =>
      rw [newYear_succ later]
      omega

end Years

section Months
variable {year : Int} {month later : Nat}

theorem daysBeforeMonth_succ (year : Int) (h : 1 ≤ month) :
    daysBeforeMonth year (month + 1) = daysBeforeMonth year month + daysInMonth year month := by
  obtain ⟨count, rfl⟩ := Nat.exists_eq_add_of_le h
  simp [daysBeforeMonth, Nat.add_comm 1 count, List.range'_concat]

/-- A later month begins when the earlier one is over. -/
theorem daysBeforeMonth_add_le (year : Int) (hmonth : 1 ≤ month) (h : month < later) :
    daysBeforeMonth year month + daysInMonth year month ≤ daysBeforeMonth year later := by
  rw [← daysBeforeMonth_succ year hmonth]
  induction h with
  | refl => exact Nat.le_refl _
  | @step later hle ih =>
      have hlater := daysBeforeMonth_succ year (Nat.le_trans (Nat.le_add_left 1 month) hle)
      exact Nat.le_trans ih (Nat.le.intro hlater.symm)

/-- The twelve months make the year. -/
theorem daysBeforeMonth_thirteen (year : Int) : daysBeforeMonth year 13 = daysInYear year := by
  unfold daysInYear
  cases h : isLeapYear year <;> simp [daysBeforeMonth, daysInMonth, List.range', h]

end Months

section Order

/-- A date lies within its year. -/
theorem Exists.ordinal_le (h : d.Exists) :
    daysBeforeMonth d.year d.month + d.day ≤ daysInYear d.year := by
  have hmonth := daysBeforeMonth_add_le d.year h.month_pos (Nat.lt_succ_of_le h.month_le)
  have hday := h.day_le
  rw [daysBeforeMonth_thirteen] at hmonth
  omega

/-- A later date has a greater count. -/
theorem Before.dayCount_lt (h : d.Before e) (hd : d.Exists) (he : e.Exists) :
    d.dayCount < e.dayCount := by
  have hday := he.day_pos
  unfold dayCount
  rcases h with hyear | ⟨hyear, hmonth | ⟨hmonth, hday⟩⟩
  · have hover := newYear_add_le hyear
    have hwithin := hd.ordinal_le
    omega
  · have hover := daysBeforeMonth_add_le d.year hd.month_pos hmonth
    have hwithin := hd.day_le
    rw [← hyear]
    omega
  · rw [← hyear, ← hmonth]
    omega

theorem before_or_eq_or_before (d e : Date) : d.Before e ∨ d = e ∨ e.Before d := by
  obtain ⟨year, month, day⟩ := d
  obtain ⟨year', month', day'⟩ := e
  simp only [Before, Date.mk.injEq]
  omega

/-- The count follows the order of dates. -/
theorem Exists.dayCount_lt_iff (hd : d.Exists) (he : e.Exists) :
    d.dayCount < e.dayCount ↔ d.Before e := by
  refine ⟨fun h => ?_, fun h => h.dayCount_lt hd he⟩
  rcases before_or_eq_or_before d e with hbefore | rfl | hbefore
  · exact hbefore
  · exact absurd h (Int.lt_irrefl _)
  · exact absurd (hbefore.dayCount_lt he hd) (Int.lt_asymm h)

/-- No two dates have the same count. -/
theorem Exists.dayCount_inj (hd : d.Exists) (he : e.Exists) : d.dayCount = e.dayCount ↔ d = e := by
  refine ⟨fun h => ?_, fun h => h ▸ rfl⟩
  rcases before_or_eq_or_before d e with hbefore | rfl | hbefore
  · exact absurd h (Int.ne_of_lt (hbefore.dayCount_lt hd he))
  · rfl
  · exact absurd h.symm (Int.ne_of_lt (hbefore.dayCount_lt he hd))

end Order

section Next

theorem daysInMonth_pos (year : Int) (month : Nat) : 1 ≤ daysInMonth year month := by
  unfold daysInMonth
  repeat' split
  all_goals decide

theorem Exists.next (h : d.Exists) : d.next.Exists := by
  obtain ⟨hmonth, hle, hday, hdayle⟩ := h
  unfold Date.next
  split
  · rename_i hlt
    exact ⟨hmonth, hle, Nat.le_add_left 1 _, hlt⟩
  · split
    · rename_i hlt
      exact ⟨Nat.le_add_left 1 _, hlt, Nat.le_refl 1, daysInMonth_pos _ _⟩
    · exact ⟨Nat.le_refl 1, Nat.le_add_left 1 11, Nat.le_refl 1, daysInMonth_pos _ _⟩

/-- The day after counts one more, also behind the end of a month or of a year. -/
theorem Exists.dayCount_next (h : d.Exists) : d.next.dayCount = d.dayCount + 1 := by
  obtain ⟨hmonth, hle, hday, hdayle⟩ := h
  unfold Date.next
  split
  · simp only [dayCount]
    omega
  · have hend : d.day = daysInMonth d.year d.month := by omega
    have hmonthEnd := daysBeforeMonth_succ d.year hmonth
    split
    · simp only [dayCount]
      omega
    · have hlast : d.month = 12 := by omega
      have hyearEnd := newYear_succ d.year
      rw [hlast] at hend hmonthEnd
      rw [daysBeforeMonth_thirteen] at hmonthEnd
      have hfirst : daysBeforeMonth (d.year + 1) 1 = 0 := rfl
      simp only [dayCount, hlast]
      omega

/-- A date that counts one more is the day after. -/
theorem Exists.dayCount_eq_add_one_iff (hd : d.Exists) (he : e.Exists) :
    e.dayCount = d.dayCount + 1 ↔ e = d.next := by
  rw [← hd.dayCount_next]
  exact he.dayCount_inj hd.next

end Next

end BoundSql.Calendar.Date
