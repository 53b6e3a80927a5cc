import BoundSql.Dialect.Preset
import BoundSql.Proofs.Calendar.Carry
import BoundSql.Proofs.Calendar.DayNumber
import BoundSql.Proofs.Calendar.Reader

/-!
# Written instants are read back

An instant is written by its date and its time of the day in universal time. Both patterns write the
same date and time; they differ in the character between them and in what follows the seconds. The
fields that are read count up to the seconds of the instant again, with a second of its nanoseconds
carried where that is no leap second.
-/

namespace BoundSql.Calendar

open Text

/-- A date with hyphens between the year, the month and the day. -/
def Date.text (d : Date) : String :=
  Part.yearText d.year ++ "-" ++ padded 2 d.month ++ "-" ++ padded 2 d.day

/-- A time of the day with colons between the hour, the minute and the second. -/
def clockText (hour minute second : Nat) : String :=
  padded 2 hour ++ ":" ++ padded 2 minute ++ ":" ++ padded 2 second

section Fields
variable (rest : List Char)

theorem sign_of_isDigit {c : Char} (h : c.isDigit) (cs : List Char) :
    sign (c :: cs) = (1, c :: cs) := by
  rw [sign]
  · intro _ hcons
    exact absurd ((List.cons.inj hcons).1 ▸ h) (by decide)
  · intro _ hcons
    exact absurd ((List.cons.inj hcons).1 ▸ h) (by decide)

theorem sign_paddedDigits_append (width n : Nat) :
    sign (paddedDigits width n ++ rest) = (1, paddedDigits width n ++ rest) := by
  have hdigit : ∀ c ∈ paddedDigits width n, c.isDigit := fun c => isDigit_of_mem_paddedDigits
  obtain ⟨c, cs, hcs⟩ := List.exists_cons_of_ne_nil (paddedDigits_ne_nil width n)
  rw [hcs] at hdigit ⊢
  exact sign_of_isDigit (hdigit c List.mem_cons_self) _

/-- A year is read back with its sign. -/
theorem year?_yearText_append {rest : List Char} (year : Int)
    (h : ∀ c ∈ rest.head?, ¬c.isDigit) :
    year? ((Part.yearText year).toList ++ rest) = some (year, rest) := by
  have hdigits := @digits?_paddedDigits_append 4 year.natAbs rest h
  rw [Part.yearText]
  split
  · rename_i hneg
    simp [year?, sign, hdigits, digitsToNat_paddedDigits, abs_of_neg hneg]
  · rename_i hnonneg
    have habs : |year| = year := abs_of_nonneg (Int.not_lt.mp hnonneg)
    split
    · simp [year?, sign_paddedDigits_append, hdigits, digitsToNat_paddedDigits, habs]
    · simp [year?, sign, hdigits, digitsToNat_paddedDigits, habs]

/-- A date is read back, in whatever year it is. -/
theorem date?_text_append {d : Date} (h : d.Exists) :
    date? (d.text.toList ++ rest) = some (d, rest) := by
  have hday : d.day < 10 ^ 2 :=
    Nat.lt_of_le_of_lt (Nat.le_trans h.day_le (Date.daysInMonth_le _ _)) (by decide)
  have hmonth : d.month < 10 ^ 2 := Nat.lt_of_le_of_lt h.month_le (by decide)
  have hreadDay := fixed?_paddedDigits_append Nat.two_pos hday rest
  have hreadMonth := fixed?_paddedDigits_append Nat.two_pos hmonth
    ('-' :: (paddedDigits 2 d.day ++ rest))
  have hreadYear := @year?_yearText_append
    ('-' :: (paddedDigits 2 d.month ++ '-' :: (paddedDigits 2 d.day ++ rest))) d.year (by simp)
  simp [date?, Date.text, hreadYear, oneOf?, hreadMonth, hreadDay]

theorem clock?_clockText_append {hour minute second : Nat} (hhour : hour < 10 ^ 2)
    (hminute : minute < 10 ^ 2) (hsecond : second < 10 ^ 2) :
    clock? ((clockText hour minute second).toList ++ rest) =
      some ((hour, minute, second), rest) := by
  have hreadSecond := fixed?_paddedDigits_append Nat.two_pos hsecond rest
  have hreadMinute := fixed?_paddedDigits_append Nat.two_pos hminute
    (':' :: (paddedDigits 2 second ++ rest))
  have hreadHour := fixed?_paddedDigits_append Nat.two_pos hhour
    (':' :: (paddedDigits 2 minute ++ ':' :: (paddedDigits 2 second ++ rest)))
  simp [clock?, clockText, hreadHour, oneOf?, hreadMinute, hreadSecond]

/-- A fraction that is written with up to nine digits is read as that many nanoseconds. -/
theorem fraction?_padded_append {rest : List Char} {width n : Nat} (hpos : 0 < width)
    (hwidth : width ≤ 9) (hn : n < 10 ^ width) (h : ∀ c ∈ rest.head?, ¬c.isDigit) :
    fraction? (("." ++ padded width n).toList ++ rest) = some (n * 10 ^ (9 - width), rest) := by
  have hlength := length_paddedDigits_of_lt hpos hn
  simp [fraction?, digits?_paddedDigits_append h, hlength, hwidth, digitsToNat_paddedDigits]

theorem fraction?_of_head? {rest : List Char} (h : rest.head? ≠ some '.') :
    fraction? rest = some (0, rest) := by
  rw [fraction?]
  rintro cs rfl
  exact h rfl

/-- A fraction of the fewest digits that are exact is read back. -/
theorem fraction?_fractionText_append {rest : List Char} {nanos : Nat} (hnanos : nanos < 10 ^ 9)
    (hpoint : rest.head? ≠ some '.') (h : ∀ c ∈ rest.head?, ¬c.isDigit) :
    fraction? ((Part.fractionText nanos).toList ++ rest) = some (nanos, rest) := by
  rw [Part.fractionText]
  split
  · rename_i hzero
    rw [hzero]
    exact fraction?_of_head? hpoint
  · split
    · rw [fraction?_padded_append (by decide) (by decide) (by omega) h]
      simp only [Option.some.injEq, Prod.mk.injEq, and_true]
      omega
    · split
      · rw [fraction?_padded_append (by decide) (by decide) (by omega) h]
        simp only [Option.some.injEq, Prod.mk.injEq, and_true]
        omega
      · rw [fraction?_padded_append (by decide) (by decide) (by omega) h]
        simp

end Fields

namespace Timestamp

variable (t : Timestamp)

/-- An instant is on a date of the supported years. -/
theorem date_valid : t.date.Valid := by
  have hge := t.seconds_ge
  have hlt := t.seconds_lt
  unfold secondsPerDay at hge hlt
  apply Date.valid_ofDayNumber <;> unfold secondsPerDay <;> omega

theorem secondOfDay_lt : t.secondOfDay < 86400 := by
  unfold secondOfDay secondsPerDay
  omega

theorem hour_lt : t.hour < 24 := by
  have hlt := t.secondOfDay_lt
  unfold hour
  omega

theorem minute_lt : t.minute < 60 :=
  Nat.mod_lt _ (by decide)

theorem second_le : t.second ≤ 60 := by
  have hlt := t.nanos_lt
  unfold second nanosPerSecond at *
  omega

/-- The fields of an instant in universal time, with a fraction in place of that of its second. -/
def fields (fraction : Nat) (ahead : Option Int) : Fields :=
  ⟨t.date, t.hour, t.minute, t.second, fraction, ahead⟩

/-- Whatever stands between the date and the time, and whatever the fraction and the distance to
universal time look like, the fields are read back. -/
theorem fields?_text {separator tail : String} {fraction : Nat} {ahead : Option Int}
    {rest : List Char} (hseparator : separator = "T" ∨ separator = " ")
    (hfraction : fraction? tail.toList = some (fraction, rest))
    (hahead : ahead? rest = some ahead) :
    fields? (t.date.text ++ separator ++ clockText t.hour t.minute t.second ++ tail) =
      some (t.fields fraction ahead) := by
  have hclock := clock?_clockText_append tail.toList
    (Nat.lt_trans t.hour_lt (by decide)) (Nat.lt_trans t.minute_lt (by decide))
    (Nat.lt_of_le_of_lt t.second_le (by decide))
  have hdate := date?_text_append (separator.toList ++
    ((clockText t.hour t.minute t.second).toList ++ tail.toList)) t.date_valid.exists
  have hseparated (cs : List Char) : oneOf? ['T', ' '] (separator.toList ++ cs) = some cs := by
    rcases hseparator with rfl | rfl <;> rfl
  simp [fields?, hdate, hseparated, hclock, hfraction, hahead, fields]

theorem format_iso : Pattern.iso.format t =
    t.date.text ++ "T" ++ clockText t.hour t.minute t.second ++
      (Part.fractionText t.fraction ++ "+00:00") := by
  rw [← String.toList_inj]
  simp [Pattern.format, Pattern.iso, Part.text, Date.text, clockText]

theorem format_spaced : Pattern.spaced.format t =
    t.date.text ++ " " ++ clockText t.hour t.minute t.second ++
      ("." ++ padded 6 (t.fraction / 1000)) := by
  rw [← String.toList_inj]
  simp [Pattern.format, Pattern.spaced, Part.text, Date.text, clockText]

theorem fraction_lt : t.fraction < nanosPerSecond :=
  Nat.mod_lt _ (by decide)

/-- The fields of an instant that is written with all its nanoseconds. -/
theorem fields?_format_iso :
    fields? (Pattern.iso.format t) = some (t.fields t.fraction (some 0)) := by
  have hfraction : fraction? (Part.fractionText t.fraction ++ "+00:00").toList =
      some (t.fraction, "+00:00".toList) := by
    rw [String.toList_append]
    exact fraction?_fractionText_append t.fraction_lt (by decide) (by simp)
  have hahead : ahead? "+00:00".toList = some (some 0) := rfl
  rw [format_iso, t.fields?_text (.inl rfl) hfraction hahead]

/-- The fields of an instant that is written with six digits of its fraction. -/
theorem fields?_format_spaced :
    fields? (Pattern.spaced.format t) = some (t.fields (t.fraction / 1000 * 1000) none) := by
  have hlt := t.fraction_lt
  unfold nanosPerSecond at hlt
  have hmicros : t.fraction / 1000 < 10 ^ 6 := by omega
  have hfraction := @fraction?_padded_append [] 6 _ (by decide) (by decide) hmicros (by simp)
  rw [List.append_nil] at hfraction
  rw [format_spaced]
  exact t.fields?_text (.inr rfl) hfraction rfl

section Settled
variable {t}

/-- Only the last second of a minute is followed by a leap second. -/
theorem Settled.secondOfDay_mod (h : t.Settled) (hle : nanosPerSecond ≤ t.nanos) :
    t.secondOfDay % 60 = 59 := by
  have hleap := h hle
  unfold secondOfDay secondsPerDay
  omega

theorem Settled.second_eq_sixty_iff (h : t.Settled) :
    t.second = 60 ↔ nanosPerSecond ≤ t.nanos := by
  have hlt := t.nanos_lt
  have hleap := h.secondOfDay_mod
  unfold second nanosPerSecond at *
  omega

/-- The days up to the date and the seconds of the day are the seconds of the instant. -/
theorem Settled.denotes_fields (h : t.Settled) {fraction : Nat} {ahead : Option Int}
    (hfraction : fraction < nanosPerSecond) (hahead : ahead.getD 0 = 0) :
    (t.fields fraction ahead).Denotes ahead t.seconds
      (t.nanos / nanosPerSecond * nanosPerSecond + fraction) := by
  have hdays : t.date.dayCount = t.seconds / secondsPerDay := Date.dayCount_ofDayNumber _
  have hsixty := h.second_eq_sixty_iff
  have hlt := t.nanos_lt
  have hleap := h.secondOfDay_mod
  have hsecond : min t.second 59 = t.secondOfDay % 60 := by
    unfold second nanosPerSecond at *
    omega
  have hclock : 3600 * t.hour + 60 * t.minute + t.secondOfDay % 60 = t.secondOfDay := by
    unfold hour minute
    omega
  have hday : (t.secondOfDay : Int) = t.seconds % secondsPerDay := by
    unfold secondOfDay secondsPerDay
    omega
  refine ⟨⟨t.date_valid, t.hour_lt, t.minute_lt, t.second_le⟩, rfl, ?_, Prod.ext ?_ ?_⟩
  · simp only [fields, hsixty]
    unfold nanosPerSecond at *
    omega
  · simp only [Fields.instant, fields, hdays, hahead]
    unfold secondsPerDay at *
    omega
  · simp only [Fields.instant, fields, hsixty]
    unfold nanosPerSecond at *
    split <;> omega

end Settled

/-- An instant is read back to the nanosecond, with what is to be carried carried. -/
theorem exists_fields?_iso :
    ∃ f, fields? (Pattern.iso.format t) = some f ∧
      f.Denotes (some 0) t.carried.seconds t.carried.nanos := by
  have hnanos : t.carried.nanos / nanosPerSecond * nanosPerSecond + t.carried.fraction =
      t.carried.nanos := Nat.div_add_mod' t.carried.nanos nanosPerSecond
  have hdenotes := t.settled_carried.denotes_fields t.carried.fraction_lt
    (rfl : (some 0).getD 0 = (0 : Int))
  rw [hnanos] at hdenotes
  exact ⟨_, format_carried .iso t ▸ t.carried.fields?_format_iso, hdenotes⟩

/-- An instant is read back to the microsecond, with what is to be carried carried. -/
theorem exists_fields?_spaced :
    ∃ f, fields? (Pattern.spaced.format t) = some f ∧
      f.Denotes none t.carried.seconds (t.carried.nanos / 1000 * 1000) := by
  have hnanos : t.carried.nanos / nanosPerSecond * nanosPerSecond +
      t.carried.fraction / 1000 * 1000 = t.carried.nanos / 1000 * 1000 := by
    unfold fraction nanosPerSecond
    omega
  have htruncated : t.carried.fraction / 1000 * 1000 < nanosPerSecond :=
    Nat.lt_of_le_of_lt (Nat.div_mul_le_self _ _) t.carried.fraction_lt
  have hdenotes := t.settled_carried.denotes_fields htruncated
    (rfl : none.getD 0 = (0 : Int))
  rw [hnanos] at hdenotes
  exact ⟨_, format_carried .spaced t ▸ t.carried.fields?_format_spaced, hdenotes⟩

section Midnight
variable {d : Date} (h : d.Valid)

/-- Midnight of a date is on that date. -/
theorem date_midnight : (midnight d h).date = d := by
  have hday : d.toDayNumber * secondsPerDay / secondsPerDay = d.toDayNumber := by
    unfold secondsPerDay
    omega
  rw [date, midnight, hday, Date.ofDayNumber_toDayNumber h.exists]

theorem secondOfDay_midnight : (midnight d h).secondOfDay = 0 := by
  rw [secondOfDay, midnight, Int.mul_emod_left]
  rfl

theorem seconds_midnight : (midnight d h).seconds = 86400 * d.dayCount := by
  rw [← Date.toDayNumber_eq_dayCount h.exists, Int.mul_comm]
  rfl

theorem clockText_midnight :
    clockText (midnight d h).hour (midnight d h).minute (midnight d h).second = "00:00:00" := by
  have hnanos : (midnight d h).nanos = 0 := rfl
  rw [hour, minute, second, secondOfDay_midnight, hnanos]
  decide

theorem fraction_midnight : (midnight d h).fraction = 0 := rfl

theorem format_iso_midnight :
    Pattern.iso.format (midnight d h) = d.text ++ "T00:00:00+00:00" := by
  rw [format_iso, date_midnight, clockText_midnight, fraction_midnight, String.append_assoc,
    String.append_assoc]
  rfl

theorem format_spaced_midnight :
    Pattern.spaced.format (midnight d h) = d.text ++ " 00:00:00.000000" := by
  rw [format_spaced, date_midnight, clockText_midnight, fraction_midnight, String.append_assoc,
    String.append_assoc]
  rfl

end Midnight

end Timestamp

end BoundSql.Calendar
