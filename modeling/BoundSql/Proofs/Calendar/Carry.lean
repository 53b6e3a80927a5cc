import BoundSql.Calendar.Pattern

/-!
# Seconds that are carried

A second may have a thousand million nanoseconds more. At the end of a minute they are a leap
second, which has a number of its own. In any other second they are written like those of the next
second, so an instant and the one that it is carried to are the same in every pattern.
-/

namespace BoundSql.Calendar.Timestamp

variable (t : Timestamp)

/-- An instant is settled where it has fewer nanoseconds than a second, or those beyond are a leap
second. -/
def Settled : Prop :=
  nanosPerSecond ≤ t.nanos → t.seconds % 60 = 59

instance : Decidable t.Settled :=
  inferInstanceAs (Decidable (nanosPerSecond ≤ t.nanos → t.seconds % 60 = 59))

variable {t}

theorem not_settled_iff : ¬t.Settled ↔ nanosPerSecond ≤ t.nanos ∧ t.seconds % 60 ≠ 59 :=
  Classical.not_imp

theorem seconds_succ_lt (h : ¬t.Settled) :
    t.seconds + 1 < (Date.lastDay + 1) * secondsPerDay := by
  have hlt := t.seconds_lt
  have hcarry := (not_settled_iff.mp h).2
  unfold secondsPerDay at *
  omega

variable (t)

/-- The instant with a second of its nanoseconds carried into the next second, unless they are a
leap second. -/
def carried : Timestamp :=
  if h : t.Settled then t
  else
    { seconds := t.seconds + 1
      nanos := t.nanos - nanosPerSecond
      seconds_ge := Int.le_add_one t.seconds_ge
      seconds_lt := seconds_succ_lt h
      nanos_lt := Nat.lt_of_le_of_lt (Nat.sub_le _ _) t.nanos_lt }

variable {t}

theorem Settled.carried_eq (h : t.Settled) : t.carried = t :=
  dif_pos h

theorem seconds_carried (h : ¬t.Settled) : t.carried.seconds = t.seconds + 1 := by
  rw [carried, dif_neg h]

theorem nanos_carried (h : ¬t.Settled) : t.carried.nanos = t.nanos - nanosPerSecond := by
  rw [carried, dif_neg h]

/-- Nothing is left to carry. -/
theorem settled_carried (t : Timestamp) : t.carried.Settled := by
  by_cases h : t.Settled
  · rwa [h.carried_eq]
  · have hlt := t.nanos_lt
    intro hle
    rw [nanos_carried h] at hle
    omega

theorem carried_eq_self_iff : t.carried = t ↔ t.Settled :=
  ⟨fun h => h ▸ t.settled_carried, Settled.carried_eq⟩

theorem secondOfDay_carried (h : ¬t.Settled) : t.carried.secondOfDay = t.secondOfDay + 1 := by
  have hcarry := (not_settled_iff.mp h).2
  rw [secondOfDay, seconds_carried h, secondOfDay]
  unfold secondsPerDay
  omega

/-- A second that is carried does not end its minute. -/
theorem secondOfDay_mod_ne (h : ¬t.Settled) : t.secondOfDay % 60 ≠ 59 := by
  have hcarry := (not_settled_iff.mp h).2
  unfold secondOfDay secondsPerDay
  omega

/-- A carry changes no part of the written instant. -/
theorem text_carried (t : Timestamp) (part : Part) : part.text t.carried = part.text t := by
  by_cases h : t.Settled
  · rw [h.carried_eq]
  obtain ⟨hle, hcarry⟩ := not_settled_iff.mp h
  have hmod := secondOfDay_mod_ne h
  have hday := secondOfDay_carried h
  have hdate : t.carried.date = t.date := by
    have hsame : (t.seconds + 1) / secondsPerDay = t.seconds / secondsPerDay := by
      unfold secondsPerDay
      omega
    rw [date, seconds_carried h, hsame, date]
  have hhour : t.carried.hour = t.hour := by
    rw [hour, hday, hour]
    omega
  have hminute : t.carried.minute = t.minute := by
    rw [minute, hday, minute]
    omega
  have hsecond : t.carried.second = t.second := by
    rw [second, hday, nanos_carried h, second]
    unfold nanosPerSecond at *
    omega
  have hfraction : t.carried.fraction = t.fraction := by
    rw [fraction, nanos_carried h, fraction, ← Nat.mod_eq_sub_mod hle]
  cases part <;> simp only [Part.text, hdate, hhour, hminute, hsecond, hfraction]

theorem format_carried (p : Pattern) (t : Timestamp) : p.format t.carried = p.format t := by
  have htext : Part.text t.carried = Part.text t := funext t.text_carried
  rw [Pattern.format, htext, Pattern.format]

end BoundSql.Calendar.Timestamp
