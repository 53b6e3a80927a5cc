import BoundSql.Proofs.Calendar.Written
import BoundSql.Proofs.Dialect.Literal
import BoundSql.Value.Conversion

/-!
# Literals of instants and of dates

The literal of an instant is its text in quotes, and the fields of that text give the instant back:
to the nanosecond where the dialect writes every fraction, to the microsecond where it writes six
digits. A date is bound as its first instant, so its literal is the date with the time of midnight.
-/

namespace BoundSql

open Calendar

namespace LiteralStyle

variable {style : LiteralStyle}

/-- Read the fields of an instant in a literal, behind which nothing stands. -/
def fields? (style : LiteralStyle) (literal : String) : Option Fields := do
  let (text, rest) ← style.quoting.readFront? literal
  if rest.isEmpty then Calendar.fields? text else none

theorem fields?_render_date (style : LiteralStyle) (t : Timestamp) :
    style.fields? (style.render (.date t)) = Calendar.fields? (style.datetime.format t) := by
  have hread := (style.quoting.readFront?_write_append_eq_some_iff (style.datetime.format t) "").mpr
    (by simp)
  rw [String.append_empty] at hread
  rw [fields?, render, quote, hread]
  rfl

/-- A literal that is read to the nanosecond belongs to the instants that are carried to one instant
only. -/
theorem render_date_eq_iff (h : style.datetime = .iso) (t u : Timestamp) :
    style.render (.date t) = style.render (.date u) ↔ t.carried = u.carried := by
  constructor
  · intro heq
    obtain ⟨f, hf, ht⟩ := t.exists_fields?_iso
    obtain ⟨g, hg, hu⟩ := u.exists_fields?_iso
    have hread := congrArg style.fields? heq
    rw [fields?_render_date, fields?_render_date, h, hf, hg] at hread
    obtain rfl := Option.some.inj hread
    obtain ⟨hseconds, hnanos⟩ := Prod.mk.inj (ht.instant_eq.symm.trans hu.instant_eq)
    exact Timestamp.ext hseconds hnanos
  · intro heq
    rw [render, render, ← Timestamp.format_carried style.datetime t, heq,
      Timestamp.format_carried style.datetime u]

theorem isNumeral_of_mem_padded {width n : Nat} {c : Char}
    (h : c ∈ (Text.padded width n).toList) : Decimal.isNumeral c := by
  rw [Text.toList_padded] at h
  exact Decimal.isNumeral_of_isDigit (Text.isDigit_of_mem_paddedDigits h)

theorem isNumeral_of_mem_yearText {year : Int} {c : Char}
    (h : c ∈ (Part.yearText year).toList) : Decimal.isNumeral c := by
  rw [Part.yearText] at h
  split at h
  · rw [String.toList_append] at h
    rcases List.mem_cons.mp h with rfl | h
    · rfl
    · exact isNumeral_of_mem_padded h
  · split at h
    · exact isNumeral_of_mem_padded h
    · rw [String.toList_append] at h
      rcases List.mem_cons.mp h with rfl | h
      · rfl
      · exact isNumeral_of_mem_padded h

/-- A date has no other characters than numbers have. -/
theorem isNumeral_of_mem_text {d : Date} {c : Char} (h : c ∈ d.text.toList) :
    Decimal.isNumeral c := by
  simp only [Date.text, String.toList_append, List.mem_append] at h
  rcases h with (((h | h) | h) | h) | h
  · exact isNumeral_of_mem_yearText h
  · obtain rfl := List.mem_singleton.mp h
    rfl
  · exact isNumeral_of_mem_padded h
  · obtain rfl := List.mem_singleton.mp h
    rfl
  · exact isNumeral_of_mem_padded h

/-- A date in front of text without quotes and escapes stands in quotes as it is. -/
theorem quote_date_append (style : LiteralStyle) (d : Date) {text : String}
    (h : ∀ c ∈ text.toList, c ≠ '\'' ∧ c ≠ '\\') :
    style.quote (d.text ++ text) = "'" ++ d.text ++ text ++ "'" := by
  have hall : ∀ c ∈ (d.text ++ text).toList,
      c ≠ '\'' ∧ (c = '\\' → style.backslashEscapes = false) := by
    intro c hc
    rw [String.toList_append] at hc
    rcases List.mem_append.mp hc with hc | hc
    · have hnumeral := isNumeral_of_mem_text hc
      refine ⟨?_, ?_⟩
      · rintro rfl
        exact absurd hnumeral (by decide)
      · rintro rfl
        exact absurd hnumeral (by decide)
    · exact ⟨(h c hc).1, fun hescape => absurd hescape (h c hc).2⟩
  rw [← String.toList_inj, style.toList_quote hall]
  simp

end LiteralStyle

-- A leap second in the first year that there is: only some dialects keep all nanoseconds.
example : (Timestamp.ofUnix? (Date.firstDay * secondsPerDay + 59) 1000000007).map (fun t =>
      (Dialect.sqlite.literals.render (.date t), Dialect.mysql.literals.render (.date t))) =
    some ("'-262143-01-01T00:00:60.000000007+00:00'", "'-262143-01-01 00:00:60.000000'") := by
  decide +kernel

/-- A date is bound as its first instant: whole days from the start of 1970, in the order of the
calendar, each a day's seconds behind the day before. Its literal has the date with its year, month
and day as they are. -/
theorem Dialect.date_literals_are_midnight (d e : { d : Date // d.Valid }) :
    let t := Timestamp.midnight d.1 d.2
    let u := Timestamp.midnight e.1 e.2
    toValue d = .date t ∧ t.seconds % 86400 = 0 ∧ t.nanos = 0 ∧
    t.seconds = 86400 * d.1.dayCount ∧
    (t.seconds < u.seconds ↔ d.1.Before e.1) ∧
    (u.seconds = t.seconds + 86400 ↔ e.1 = d.1.next) ∧
    (d.1.next.Valid ↔ d.1 ≠ ⟨Date.lastYear, 12, 31⟩) ∧
    postgres.literals.render (toValue d) = "'" ++ d.1.text ++ "T00:00:00+00:00" ++ "'" ∧
    sqlite.literals.render (toValue d) = "'" ++ d.1.text ++ "T00:00:00+00:00" ++ "'" ∧
    mysql.literals.render (toValue d) = "'" ++ d.1.text ++ " 00:00:00.000000" ++ "'" := by
  intro t u
  have ht : t.seconds = 86400 * d.1.dayCount := Timestamp.seconds_midnight d.2
  have hu : u.seconds = 86400 * e.1.dayCount := Timestamp.seconds_midnight e.2
  have hiso (style : LiteralStyle) (h : style.datetime = .iso) :
      style.render (toValue d) = "'" ++ d.1.text ++ "T00:00:00+00:00" ++ "'" := by
    rw [← style.quote_date_append d.1 (by simp), ← Timestamp.format_iso_midnight d.2, ← h]
    rfl
  refine ⟨rfl, ?_, rfl, ht, ?_, ?_, d.2.next_valid_iff, hiso _ rfl, hiso _ rfl, ?_⟩
  · omega
  · rw [← d.2.exists.dayCount_lt_iff e.2.exists]
    omega
  · rw [← d.2.exists.dayCount_eq_add_one_iff e.2.exists]
    omega
  · rw [← LiteralStyle.quote_date_append _ d.1 (by simp), ← Timestamp.format_spaced_midnight d.2]
    rfl

/-- The last day in front of year zero, and the first of that year. -/
theorem Dialect.date_literals_around_year_zero :
    let d : { d : Date // d.Valid } := ⟨⟨-1, 12, 31⟩, by decide⟩
    let e : { d : Date // d.Valid } := ⟨⟨0, 1, 1⟩, by decide⟩
    (Timestamp.midnight e.1 e.2).seconds = (Timestamp.midnight d.1 d.2).seconds + 86400 ∧
    postgres.literals.render (toValue d) = "'-0001-12-31T00:00:00+00:00'" ∧
    mysql.literals.render (toValue e) = "'0000-01-01 00:00:00.000000'" := by
  intro d e
  obtain ⟨-, -, -, -, -, hnext, -, hpostgres, -, -⟩ := date_literals_are_midnight d e
  obtain ⟨-, -, -, -, -, -, -, -, -, hmysql⟩ := date_literals_are_midnight e d
  exact ⟨hnext.mpr rfl, hpostgres.trans (by decide +kernel), hmysql.trans (by decide +kernel)⟩

end BoundSql
