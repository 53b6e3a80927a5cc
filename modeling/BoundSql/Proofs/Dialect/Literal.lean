import BoundSql.Dialect.Backend
import BoundSql.Proofs.Decimal.Numerals
import BoundSql.Proofs.Dialect.Lexemes
import BoundSql.Proofs.Fragment.Scan
import BoundSql.Proofs.Text.Hex

/-!
# Lexemes of literals

A literal is one quoted text with a mark in front or a cast behind, or it has no quotes at all.
-/

namespace BoundSql

namespace LiteralStyle

/-- What stands between the quotes of a literal, where it has quotes. -/
def content? (style : LiteralStyle) : Value → Option String
  | .string s => some s
  | .date t => some (style.datetime.format t)
  | .uuid id => some id.toString
  | .json document => some document.print
  | .bytes bytes =>
      let digits := String.ofList (Text.Hex.encode .upper bytes)
      match style.bytes with
      | .hex => some digits
      | .bytea => some ("\\x" ++ digits)
  | .double x =>
      match style.nonFinite, Decimal.Reading.ofFloat x with
      | .cast, .nan => some "NaN"
      | .cast, .infinite negative => some (if negative then "-Infinity" else "Infinity")
      | _, _ => none
  | _ => none

/-- What stands in front of the quotes of a literal. -/
def front (style : LiteralStyle) : Value → String
  | .bytes _ =>
      match style.bytes with
      | .hex => "X"
      | .bytea => ""
  | _ => ""

/-- What stands behind the quotes of a literal. -/
def behind (style : LiteralStyle) : Value → String
  | .bytes _ =>
      match style.bytes with
      | .hex => ""
      | .bytea => "::bytea"
  | .double _ => "::float8"
  | _ => ""

/-- The lexemes of the literal of a value. -/
def lexemes (style : LiteralStyle) (v : Value) : List Lexeme :=
  match style.content? v with
  | some text =>
      Lexeme.ofText (style.front v) ++ .content text :: Lexeme.ofText (style.behind v)
  | none => Lexeme.ofText (style.render v)

end LiteralStyle

/-- A dialect whose own words have no quote characters. Its identifiers do not have the quotes of
texts, and it does not spell bytes with a backslash where that is an escape. -/
structure Dialect.Lexical (d : Dialect) : Prop where
  isQuote_identifierQuote : Fragment.isQuote d.identifierQuote
  identifierQuote_ne : d.identifierQuote ≠ '\''
  isPlain_typeName : ∀ type, (∀ name, type ≠ .custom name) → Lexeme.isPlain (d.types.name type)
  isPlain_currentTimestamp : Lexeme.isPlain d.literals.currentTimestamp
  backslashEscapes_of_bytea : d.literals.bytes = .bytea → d.literals.backslashEscapes = false

theorem Backend.lexical (b : Backend) : b.dialect.Lexical where
  isQuote_identifierQuote := by cases b <;> decide
  identifierQuote_ne := by cases b <;> decide
  isPlain_typeName type h := by
    cases type with
    | custom name => exact absurd rfl (h name)
    | _ => cases b <;> decide
  isPlain_currentTimestamp := by cases b <;> decide
  backslashEscapes_of_bytea := by cases b <;> decide

namespace LiteralStyle

variable {style : LiteralStyle}

/-- Text without quote characters and escapes stands in quotes as it is. -/
theorem toList_quote (style : LiteralStyle) {text : String}
    (h : ∀ c ∈ text.toList, c ≠ '\'' ∧ (c = '\\' → style.backslashEscapes = false)) :
    (style.quote text).toList = '\'' :: (text.toList ++ ['\'']) := by
  have hencode : style.quoting.encode text.toList = text.toList := by
    apply Text.Quoting.encode_eq_self
    rintro c hc (hquote | ⟨hescape, hstyle⟩)
    · exact (h c hc).1 hquote
    · exact Bool.false_ne_true (((h c hc).2 hescape).symm.trans hstyle)
  rw [quote, Text.Quoting.toList_write, hencode]
  rfl

theorem written_lexemes_bytes {d : Dialect} (hd : d.Lexical) (bytes : List UInt8) :
    d.written (d.literals.lexemes (.bytes bytes)) = (d.literals.blob bytes).toList := by
  have hdigits : ∀ c ∈ (String.ofList (Text.Hex.encode .upper bytes)).toList,
      c ≠ '\'' ∧ c ≠ '\\' := by
    have hdigit : ∀ c ∈ Text.Hex.digits .upper, c ≠ '\'' ∧ c ≠ '\\' := by
      simp [Text.Hex.digits]
    rw [String.toList_ofList]
    exact fun c hc => hdigit c (Text.Hex.mem_digits_of_mem_encode hc)
  simp only [lexemes, content?, front, behind, blob]
  generalize String.ofList (Text.Hex.encode .upper bytes) = digits at hdigits
  cases hbytes : d.literals.bytes with
  | hex =>
      have hquote := d.literals.toList_quote fun c hc =>
        ⟨(hdigits c hc).1, fun h => absurd h (hdigits c hc).2⟩
      simp [hquote]
  | bytea =>
      have hescape := hd.backslashEscapes_of_bytea hbytes
      have hne : ∀ c ∈ ("\\x" ++ digits).toList, c ≠ '\'' := by
        intro c hc
        rw [String.toList_append] at hc
        rcases List.mem_append.mp hc with hc | hc
        · have hfront : ∀ c ∈ "\\x".toList, c ≠ '\'' := by simp
          exact hfront c hc
        · exact (hdigits c hc).1
      have hquote := d.literals.toList_quote fun c hc => ⟨hne c hc, fun _ => hescape⟩
      simp [hquote]

theorem written_lexemes_double {d : Dialect} (x : Float) :
    d.written (d.literals.lexemes (.double x)) = (d.literals.double x).toList := by
  cases hstyle : d.literals.nonFinite with
  | cast =>
      cases hreading : Decimal.Reading.ofFloat x with
      | nan =>
          have hquote : (d.literals.quote "NaN").toList = "'NaN'".toList := toList_quote _ (by simp)
          simp [lexemes, content?, front, behind, double, nan, hstyle, hreading, hquote]
      | infinite negative =>
          have hquote : (d.literals.quote "Infinity").toList = "'Infinity'".toList :=
            toList_quote _ (by simp)
          have hminus : (d.literals.quote "-Infinity").toList = "'-Infinity'".toList :=
            toList_quote _ (by simp)
          cases negative <;>
            simp [lexemes, content?, front, behind, double, infinite, hstyle, hreading, hquote,
              hminus]
      | finite negative magnitude =>
          simp [lexemes, content?, render, hstyle, hreading]
  | overflow => simp [lexemes, content?, render, hstyle]
  | null => simp [lexemes, content?, render, hstyle]

/-- The lexemes of a literal are written as the literal. -/
theorem written_lexemes {d : Dialect} (hd : d.Lexical) (v : Value) :
    d.written (d.literals.lexemes v) = (d.literals.render v).toList := by
  cases v with
  | null => exact d.written_ofText _
  | bool b => exact d.written_ofText _
  | int n => exact d.written_ofText _
  | double x => exact written_lexemes_double x
  | bytes bytes => exact written_lexemes_bytes hd bytes
  | _ => simp [lexemes, content?, front, behind, render]

theorem isPlain_of_isNumeral {text : String} (h : ∀ c ∈ text.toList, Decimal.isNumeral c) :
    Lexeme.isPlain text := by
  rw [Lexeme.isPlain, List.all_eq_true]
  intro c hc
  have hnumeral := h c hc
  simp only [Decimal.isNumeral, Bool.or_eq_true, decide_eq_true_eq] at hnumeral
  rcases hnumeral with (((hdigit | rfl) | rfl) | rfl) | rfl
  · rw [Placeholder.isQuote_of_isDigit hdigit]
    rfl
  all_goals rfl

theorem isPlain_double {x : Float} (h : style.content? (.double x) = none) :
    Lexeme.isPlain (style.double x) := by
  have hnull : Lexeme.isPlain "NULL" := by decide
  have hoverflow : Lexeme.isPlain "9e999" ∧ Lexeme.isPlain "-9e999" := by decide
  rw [double]
  cases hreading : Decimal.Reading.ofFloat x with
  | nan =>
      cases hstyle : style.nonFinite with
      | cast => simp [content?, hstyle, hreading] at h
      | _ => simpa [nan, hstyle] using hnull
  | infinite negative =>
      cases hstyle : style.nonFinite with
      | cast => simp [content?, hstyle, hreading] at h
      | overflow => cases negative <;> simp [infinite, hstyle, hoverflow]
      | null => simpa [infinite, hstyle] using hnull
  | finite negative magnitude =>
      exact isPlain_of_isNumeral fun c hc => Decimal.Layout.isNumeral_of_mem_finite hc

/-- A literal without quotes has no quote characters. -/
theorem isPlain_render {v : Value} (h : style.content? v = none) :
    Lexeme.isPlain (style.render v) := by
  cases v with
  | null => exact (by decide : Lexeme.isPlain "NULL")
  | bool b => exact (by cases b <;> decide : Lexeme.isPlain (if b then "TRUE" else "FALSE"))
  | int n => exact isPlain_of_isNumeral fun c hc => Decimal.isNumeral_of_mem_int hc
  | double x => exact isPlain_double h
  | bytes bytes => cases hbytes : style.bytes <;> simp [content?, hbytes] at h
  | _ => simp [content?] at h

theorem isPlain_front (v : Value) : Lexeme.isPlain (style.front v) := by
  unfold front
  split
  · split <;> decide
  · decide

theorem isPlain_behind (v : Value) : Lexeme.isPlain (style.behind v) := by
  unfold behind
  split
  · split <;> decide
  · decide
  · decide

/-- A literal may stand behind any text outside quotes. -/
theorem separated_lexemes (v : Value) : Lexeme.separated false (style.lexemes v) := by
  cases hcontent : style.content? v with
  | none =>
      rw [lexemes, hcontent]
      exact Lexeme.separated_ofText (isPlain_render hcontent)
  | some text =>
      rw [lexemes, hcontent]
      apply Lexeme.separated_ofText_append (isPlain_front v)
      rw [Lexeme.separated_content_cons]
      exact Lexeme.separated_ofText (isPlain_behind v)

/-- What stands in the quotes of a literal is its only lexeme in quotes. -/
theorem tokens_lexemes (v : Value) :
    Lexeme.tokens (style.lexemes v) = (style.content? v).toList.map .content := by
  rw [lexemes]
  split <;> rename_i h <;> simp [h]

end LiteralStyle

end BoundSql
