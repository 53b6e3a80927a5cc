import BoundSql.Dialect.Backend
import BoundSql.Proofs.Text.Hex
import BoundSql.Schema.Statement

/-!
# Literals of bytes

A literal of bytes has two digits for each byte between a fixed text in front and one behind, which
begins with the closing quote. A default of a column of bytes is such a literal, for some databases
in parentheses.
-/

namespace BoundSql

open Text.Hex (Lossless lossless_encode)

/-- What stands in front of the digits of a literal of bytes. -/
def BytesLiteral.opening : BytesLiteral → String
  | .hex => "X'"
  | .bytea => "'\\x"

/-- What stands behind the digits of a literal of bytes. -/
def BytesLiteral.closing : BytesLiteral → String
  | .hex => "'"
  | .bytea => "'::bytea"

theorem BytesLiteral.head?_closing (form : BytesLiteral) :
    form.closing.toList.head? = some '\'' := by
  cases form <;> rfl

namespace LiteralStyle

variable (style : LiteralStyle)

theorem render_bytes (bytes : List UInt8) :
    style.render (.bytes bytes) =
      style.bytes.opening ++ String.ofList (Text.Hex.encode .upper bytes) ++
        style.bytes.closing := by
  rw [render, blob]
  cases style.bytes <;> rfl

/-- Literals of bytes are lossless, whatever fixed texts stand around them. -/
theorem lossless_around (front behind : String) :
    Lossless (front ++ style.bytes.opening) (style.bytes.closing ++ behind)
      fun bytes => front ++ style.render (.bytes bytes) ++ behind := by
  have hhead : (style.bytes.closing ++ behind).toList.head? = some '\'' := by
    rw [String.toList_append, List.head?_append, style.bytes.head?_closing, Option.some_or]
  have hwrite (bytes : List UInt8) : front ++ style.render (.bytes bytes) ++ behind =
      front ++ style.bytes.opening ++ String.ofList (Text.Hex.encode .upper bytes) ++
        (style.bytes.closing ++ behind) := by
    simp only [render_bytes, String.append_assoc]
  simp only [hwrite]
  exact lossless_encode hhead

end LiteralStyle

/-- A default of a column of bytes is a literal, in one pair of parentheses for MySQL. -/
theorem Backend.constraintText_default_bytes (b : Backend) (bytes : List UInt8) :
    b.dialect.constraintText .bytes (.default (.value (.bytes bytes))) =
      " DEFAULT " ++ (if b = .mysql then "(" else "") ++
        b.dialect.literals.render (.bytes bytes) ++ if b = .mysql then ")" else "" := by
  have hwraps : b.dialect.wrapsDefault .bytes (.bytes bytes) = decide (b = .mysql) := by
    cases b <;> rfl
  simp only [Dialect.constraintText, Dialect.defaultText, hwraps, decide_eq_true_eq]
  split <;> simp only [String.append_assoc, String.append_empty]

/-- Whatever the style and the form, bytes are written as a literal without loss. The same holds of
the default of a column of bytes, which for MySQL stands in one pair of parentheses. -/
theorem Backend.binary_literals_are_lossless :
    (∀ style : LiteralStyle, Lossless style.bytes.opening style.bytes.closing fun bytes =>
      style.render (.bytes bytes)) ∧
    ∀ b : Backend, Lossless
      (" DEFAULT " ++ (if b = .mysql then "(" else "") ++ b.dialect.literals.bytes.opening)
      (b.dialect.literals.bytes.closing ++ if b = .mysql then ")" else "")
      fun bytes => b.dialect.constraintText .bytes (.default (.value (.bytes bytes))) := by
  refine ⟨fun style => ?_, fun b => ?_⟩
  · have hliteral := style.lossless_around "" ""
    simpa only [String.empty_append, String.append_empty] using hliteral
  · simp only [b.constraintText_default_bytes]
    exact b.dialect.literals.lossless_around _ _

end BoundSql
