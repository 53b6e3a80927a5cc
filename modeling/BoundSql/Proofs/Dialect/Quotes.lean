import BoundSql.Dialect.Literal
import BoundSql.Dialect.Preset
import BoundSql.Proofs.Text.Quoted

/-!
# Quotes in front of other text

A text literal and a quoted identifier end where the reader of quoted text stops, whatever stands
between the quotes. Only a further quote character directly behind them leads the reader on.
-/

namespace BoundSql

/-- The literal of a text is read back in front of other text exactly where no single quote follows
it. A backslash makes the next character text where the style says so, and is text itself
elsewhere. -/
theorem LiteralStyle.text_literal_read_back (style : LiteralStyle) (text rest : String) :
    Text.Quoting.readFront? ⟨'\'', style.backslashEscapes⟩ (style.render (.string text) ++ rest) =
      some (text, rest) ↔ rest.toList.head? ≠ some '\'' := by
  have hrender : style.render (.string text) =
      Text.Quoting.write ⟨'\'', style.backslashEscapes⟩ text := rfl
  rw [hrender]
  exact Text.Quoting.readFront?_write_append_eq_some_iff _ text rest

-- A quote behind a backslash, and a backslash that stands last.
example :
    Text.Quoting.readFront? ⟨'\'', true⟩ "'\\\\'' \\\\', x" = some ("\\' \\", ", x") ∧
    Text.Quoting.readFront? ⟨'\'', false⟩ "'\\'' \\', x" = some ("\\' \\", ", x") := by
  decide +kernel

/-- A quoted identifier is read back in front of other text exactly where no quote character
follows it. Two names therefore differ in quotes, and where one in quotes begins like another one
in quotes, it goes on with a quote character. -/
theorem Dialect.quoted_identifier_read_back (d : Dialect) (name : String) :
    (∀ rest : String, Text.Quoting.readFront? ⟨d.identifierQuote, false⟩
      (d.quoteIdentifier name ++ rest) = some (name, rest) ↔
        rest.toList.head? ≠ some d.identifierQuote) ∧
    (∀ other : String, d.quoteIdentifier other = d.quoteIdentifier name → other = name) ∧
    ∀ other rest : String, d.quoteIdentifier other = d.quoteIdentifier name ++ rest →
      rest ≠ "" → rest.toList.head? = some d.identifierQuote := by
  have hquote : d.quoteIdentifier = Text.Quoting.write ⟨d.identifierQuote, false⟩ := rfl
  rw [hquote]
  refine ⟨fun rest => ?_, fun other heq => ?_, fun other rest heq hne => ?_⟩
  · exact Text.Quoting.readFront?_write_append_eq_some_iff _ name rest
  · exact Text.Quoting.write_injective heq
  · exact Text.Quoting.head?_of_write_eq_write_append heq hne

/-- A name that ends with the quote character, and one that consists of it and begins in quotes
like the empty name. -/
theorem Dialect.quoted_identifier_read_before_bracket :
    let d : Dialect := { Dialect.postgres with identifierQuote := 'é' }
    d.quoteIdentifier "aé" ++ " (" = "éaééé (" ∧
    Text.Quoting.readFront? ⟨'é', false⟩ (d.quoteIdentifier "aé" ++ " (") = some ("aé", " (") ∧
    d.quoteIdentifier "é" = d.quoteIdentifier "" ++ "éé" ∧
    "éé".toList.head? = some 'é' := by
  intro d
  have hlonger : d.quoteIdentifier "é" = d.quoteIdentifier "" ++ "éé" := by decide +kernel
  obtain ⟨hread, -, -⟩ := d.quoted_identifier_read_back "aé"
  obtain ⟨-, -, hlonger_front⟩ := d.quoted_identifier_read_back ""
  exact ⟨by decide +kernel, (hread " (").mpr (by decide), hlonger,
    hlonger_front "é" "éé" hlonger (by decide)⟩

end BoundSql
