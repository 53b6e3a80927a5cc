import BoundSql.Decimal.Layout
import BoundSql.Dialect.Basic
import BoundSql.Json.Printer

/-!
# Literals

The spelling of a value inside a statement. Everything that is not a number, a truth value or null
stands in single quotes.
-/

namespace BoundSql.LiteralStyle

/-- Doubles: positional from `0.0001` up to sixteen digits before the point, no plus sign before an
exponent, a tie away from zero. -/
def doubleLayout : Decimal.Layout := ⟨-4, 16, false, .away⟩

example : doubleLayout.finite true ⟨0, -1074⟩ = "-0.0" := by decide +kernel

example : doubleLayout.finite false ⟨7378697629483821, -66⟩ = "0.0001" := by decide +kernel

example : doubleLayout.finite false ⟨9007199254740989, -2⟩ = "2251799813685247.3" := by
  decide +kernel

example : doubleLayout.finite false ⟨5000000000000000, 1⟩ = "1e16" := by decide +kernel

example : doubleLayout.finite true ⟨1, -1074⟩ = "-5e-324" := by decide +kernel

/-- How texts are quoted. -/
def quoting (style : LiteralStyle) : Text.Quoting :=
  ⟨'\'', style.backslashEscapes⟩

/-- A text in single quotes. -/
def quote (style : LiteralStyle) (text : String) : String :=
  style.quoting.write text

/-- A double that is not a number. -/
def nan (style : LiteralStyle) : String :=
  match style.nonFinite with
  | .cast => "'NaN'::float8"
  | .overflow => "NULL"
  | .null => "NULL"

/-- An infinite double. -/
def infinite (style : LiteralStyle) (negative : Bool) : String :=
  match style.nonFinite with
  | .cast => if negative then "'-Infinity'::float8" else "'Infinity'::float8"
  | .overflow => if negative then "-9e999" else "9e999"
  | .null => "NULL"

/-- A double. -/
def double (style : LiteralStyle) (x : Float) : String :=
  match Decimal.Reading.ofFloat x with
  | .nan => style.nan
  | .infinite negative => style.infinite negative
  | .finite negative magnitude => doubleLayout.finite negative magnitude

/-- A sequence of bytes, two digits each. -/
def blob (style : LiteralStyle) (bytes : List UInt8) : String :=
  let digits := String.ofList (Text.Hex.encode .upper bytes)
  match style.bytes with
  | .hex => "X'" ++ digits ++ "'"
  | .bytea => "'\\x" ++ digits ++ "'::bytea"

/-- The literal of a value. -/
def render (style : LiteralStyle) : Value → String
  | .null => "NULL"
  | .bool b => if b then "TRUE" else "FALSE"
  | .int n => toString n
  | .double x => style.double x
  | .string s => style.quote s
  | .date t => style.quote (style.datetime.format t)
  | .bytes bytes => style.blob bytes
  | .uuid id => style.quote id.toString
  | .json document => style.quote document.print

end BoundSql.LiteralStyle
