import BoundSql.Json.Document
import BoundSql.Decimal.Layout
import BoundSql.Text.Hex

/-!
# Compact text of JSON documents

A document is printed without white space. A string escapes the quote, the backslash and the
characters below the space, and nothing else.
-/

namespace BoundSql.Json

/-- Floating point numbers: positional from `0.00001` up to sixteen digits before the point, an
exponent always with its sign, ties to the even digit. -/
def numberLayout : Decimal.Layout := ⟨-5, 16, true, .even⟩

example : numberLayout.finite true ⟨0, -1074⟩ = "-0.0" := by decide +kernel

example : numberLayout.finite false ⟨5902958103587057, -69⟩ = "0.00001" := by decide +kernel

example : numberLayout.finite false ⟨9007199254740989, -2⟩ = "2251799813685247.2" := by
  decide +kernel

example : numberLayout.finite false ⟨5000000000000000, 1⟩ = "1e+16" := by decide +kernel

/-- A character as it stands in a printed string. -/
def escapeChar (c : Char) : List Char :=
  if c = '"' then ['\\', '"']
  else if c = '\\' then ['\\', '\\']
  else if c = '\x08' then ['\\', 'b']
  else if c = '\t' then ['\\', 't']
  else if c = '\n' then ['\\', 'n']
  else if c = '\x0c' then ['\\', 'f']
  else if c = '\r' then ['\\', 'r']
  else if c < ' ' then '\\' :: 'u' :: Text.Hex.ofNat .lower 4 c.toNat
  else [c]

/-- A string in quotes. -/
def printString (s : String) : String :=
  String.ofList ('"' :: (s.toList.flatMap escapeChar ++ ['"']))

/-- A floating point number; one that is not finite has no number to print. -/
def printReal (x : Float) : String :=
  match Decimal.Reading.ofFloat x with
  | .finite negative magnitude => numberLayout.finite negative magnitude
  | _ => "null"

namespace Document

mutual

/-- The compact text of a document. -/
def print : Document → String
  | .null => "null"
  | .bool b => if b then "true" else "false"
  | .integer n => toString n
  | .real x => printReal x
  | .string s => printString s
  | .array items => "[" ++ String.intercalate "," (printItems items) ++ "]"
  | .object fields => "\x7b" ++ String.intercalate "," (printFields fields) ++ "\x7d"

/-- The texts of the items of an array. -/
def printItems : List Document → List String
  | [] => []
  | item :: rest => item.print :: printItems rest

/-- The texts of the fields of an object. -/
def printFields : List (String × Document) → List String
  | [] => []
  | (name, value) :: rest => (printString name ++ ":" ++ value.print) :: printFields rest

end

end Document

end BoundSql.Json
