import BoundSql.Json.Numeral
import BoundSql.Text.Hex

/-!
# Reading JSON text

Every step takes characters from the front of the text and returns the rest. Arrays and objects
are read to a bounded nesting depth; a deeper text is refused, as is every text that JSON does
not allow.
-/

namespace BoundSql.Json

/-- The four characters that may stand between the tokens of a text. -/
def isSpace (c : Char) : Bool :=
  c = ' ' || c = '\t' || c = '\n' || c = '\r'

/-- Drop the space in front of a text. -/
def skipSpace (cs : List Char) : List Char :=
  cs.dropWhile isSpace

/-- What a letter after a backslash stands for. -/
def unescape? : Char → Option Char
  | '"' => some '"'
  | '\\' => some '\\'
  | '/' => some '/'
  | 'b' => some '\x08'
  | 'f' => some '\x0c'
  | 'n' => some '\n'
  | 'r' => some '\r'
  | 't' => some '\t'
  | _ => none

/-- Whether a code unit is the first half of a surrogate pair. -/
def isHighSurrogate (n : Nat) : Bool :=
  0xD800 ≤ n && n < 0xDC00

/-- Whether a code unit is the second half of a surrogate pair. -/
def isLowSurrogate (n : Nat) : Bool :=
  0xDC00 ≤ n && n < 0xE000

/-- The character of a surrogate pair. -/
def joinSurrogates (high low : Nat) : Char :=
  Char.ofNat (0x10000 + (high - 0xD800) * 0x400 + (low - 0xDC00))

/-- Read a string after its opening quote. Half a surrogate pair and a bare control character are
refused. -/
def readString : List Char → Option (List Char × List Char)
  | [] => none
  | '"' :: rest => some ([], rest)
  | '\\' :: 'u' :: a :: b :: c :: d :: rest =>
      match Text.Hex.toNat? [a, b, c, d] with
      | none => none
      | some unit =>
          if isHighSurrogate unit then
            match rest with
            | '\\' :: 'u' :: e :: f :: g :: h :: rest =>
                match Text.Hex.toNat? [e, f, g, h] with
                | none => none
                | some low =>
                    if isLowSurrogate low then
                      (readString rest).map fun r => (joinSurrogates unit low :: r.1, r.2)
                    else none
            | _ => none
          else if isLowSurrogate unit then none
          else (readString rest).map fun r => (Char.ofNat unit :: r.1, r.2)
  | '\\' :: c :: rest =>
      match unescape? c with
      | none => none
      | some c => (readString rest).map fun r => (c :: r.1, r.2)
  | c :: rest =>
      if c < ' ' ∨ c = '\\' then none
      else (readString rest).map fun r => (c :: r.1, r.2)

/-- Read the digits in front of a text, at least one. -/
def readDigits (cs : List Char) : Option (List Char × List Char) :=
  match cs.takeWhile Char.isDigit with
  | [] => none
  | digits => some (digits, cs.dropWhile Char.isDigit)

/-- Read the fraction of a numeral, if there is one. -/
def readFraction : List Char → Option (Option (List Char) × List Char)
  | '.' :: rest => (readDigits rest).map fun r => (some r.1, r.2)
  | cs => some (none, cs)

/-- Read the digits of an exponent after its sign. -/
def readSignedExponent : List Char → Option (Int × List Char)
  | '-' :: rest => (readDigits rest).map fun r => (-(digitsValue r.1 : Int), r.2)
  | '+' :: rest => (readDigits rest).map fun r => ((digitsValue r.1 : Int), r.2)
  | cs => (readDigits cs).map fun r => ((digitsValue r.1 : Int), r.2)

/-- Read the exponent of a numeral, if there is one. -/
def readExponent : List Char → Option (Option Int × List Char)
  | c :: rest =>
      if c = 'e' ∨ c = 'E' then (readSignedExponent rest).map fun r => (some r.1, r.2)
      else some (none, c :: rest)
  | [] => some (none, [])

/-- Read a numeral after its sign. A zero in front of further digits is refused. -/
def readUnsigned (negative : Bool) (cs : List Char) : Option (Numeral × List Char) := do
  let (whole, rest) ← readDigits cs
  if whole.head? = some '0' ∧ whole.length ≠ 1 then none
  else
    let (fraction, rest) ← readFraction rest
    let (exponent, rest) ← readExponent rest
    return (⟨negative, whole, fraction, exponent⟩, rest)

/-- Read a numeral. -/
def readNumeral : List Char → Option (Numeral × List Char)
  | '-' :: rest => readUnsigned true rest
  | cs => readUnsigned false cs

/-- Read a document that holds no other. -/
def readScalar : List Char → Option (Document × List Char)
  | 'n' :: 'u' :: 'l' :: 'l' :: rest => some (.null, rest)
  | 't' :: 'r' :: 'u' :: 'e' :: rest => some (.bool true, rest)
  | 'f' :: 'a' :: 'l' :: 's' :: 'e' :: rest => some (.bool false, rest)
  | '"' :: rest => (readString rest).map fun r => (.string (String.ofList r.1), r.2)
  | cs => do
      let (numeral, rest) ← readNumeral cs
      return (← numeral.toDocument?, rest)

/-- Read items with commas between them up to a closing character. Each item is at least one
character long, so the length of the text bounds their number. -/
def readItems {α : Type} (item : List Char → Option (α × List Char)) (close : Char) :
    (fuel : Nat) → List Char → Option (List α × List Char)
  | 0, _ => none
  | fuel + 1, cs => do
      let (first, rest) ← item (skipSpace cs)
      match skipSpace rest with
      | ',' :: rest =>
          let (others, rest) ← readItems item close fuel rest
          return (first :: others, rest)
      | c :: rest => if c = close then some ([first], rest) else none
      | [] => none

/-- Read items up to a closing character, perhaps none. -/
def readList {α : Type} (item : List Char → Option (α × List Char)) (close : Char)
    (cs : List Char) : Option (List α × List Char) :=
  match skipSpace cs with
  | c :: rest =>
      if c = close then some ([], rest) else readItems item close cs.length (c :: rest)
  | [] => none

/-- Read a field of an object: a name, a colon and a document. -/
def readField (document : List Char → Option (Document × List Char)) :
    List Char → Option ((String × Document) × List Char)
  | '"' :: rest => do
      let (name, rest) ← readString rest
      match skipSpace rest with
      | ':' :: rest =>
          let (value, rest) ← document (skipSpace rest)
          return ((String.ofList name, value), rest)
      | _ => none
  | _ => none

/-- Read a document that nests at most `depth` arrays and objects. -/
def readDocument : (depth : Nat) → List Char → Option (Document × List Char)
  | 0, cs => readScalar cs
  | depth + 1, '[' :: rest =>
      (readList (readDocument depth) ']' rest).map fun r => (.array r.1, r.2)
  | depth + 1, '\x7b' :: rest =>
      (readList (readField (readDocument depth)) '\x7d' rest).map fun r =>
        (Document.ofFields r.1, r.2)
  | _ + 1, cs => readScalar cs

/-- How deep arrays and objects may nest. -/
def maxDepth : Nat := 127

/-- The document that a whole text stands for. -/
def Document.ofString? (text : String) : Option Document := do
  let (document, rest) ← readDocument maxDepth (skipSpace text.toList)
  if (skipSpace rest).isEmpty then some document else none

end BoundSql.Json
