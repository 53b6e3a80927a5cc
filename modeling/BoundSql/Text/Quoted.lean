/-!
# Quoted text

A text between two quote characters, in which the quote character is written twice. Where a
backslash is an escape character it is written twice as well.
-/

namespace BoundSql.Text

/-- How text is quoted: the quote character, and whether a backslash in it is an escape. -/
structure Quoting where
  quote : Char
  backslash : Bool
  deriving DecidableEq

namespace Quoting

/-- A character as it stands between the quotes. -/
def encodeChar (q : Quoting) (c : Char) : List Char :=
  if c = q.quote ∨ (c = '\\' ∧ q.backslash) then [c, c] else [c]

/-- The characters between the quotes. -/
def encode (q : Quoting) (cs : List Char) : List Char :=
  cs.flatMap q.encodeChar

/-- A text in quotes. -/
def write (q : Quoting) (text : String) : String :=
  String.ofList (q.quote :: (q.encode text.toList ++ [q.quote]))

@[simp] theorem encode_nil (q : Quoting) : q.encode [] = [] := rfl

@[simp] theorem encode_cons (q : Quoting) (c : Char) (cs : List Char) :
    q.encode (c :: cs) = q.encodeChar c ++ q.encode cs := by
  simp [encode]

theorem toList_write (q : Quoting) (text : String) :
    (q.write text).toList = q.quote :: (q.encode text.toList ++ [q.quote]) := by
  simp [write]

end Quoting

end BoundSql.Text
