import BoundSql.Fragment.Basic

/-!
# Text with written markers

In marked text a question mark outside quotes is a marker, and two in a row stand for one that is
text. A quoted run begins at a quote character and ends at the next one of the same kind, or with
the text; it is taken over as it stands.
-/

namespace BoundSql.Fragment

/-- The characters between which a run is quoted. -/
def isQuote (c : Char) : Bool :=
  c = '\'' || c = '"' || c = '\x60'

/-- Read marked text from a byte offset, inside the run of a quote character or outside. The
answer is the text and the offsets of the markers in it. -/
def scan : Option Char → Nat → List Char → List Char × List Nat
  | _, _, [] => ([], [])
  | some q, offset, c :: rest =>
      let (text, markers) := scan (if c = q then none else some q) (offset + c.utf8Size) rest
      (c :: text, markers)
  | none, offset, '?' :: '?' :: rest =>
      let (text, markers) := scan none (offset + '?'.utf8Size) rest
      ('?' :: text, markers)
  | none, offset, '?' :: rest =>
      let (text, markers) := scan none (offset + '?'.utf8Size) rest
      ('?' :: text, offset :: markers)
  | none, offset, c :: rest =>
      let (text, markers) :=
        scan (if isQuote c then some c else none) (offset + c.utf8Size) rest
      (c :: text, markers)

/-- The fragment of a marked text and the values for its markers. -/
def ofMarked (text : String) (values : List Value) : Fragment :=
  let (written, markers) := scan none 0 text.toList
  ⟨String.ofList written, values, markers⟩

@[simp] theorem values_ofMarked (text : String) (values : List Value) :
    (ofMarked text values).values = values := rfl

end BoundSql.Fragment
