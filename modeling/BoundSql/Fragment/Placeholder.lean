import BoundSql.Fragment.Basic

/-!
# Placeholders

A finished statement has the placeholders of its dialect where a fragment has its markers. The
markers cut the text of a fragment into pieces; a placeholder goes between two of them.
-/

namespace BoundSql

/-- How bound values are written in a finished statement. -/
inductive Placeholder
  | question
  | numbered
  deriving DecidableEq

/-- The placeholder of the value with an index, counted from one. -/
def Placeholder.text (style : Placeholder) (index : Nat) : String :=
  match style with
  | .question => "?"
  | .numbered => "$" ++ toString index

namespace Fragment

/-- Put a character in front of the first piece. -/
def extendFirst (c : Char) : List (List Char) → List (List Char)
  | [] => [[c]]
  | piece :: rest => (c :: piece) :: rest

/-- Cut text that begins at a byte offset at the markers in it, and leave out the character at
each marker. -/
def cut : Nat → List Nat → List Char → List (List Char)
  | _, [], cs => [cs]
  | _, _ :: markers, [] => [] :: markers.map fun _ => []
  | offset, marker :: markers, c :: cs =>
      if offset = marker then [] :: cut (offset + c.utf8Size) markers cs
      else extendFirst c (cut (offset + c.utf8Size) (marker :: markers) cs)

/-- The pieces of text in front of, between and after the markers. -/
def pieces (f : Fragment) : List (List Char) :=
  cut 0 f.markers f.text.toList

/-- Pieces one after the other, with the text of an index between two of them. -/
def weave (mark : Nat → String) : Nat → List (List Char) → List Char
  | _, [] => []
  | _, [piece] => piece
  | index, piece :: rest => piece ++ (mark index).toList ++ weave mark (index + 1) rest

/-- The text with a text for each marker, by the marker's index from one. -/
def fill (f : Fragment) (mark : Nat → String) : String :=
  String.ofList (weave mark 1 f.pieces)

/-- The fragment with the placeholders of a style for its markers. It has no markers any more. -/
def render (style : Placeholder) (f : Fragment) : Fragment :=
  ⟨f.fill style.text, f.values, []⟩

@[simp] theorem values_render (style : Placeholder) (f : Fragment) :
    (f.render style).values = f.values := rfl

@[simp] theorem markers_render (style : Placeholder) (f : Fragment) :
    (f.render style).markers = [] := rfl

/-- Text without markers is one piece. -/
theorem pieces_of_markers_eq_nil {f : Fragment} (h : f.markers = []) :
    f.pieces = [f.text.toList] := by
  simp [pieces, h, cut]

/-- A fragment without markers is finished. -/
theorem render_of_markers_eq_nil {f : Fragment} (style : Placeholder) (h : f.markers = []) :
    f.render style = f := by
  cases f
  simp_all [render, fill, pieces, cut, weave]

end Fragment

end BoundSql
