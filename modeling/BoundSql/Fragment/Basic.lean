import BoundSql.Value.Basic

/-!
# Fragments

A fragment is a piece of statement text together with the values bound into it. A bound value
stands in the text as a question mark, its marker. The place of each marker is kept as a byte
offset, so a question mark that belongs to the text itself is never taken for a marker.
-/

namespace BoundSql

/-- Statement text, the values bound into it, and the byte offsets of their markers. -/
@[ext]
structure Fragment where
  text : String
  values : List Value
  markers : List Nat
  deriving BEq

namespace Fragment

/-- The character that stands for a bound value. -/
def marker : Char := '?'

/-- The fragment without text. -/
def empty : Fragment := ⟨"", [], []⟩

instance : EmptyCollection Fragment := ⟨empty⟩
instance : Inhabited Fragment := ⟨empty⟩

/-- Text without bound values. Its question marks are text. -/
def ofText (text : String) : Fragment := ⟨text, [], []⟩

/-- The marker of one value. -/
def ofValue (value : Value) : Fragment := ⟨String.singleton marker, [value], [0]⟩

/-- Whether there is no text. -/
def isEmpty (f : Fragment) : Bool :=
  f.text.isEmpty

/-- The number of markers. -/
def markerCount (f : Fragment) : Nat :=
  f.markers.length

/-- Add text at the end. Its question marks are text. -/
def addText (f : Fragment) (text : String) : Fragment :=
  { f with text := f.text ++ text }

/-- Add a character at the end. -/
def addChar (f : Fragment) (c : Char) : Fragment :=
  { f with text := f.text.push c }

/-- Add the marker of a value at the end. -/
def bind (f : Fragment) (value : Value) : Fragment where
  text := f.text.push marker
  values := f.values ++ [value]
  markers := f.markers ++ [f.text.utf8ByteSize]

/-- Add a fragment at the end. Its markers move by the bytes in front of it. -/
protected def append (f g : Fragment) : Fragment where
  text := f.text ++ g.text
  values := f.values ++ g.values
  markers := f.markers ++ g.markers.map (f.text.utf8ByteSize + ·)

instance : Append Fragment := ⟨Fragment.append⟩

/-- A fragment in parentheses. -/
def parens (f : Fragment) : Fragment where
  text := "(" ++ f.text ++ ")"
  values := f.values
  markers := f.markers.map (1 + ·)

/-- Fragments one after the other. -/
def concat (fragments : List Fragment) : Fragment :=
  fragments.foldr (· ++ ·) ∅

/-- Add a fragment after a separator. Nothing is added for a fragment without text, and no
separator stands in front of the first text. -/
def addSeparated (separator : String) (sofar f : Fragment) : Fragment :=
  if f.isEmpty then sofar
  else if sofar.isEmpty then sofar ++ f
  else sofar.addText separator ++ f

/-- Fragments one after the other with a separator between two of them. Those without text are
left out. -/
def join (separator : String) (fragments : List Fragment) : Fragment :=
  fragments.foldl (addSeparated separator) ∅

/-- Fragments one after the other with a space between two of them. -/
def joined (fragments : List Fragment) : Fragment :=
  join " " fragments

@[simp] theorem text_empty : (∅ : Fragment).text = "" := rfl

@[simp] theorem values_empty : (∅ : Fragment).values = [] := rfl

@[simp] theorem markers_empty : (∅ : Fragment).markers = [] := rfl

@[simp] theorem text_append (f g : Fragment) : (f ++ g).text = f.text ++ g.text := rfl

@[simp] theorem values_append (f g : Fragment) : (f ++ g).values = f.values ++ g.values := rfl

@[simp] theorem markers_append (f g : Fragment) :
    (f ++ g).markers = f.markers ++ g.markers.map (f.text.utf8ByteSize + ·) := rfl

@[simp] theorem text_ofText (text : String) : (ofText text).text = text := rfl

@[simp] theorem values_ofText (text : String) : (ofText text).values = [] := rfl

@[simp] theorem markers_ofText (text : String) : (ofText text).markers = [] := rfl

@[simp] theorem text_ofValue (value : Value) :
    (ofValue value).text = String.singleton marker := rfl

@[simp] theorem values_ofValue (value : Value) : (ofValue value).values = [value] := rfl

@[simp] theorem markers_ofValue (value : Value) : (ofValue value).markers = [0] := rfl

@[simp] theorem text_addText (f : Fragment) (text : String) :
    (f.addText text).text = f.text ++ text := rfl

@[simp] theorem values_addText (f : Fragment) (text : String) :
    (f.addText text).values = f.values := rfl

@[simp] theorem markers_addText (f : Fragment) (text : String) :
    (f.addText text).markers = f.markers := rfl

@[simp] theorem text_addChar (f : Fragment) (c : Char) : (f.addChar c).text = f.text.push c := rfl

@[simp] theorem values_addChar (f : Fragment) (c : Char) : (f.addChar c).values = f.values := rfl

@[simp] theorem markers_addChar (f : Fragment) (c : Char) :
    (f.addChar c).markers = f.markers := rfl

@[simp] theorem text_bind (f : Fragment) (value : Value) :
    (f.bind value).text = f.text.push marker := rfl

@[simp] theorem values_bind (f : Fragment) (value : Value) :
    (f.bind value).values = f.values ++ [value] := rfl

@[simp] theorem markers_bind (f : Fragment) (value : Value) :
    (f.bind value).markers = f.markers ++ [f.text.utf8ByteSize] := rfl

@[simp] theorem text_parens (f : Fragment) : f.parens.text = "(" ++ f.text ++ ")" := rfl

@[simp] theorem values_parens (f : Fragment) : f.parens.values = f.values := rfl

@[simp] theorem markers_parens (f : Fragment) : f.parens.markers = f.markers.map (1 + ·) := rfl

/-- Adding text is adding the fragment of the text. -/
theorem addText_eq_append (f : Fragment) (text : String) : f.addText text = f ++ ofText text := by
  ext1 <;> simp

/-- Binding a value is adding the fragment of its marker. -/
theorem bind_eq_append (f : Fragment) (value : Value) : f.bind value = f ++ ofValue value := by
  ext1 <;> simp

end Fragment

end BoundSql
