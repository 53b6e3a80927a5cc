import BoundSql.Dialect.Literal
import BoundSql.Dialect.Preset
import BoundSql.Fragment.Marked
import BoundSql.Proofs.Text.Quoted

/-!
# Lexemes

Text is read from left to right as quoted identifiers, quoted texts and the characters outside
them. Lexemes that are written one after the other are read back where no quote character stands
outside the quotes and no quotes follow directly behind others.
-/

namespace BoundSql

/-- A character outside quotes, or what stands between the quotes of an identifier or of a text. -/
inductive Lexeme
  | plain (c : Char)
  | identifier (name : String)
  | content (text : String)
  deriving DecidableEq

namespace Lexeme

/-- The characters of text outside quotes. -/
def ofText (text : String) : List Lexeme :=
  text.toList.map .plain

/-- Whether a lexeme stands in quotes. -/
def isToken : Lexeme → Bool
  | .plain _ => false
  | _ => true

/-- The lexeme without what stands between its quotes. -/
def blank : Lexeme → Lexeme
  | .plain c => .plain c
  | .identifier _ => .identifier ""
  | .content _ => .content ""

/-- The lexemes in quotes. -/
def tokens (lexemes : List Lexeme) : List Lexeme :=
  lexemes.filter isToken

/-- The lexemes without what stands between quotes. -/
def shape (lexemes : List Lexeme) : List Lexeme :=
  lexemes.map blank

section Views
variable {α : Type} (f : α → List Lexeme) (xs : List α) (ls ms : List Lexeme)
  (name text : String)

@[simp] theorem tokens_nil : tokens [] = [] := rfl

@[simp] theorem tokens_append : tokens (ls ++ ms) = tokens ls ++ tokens ms :=
  List.filter_append ls ms

@[simp] theorem tokens_flatMap : tokens (xs.flatMap f) = xs.flatMap fun a => tokens (f a) :=
  List.filter_flatMap

@[simp] theorem tokens_identifier_cons :
    tokens (.identifier name :: ls) = .identifier name :: tokens ls := rfl

@[simp] theorem tokens_content_cons :
    tokens (.content text :: ls) = .content text :: tokens ls := rfl

@[simp] theorem tokens_ofText : tokens (ofText text) = [] := by
  simp [tokens, ofText, isToken]

@[simp] theorem shape_nil : shape [] = [] := rfl

@[simp] theorem shape_append : shape (ls ++ ms) = shape ls ++ shape ms :=
  List.map_append

@[simp] theorem shape_flatMap : shape (xs.flatMap f) = xs.flatMap fun a => shape (f a) :=
  List.map_flatMap

@[simp] theorem shape_identifier_cons :
    shape (.identifier name :: ls) = .identifier "" :: shape ls := rfl

@[simp] theorem shape_content_cons :
    shape (.content text :: ls) = .content "" :: shape ls := rfl

@[simp] theorem shape_ofText : shape (ofText text) = ofText text := by
  simp [shape, ofText, blank]

end Views

/-- Whether no quote character stands outside the quotes and no quotes directly behind others. The
flag tells whether quotes stand in front. -/
def separated : Bool → List Lexeme → Bool
  | _, [] => true
  | _, .plain c :: rest => !Fragment.isQuote c && separated false rest
  | behindQuotes, .identifier _ :: rest => !behindQuotes && separated true rest
  | behindQuotes, .content _ :: rest => !behindQuotes && separated true rest

variable {behindQuotes : Bool} {ls ms : List Lexeme}

@[simp] theorem separated_identifier_cons (name : String) :
    separated false (.identifier name :: ls) = separated true ls := rfl

@[simp] theorem separated_content_cons (text : String) :
    separated false (.content text :: ls) = separated true ls := rfl

/-- What stands between the quotes does not matter. -/
theorem separated_shape : separated behindQuotes (shape ls) = separated behindQuotes ls := by
  induction ls generalizing behindQuotes with
  | nil => rfl
  | cons l ls ih =>
      rw [shape] at ih
      cases l <;> simp only [shape, List.map_cons, blank, separated, ih]

/-- Lexemes that may stand behind quotes may stand anywhere. -/
theorem separated_of_behind_quotes (h : separated true ls) : separated behindQuotes ls := by
  cases ls with
  | nil => rfl
  | cons l ls =>
      cases l with
      | plain c => exact h
      | identifier name => exact absurd h Bool.false_ne_true
      | content text => exact absurd h Bool.false_ne_true

theorem separated_append (hl : separated behindQuotes ls) (hm : separated true ms) :
    separated behindQuotes (ls ++ ms) := by
  induction ls generalizing behindQuotes with
  | nil => exact separated_of_behind_quotes hm
  | cons l ls ih =>
      rw [List.cons_append]
      cases l <;>
      · rw [separated, Bool.and_eq_true_iff] at hl ⊢
        exact ⟨hl.1, ih hl.2⟩

/-- Whether text has no quote character. -/
def isPlain (text : String) : Bool :=
  text.toList.all fun c => !Fragment.isQuote c

/-- Text without quote characters may stand anywhere, and anything may stand behind it that may
stand outside quotes. -/
theorem separated_ofText_append {text : String} (h : isPlain text) (hl : separated false ls) :
    separated false (ofText text ++ ls) := by
  rw [isPlain] at h
  rw [ofText]
  generalize text.toList = cs at h
  induction cs with
  | nil => exact hl
  | cons c cs ih =>
      rw [List.all_cons, Bool.and_eq_true_iff] at h
      rw [List.map_cons, List.cons_append, separated, h.1, ih h.2, Bool.and_true]

/-- Some text separates quotes from those in front of it. -/
theorem separated_ofText_append_of_ne {text : String} (h : isPlain text) (hne : text ≠ "")
    (hl : separated false ls) : separated behindQuotes (ofText text ++ ls) := by
  have hfalse := separated_ofText_append h hl
  have hcs : text.toList ≠ [] := by simpa using hne
  rw [ofText] at hfalse ⊢
  obtain ⟨c, cs, hcs⟩ := List.exists_cons_of_ne_nil hcs
  rw [hcs] at hfalse ⊢
  exact hfalse

theorem separated_ofText {text : String} (h : isPlain text) :
    separated behindQuotes (ofText text) := by
  by_cases hne : text = ""
  · subst hne
    rfl
  · rw [← List.append_nil (ofText text)]
    exact separated_ofText_append_of_ne h hne rfl

end Lexeme

namespace Dialect

variable (d : Dialect)

/-- Read the lexemes of text. An identifier begins at the quote character of identifiers, a text at
a single quote. There is no answer where the text ends between quotes. -/
def lex : List Char → Option (List Lexeme)
  | [] => some []
  | c :: rest =>
      if c = d.identifierQuote then
        match _h : d.identifierQuoting.read? rest with
        | none => none
        | some (name, left) => (lex left).map (.identifier (String.ofList name) :: ·)
      else if c = '\'' then
        match _h : d.literals.quoting.read? rest with
        | none => none
        | some (text, left) => (lex left).map (.content (String.ofList text) :: ·)
      else (lex rest).map (.plain c :: ·)
termination_by cs => cs.length
decreasing_by
  · have hlt := Text.Quoting.length_lt_of_read? _h
    simp only [List.length_cons]
    omega
  · have hlt := Text.Quoting.length_lt_of_read? _h
    simp only [List.length_cons]
    omega
  · exact Nat.lt_succ_self _

/-- The lexemes in quotes in a text. -/
def tokens? (text : String) : Option (List Lexeme) :=
  (d.lex text.toList).map Lexeme.tokens

/-- The lexemes of a text without what stands between quotes. -/
def shape? (text : String) : Option (List Lexeme) :=
  (d.lex text.toList).map Lexeme.shape

example : Dialect.mysql.tokens? "a \x60b\x60\x60c\x60('\\'d', '' '')" =
    some [.identifier "b\x60c", .content "'d", .content "", .content ""] := by decide +kernel

/-- The characters of a lexeme. -/
def writtenLexeme : Lexeme → List Char
  | .plain c => [c]
  | .identifier name => (d.quoteIdentifier name).toList
  | .content text => (d.literals.quote text).toList

/-- The characters of lexemes one after the other. -/
def written (lexemes : List Lexeme) : List Char :=
  lexemes.flatMap d.writtenLexeme

section Written
variable (ls ms : List Lexeme)

@[simp] theorem written_nil : d.written [] = [] := rfl

@[simp] theorem written_append : d.written (ls ++ ms) = d.written ls ++ d.written ms :=
  List.flatMap_append

@[simp] theorem written_flatMap {α : Type} (f : α → List Lexeme) (xs : List α) :
    d.written (xs.flatMap f) = xs.flatMap fun a => d.written (f a) :=
  List.flatMap_assoc

@[simp] theorem written_plain_cons (c : Char) : d.written (.plain c :: ls) = c :: d.written ls :=
  List.flatMap_cons

@[simp] theorem written_identifier_cons (name : String) :
    d.written (.identifier name :: ls) = (d.quoteIdentifier name).toList ++ d.written ls :=
  List.flatMap_cons

@[simp] theorem written_content_cons (text : String) :
    d.written (.content text :: ls) = (d.literals.quote text).toList ++ d.written ls :=
  List.flatMap_cons

@[simp] theorem written_ofText (text : String) : d.written (Lexeme.ofText text) = text.toList := by
  simp [written, Lexeme.ofText, List.flatMap_map, writtenLexeme]

end Written

variable {d} {behindQuotes : Bool} {ls : List Lexeme}

theorem lex_identifierQuoting_cons (cs : List Char) :
    d.lex (d.identifierQuoting.quote :: cs) =
      (d.identifierQuoting.read? cs).bind fun read =>
        (d.lex read.2).map (.identifier (String.ofList read.1) :: ·) := by
  change d.lex (d.identifierQuote :: cs) = _
  rw [lex.eq_def]
  simp only [if_true]
  split <;> rename_i h <;> rw [h] <;> rfl

theorem lex_quoting_cons (hne : d.identifierQuote ≠ '\'') (cs : List Char) :
    d.lex (d.literals.quoting.quote :: cs) =
      (d.literals.quoting.read? cs).bind fun read =>
        (d.lex read.2).map (.content (String.ofList read.1) :: ·) := by
  change d.lex ('\'' :: cs) = _
  rw [lex.eq_def]
  simp only [if_neg hne.symm, if_true]
  split <;> rename_i h <;> rw [h] <;> rfl

/-- What is written in quotes may be read back where no quote character follows. -/
theorem head?_ne_of_separated {q : Char} (hq : Fragment.isQuote q)
    (h : Lexeme.separated true ls) : (d.written ls).head? ≠ some q := by
  cases ls with
  | nil => simp
  | cons l ls =>
      cases l with
      | plain c =>
          have hc : (!Fragment.isQuote c) = true := (Bool.and_eq_true_iff.mp h).1
          have hne : c ≠ q := by
            rintro rfl
            simp [hq] at hc
          simpa using hne
      | identifier name => exact absurd h Bool.false_ne_true
      | content text => exact absurd h Bool.false_ne_true

/-- Separated lexemes are read back. -/
theorem lex_written (hquote : Fragment.isQuote d.identifierQuote) (hne : d.identifierQuote ≠ '\'')
    (h : Lexeme.separated behindQuotes ls) : d.lex (d.written ls) = some ls := by
  induction ls generalizing behindQuotes with
  | nil => rw [written_nil, lex]
  | cons l ls ih =>
      cases l with
      | plain c =>
          obtain ⟨hc, hrest⟩ := Bool.and_eq_true_iff.mp h
          have hidentifier : c ≠ d.identifierQuote := by
            rintro rfl
            simp [hquote] at hc
          have htext : c ≠ '\'' := by
            rintro rfl
            simp [Fragment.isQuote] at hc
          rw [written_plain_cons, lex.eq_def]
          simp only [if_neg hidentifier, if_neg htext, ih hrest, Option.map_some]
      | identifier name =>
          have hrest := (Bool.and_eq_true_iff.mp h).2
          rw [written_identifier_cons, quoteIdentifier, Text.Quoting.toList_write_append,
            lex_identifierQuoting_cons,
            Text.Quoting.read?_encode_append _ (head?_ne_of_separated hquote hrest),
            Option.bind_some, ih hrest, String.ofList_toList]
          rfl
      | content text =>
          have hrest := (Bool.and_eq_true_iff.mp h).2
          rw [written_content_cons, LiteralStyle.quote, Text.Quoting.toList_write_append,
            lex_quoting_cons hne,
            Text.Quoting.read?_encode_append _ (head?_ne_of_separated rfl hrest),
            Option.bind_some, ih hrest, String.ofList_toList]
          rfl

end Dialect

end BoundSql
