import BoundSql.Proofs.Schema.Lexemes

/-!
# Quoted parts of schema changes

The names and literals of a change stand in quotes in its statements. A reader finds them there as
they were given, in their order and with nothing else between quotes. What it finds outside quotes
is the same for all names and for all texts and documents.
-/

namespace BoundSql

namespace ColumnConstraint

/-- What stands in quotes in a constraint of a column. -/
def tokens (d : Dialect) : ColumnConstraint → List Lexeme
  | .default (.value v) => (d.literals.content? v).toList.map .content
  | .references table column =>
      match d.foreignKeys with
      | .inline => [.identifier table, .identifier column]
      | .tableConstraint => []
  | _ => []

/-- The table and the column that a constraint refers to. -/
def target? : ColumnConstraint → Option (String × String)
  | .references table column => some (table, column)
  | _ => none

end ColumnConstraint

namespace Column

/-- What stands in quotes in the definition of a column. -/
def tokens (d : Dialect) (c : Column) : List Lexeme :=
  .identifier c.name :: c.constraints.flatMap (ColumnConstraint.tokens d)

/-- What stands in quotes in each foreign key of a column that is declared beside the columns. -/
def keyTokens (d : Dialect) (c : Column) : List (List Lexeme) :=
  match d.foreignKeys with
  | .inline => []
  | .tableConstraint =>
      (c.constraints.filterMap ColumnConstraint.target?).map fun target =>
        [.identifier c.name, .identifier target.1, .identifier target.2]

end Column

/-- What stands in quotes where a table is created: its name, the columns and then the foreign keys
beside them. -/
def CreateTable.tokens (d : Dialect) (t : CreateTable) : List Lexeme :=
  .identifier t.name :: (t.columns.flatMap (Column.tokens d) ++
    (t.columns.flatMap (Column.keyTokens d)).flatten)

/-- What stands in quotes in each statement that alters a table: its name and then a column or a
foreign key. -/
def AlterTable.tokens (d : Dialect) (t : AlterTable) : List (List Lexeme) :=
  (t.added.flatMap fun c => (c.tokens d :: c.keyTokens d).map (.identifier t.name :: ·)) ++
    t.dropped.map fun column => [.identifier t.name, .identifier column]

/-- What stands in quotes in each statement of a change. -/
def SchemaChange.tokens (d : Dialect) : SchemaChange → List (List Lexeme)
  | .create t => [t.tokens d]
  | .alter t => t.tokens d
  | .drop t => [[.identifier t.name]]
  | .rename t => [[.identifier t.old, .identifier t.new]]

/-- The value with another text or document in its place. -/
def Value.blank : Value → Value
  | .string _ => .string ""
  | .json _ => .json .null
  | v => v

/-- The default without its text or document. -/
def DefaultValue.blank : DefaultValue → DefaultValue
  | .value v => .value v.blank
  | v => v

/-- The constraint without names, texts and documents. -/
def ColumnConstraint.blank : ColumnConstraint → ColumnConstraint
  | .default v => .default v.blank
  | .references _ _ => .references "" ""
  | k => k

/-- The column without names, texts and documents. -/
def Column.blank (c : Column) : Column :=
  ⟨"", c.type, c.constraints.map ColumnConstraint.blank⟩

/-- The change without names, texts and documents. Changes that differ in nothing else have this
in common. -/
def SchemaChange.blank : SchemaChange → SchemaChange
  | .create t => .create ⟨"", t.columns.map Column.blank, t.ifNotExists⟩
  | .alter t => .alter ⟨"", t.added.map Column.blank, t.dropped.map fun _ => ""⟩
  | .drop t => .drop ⟨"", t.ifExists⟩
  | .rename _ => .rename ⟨"", ""⟩

namespace Dialect

open Lexeme

section Tokens
variable {d : Dialect}

theorem tokens_constraintLexemes (type : ColumnType) (k : ColumnConstraint) :
    tokens (d.constraintLexemes type k) = k.tokens d := by
  cases k with
  | default v =>
      cases v with
      | value v =>
          rw [constraintLexemes, defaultLexemes]
          split <;> simp [LiteralStyle.tokens_lexemes, ColumnConstraint.tokens]
      | currentTimestamp => simp [constraintLexemes, defaultLexemes, ColumnConstraint.tokens]
      | expression text => simp [constraintLexemes, defaultLexemes, ColumnConstraint.tokens]
  | references table column =>
      cases hplace : d.foreignKeys <;>
        simp [constraintLexemes, referenceLexemes, ColumnConstraint.tokens, hplace]
  | _ => simp [constraintLexemes, ColumnConstraint.tokens]

theorem tokens_columnLexemes (c : Column) : tokens (d.columnLexemes c) = c.tokens d := by
  simp [columnLexemes, Column.tokens, tokens_constraintLexemes]

theorem map_tokens_keysLexemes (c : Column) : (d.keysLexemes c).map tokens = c.keyTokens d := by
  rw [keysLexemes, Column.keyTokens, List.map_filterMap]
  cases hplace : d.foreignKeys with
  | inline =>
      rw [List.filterMap_eq_nil_iff]
      intro k _
      cases k with
      | references table column => simp [keyLexemes?, hplace]
      | _ => rfl
  | tableConstraint =>
      rw [List.map_filterMap]
      apply List.filterMap_congr
      intro k _
      cases k with
      | references table column =>
          simp [keyLexemes?, hplace, referenceLexemes, ColumnConstraint.target?]
      | _ => rfl

/-- A separator without quotes does not matter, nor does text in front of each line. -/
theorem tokens_intercalate (separator front : String) (lists : List (List Lexeme)) :
    tokens ((ofText separator).intercalate (lists.map (ofText front ++ ·))) =
      lists.flatMap tokens := by
  induction lists with
  | nil => rfl
  | cons first rest ih =>
      cases rest with
      | nil => simp
      | cons second rest =>
          simp only [List.map_cons, List.intercalate_cons_cons, tokens_append,
            tokens_ofText] at ih ⊢
          rw [ih]
          simp

theorem tokens_createLexemes (t : CreateTable) : tokens (d.createLexemes t) = t.tokens d := by
  rw [createLexemes, CreateTable.tokens]
  split
  · rename_i hcolumns
    simp [List.isEmpty_iff.mp hcolumns]
  · have hcolumns : (t.columns.map d.columnLexemes).flatMap tokens =
        t.columns.flatMap (Column.tokens d) := by
      simp only [List.flatMap_map, tokens_columnLexemes]
    have hkeys : (t.columns.flatMap d.keysLexemes).flatMap tokens =
        (t.columns.flatMap (Column.keyTokens d)).flatten := by
      rw [List.flatMap_def, List.map_flatMap]
      simp only [map_tokens_keysLexemes]
    rw [← hcolumns, ← hkeys, ← List.flatMap_append]
    simp only [tokens_append, tokens_intercalate]
    simp

theorem map_tokens_addLexemes (table : String) (c : Column) :
    (d.addLexemes table c).map tokens =
      (c.tokens d :: c.keyTokens d).map (.identifier table :: ·) := by
  rw [← map_tokens_keysLexemes]
  simp [addLexemes, tokens_columnLexemes, Function.comp_def]

/-- What stands in quotes among the lexemes of a change. -/
theorem map_tokens_schemaLexemes (c : SchemaChange) :
    (d.schemaLexemes c).map tokens = c.tokens d := by
  cases c with
  | create t => simp [schemaLexemes, SchemaChange.tokens, tokens_createLexemes]
  | alter t =>
      simp [schemaLexemes, SchemaChange.tokens, AlterTable.tokens, List.map_flatMap,
        map_tokens_addLexemes, Function.comp_def]
  | drop t => simp [schemaLexemes, SchemaChange.tokens]
  | rename t => simp [schemaLexemes, SchemaChange.tokens]

end Tokens

section Shape
variable {d : Dialect}

theorem shape_literal_blank (style : LiteralStyle) (v : Value) :
    shape (style.lexemes v.blank) = shape (style.lexemes v) := by
  cases v with
  | string s => simp [Value.blank, LiteralStyle.lexemes, LiteralStyle.content?,
      LiteralStyle.front, LiteralStyle.behind]
  | json document => simp [Value.blank, LiteralStyle.lexemes, LiteralStyle.content?,
      LiteralStyle.front, LiteralStyle.behind]
  | _ => rfl

theorem wrapsDefault_blank (type : ColumnType) (v : Value) :
    d.wrapsDefault type v.blank = d.wrapsDefault type v := by
  cases v <;> rfl

theorem shape_constraint_blank (type : ColumnType) (k : ColumnConstraint) :
    shape (d.constraintLexemes type k.blank) = shape (d.constraintLexemes type k) := by
  cases k with
  | default v =>
      cases v with
      | value v =>
          simp only [ColumnConstraint.blank, DefaultValue.blank, constraintLexemes, defaultLexemes,
            wrapsDefault_blank]
          split <;> simp [shape_literal_blank]
      | _ => rfl
  | references table column =>
      cases hplace : d.foreignKeys <;>
        simp [ColumnConstraint.blank, constraintLexemes, referenceLexemes, hplace]
  | _ => rfl

theorem shape_column_blank (c : Column) :
    shape (d.columnLexemes c.blank) = shape (d.columnLexemes c) := by
  simp [columnLexemes, Column.blank, List.flatMap_map, shape_constraint_blank]

theorem map_shape_keys_blank (c : Column) :
    (d.keysLexemes c.blank).map shape = (d.keysLexemes c).map shape := by
  rw [keysLexemes, keysLexemes, Column.blank, List.filterMap_map, List.map_filterMap,
    List.map_filterMap]
  apply List.filterMap_congr
  intro k _
  cases k with
  | references table column =>
      cases hplace : d.foreignKeys <;>
        simp [keyLexemes?, ColumnConstraint.blank, referenceLexemes, hplace]
  | _ => rfl

theorem shape_create_blank (t : CreateTable) :
    shape (d.createLexemes ⟨"", t.columns.map Column.blank, t.ifNotExists⟩) =
      shape (d.createLexemes t) := by
  simp only [createLexemes, List.isEmpty_map]
  split
  · simp
  · have hentries :
        ((t.columns.map Column.blank).map d.columnLexemes ++
          (t.columns.map Column.blank).flatMap d.keysLexemes).map shape =
        (t.columns.map d.columnLexemes ++ t.columns.flatMap d.keysLexemes).map shape := by
      simp [Function.comp_def, List.flatMap_map, List.map_flatMap, shape_column_blank,
        map_shape_keys_blank]
    simp only [shape_append, intercalate_map_of_append shape_nil shape_append, hentries,
      shape_identifier_cons]

theorem map_shape_add_blank (table : String) (c : Column) :
    (d.addLexemes "" c.blank).map shape = (d.addLexemes table c).map shape := by
  have hkeys := congrArg (List.map (ofText "ALTER TABLE " ++ .identifier "" :: ofText " ADD " ++ ·))
    (map_shape_keys_blank (d := d) c)
  simpa [addLexemes, shape_column_blank, Function.comp_def] using hkeys

/-- Names, texts and documents have no part in the shape of the statements. -/
theorem map_shape_schema_blank (c : SchemaChange) :
    (d.schemaLexemes c.blank).map shape = (d.schemaLexemes c).map shape := by
  cases c with
  | create t => simp [schemaLexemes, SchemaChange.blank, shape_create_blank]
  | alter t =>
      simp [schemaLexemes, SchemaChange.blank, List.map_flatMap, List.flatMap_map,
        map_shape_add_blank t.name, Function.comp_def]
  | drop t => simp [schemaLexemes, SchemaChange.blank]
  | rename t => simp [schemaLexemes, SchemaChange.blank]

end Shape

end Dialect

/-- A reader of the statements of a change finds its lexemes, where these are separated. -/
theorem Dialect.map_lex_schemaStatements {d : Dialect} (hd : d.Lexical) {c : SchemaChange}
    (h : ∀ ls ∈ d.schemaLexemes c, Lexeme.separated false ls) (view : List Lexeme → List Lexeme) :
    (d.schemaStatements c).map (fun text => (d.lex text.toList).map view) =
      ((d.schemaLexemes c).map view).map some := by
  have hwritten := congrArg (List.map fun cs => (d.lex cs).map view)
    (map_written_schemaLexemes hd c)
  have hlex : ∀ ls ∈ d.schemaLexemes c, (d.lex (d.written ls)).map view = some (view ls) := by
    intro ls hls
    rw [lex_written hd.isQuote_identifierQuote hd.identifierQuote_ne (h ls hls), Option.map_some]
  rw [List.map_map, List.map_map] at hwritten
  rw [List.map_map]
  exact hwritten.symm.trans (List.map_congr_left hlex)

/-- A reader of the statements of a change finds in quotes the names and the literals of the
change, as they were given and in their order, and nothing else. What it finds outside quotes, and
where quotes stand, is the same for every change with other names, texts and documents. -/
theorem SchemaChange.quoted_parts_read_back (c : SchemaChange) (b : Backend) (h : c.Standard) :
    (b.dialect.schemaStatements c).map b.dialect.tokens? = (c.tokens b.dialect).map some ∧
      ∀ c' : SchemaChange, c'.blank = c.blank →
        (b.dialect.schemaStatements c').map b.dialect.shape? =
          (b.dialect.schemaStatements c).map b.dialect.shape? := by
  generalize hb : b.dialect = d
  have hd : d.Lexical := hb ▸ b.lexical
  have hseparated : ∀ ls ∈ d.schemaLexemes c, Lexeme.separated false ls := fun ls hls =>
    Dialect.separated_of_mem_schemaLexemes hd h hls
  refine ⟨?_, fun c' hblank => ?_⟩
  · have htokens := Dialect.map_lex_schemaStatements hd hseparated Lexeme.tokens
    rwa [Dialect.map_tokens_schemaLexemes] at htokens
  · have hshape : (d.schemaLexemes c').map Lexeme.shape = (d.schemaLexemes c).map Lexeme.shape := by
      rw [← Dialect.map_shape_schema_blank c', hblank, Dialect.map_shape_schema_blank c]
    -- whether lexemes are separated can be seen from their shape
    have hseparated' : ∀ ls ∈ d.schemaLexemes c', Lexeme.separated false ls := by
      intro ls hls
      have hmem : Lexeme.shape ls ∈ (d.schemaLexemes c).map Lexeme.shape :=
        hshape ▸ List.mem_map_of_mem hls
      obtain ⟨ms, hms, heq⟩ := List.mem_map.mp hmem
      rw [← Lexeme.separated_shape, ← heq, Lexeme.separated_shape]
      exact hseparated ms hms
    have hread := Dialect.map_lex_schemaStatements hd hseparated Lexeme.shape
    have hread' := Dialect.map_lex_schemaStatements hd hseparated' Lexeme.shape
    rw [hshape] at hread'
    exact hread'.trans hread.symm

/-- A name with the quote character of identifiers, and a text that ends with a backslash behind a
single quote. -/
theorem SchemaChange.quoted_name_read_back :
    let column (name text : String) : Column :=
      ⟨name, .json, [.default (.value (.string text)), .references "b" "c"]⟩
    let c : SchemaChange := .create ⟨"t\x60", [column "a" "'); --\\"], false⟩
    let c' : SchemaChange := .create ⟨"t", [column "\x60\x60" ""], false⟩
    Dialect.mysql.schemaStatements c = ["CREATE TABLE \x60t\x60\x60\x60 (\n" ++
      "    \x60a\x60 JSON DEFAULT ('''); --\\\\'),\n" ++
      "    FOREIGN KEY (\x60a\x60) REFERENCES \x60b\x60 (\x60c\x60)\n)"] ∧
    c.Standard ∧ c'.blank = c.blank ∧
    (Dialect.mysql.schemaStatements c).map Dialect.mysql.tokens? =
      [some [.identifier "t\x60", .identifier "a", .content "'); --\\", .identifier "a",
        .identifier "b", .identifier "c"]] ∧
    (Dialect.mysql.schemaStatements c').map Dialect.mysql.shape? =
      (Dialect.mysql.schemaStatements c).map Dialect.mysql.shape? := by
  intro column c c'
  have hstandard : c.Standard := by
    simp [c, column, SchemaChange.Standard, Column.Standard]
  have hblank : c'.blank = c.blank := rfl
  obtain ⟨htokens, hshape⟩ := c.quoted_parts_read_back .mysql hstandard
  exact ⟨by decide +kernel, hstandard, hblank, htokens, hshape c' hblank⟩

end BoundSql
