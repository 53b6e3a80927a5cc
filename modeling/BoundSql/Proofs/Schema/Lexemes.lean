import BoundSql.Proofs.Dialect.Literal
import BoundSql.Schema.Statement
import Mathlib.Data.List.Basic

/-!
# Lexemes of schema changes

The lexemes of each part of a statement, from the names and literals in it. They are written as
the statement. Where no type and no default is named outright they are separated, so a reader of
the statement finds just them.
-/

namespace BoundSql

namespace Dialect

variable (d : Dialect)

/-- The lexemes of a reference. -/
def referenceLexemes (table column : String) : List Lexeme :=
  Lexeme.ofText "REFERENCES " ++ .identifier table :: Lexeme.ofText " (" ++
    .identifier column :: Lexeme.ofText ")"

/-- The lexemes of a default. -/
def defaultLexemes (type : ColumnType) : DefaultValue → List Lexeme
  | .value v =>
      let literal := d.literals.lexemes v
      if d.wrapsDefault type v then Lexeme.ofText "(" ++ literal ++ Lexeme.ofText ")" else literal
  | .currentTimestamp => Lexeme.ofText d.literals.currentTimestamp
  | .expression text => Lexeme.ofText text

/-- The lexemes of a constraint. -/
def constraintLexemes (type : ColumnType) : ColumnConstraint → List Lexeme
  | .primary => Lexeme.ofText (if type = .increments then "" else " PRIMARY KEY")
  | .notNull => Lexeme.ofText " NOT NULL"
  | .unique => Lexeme.ofText " UNIQUE"
  | .default value => Lexeme.ofText " DEFAULT " ++ d.defaultLexemes type value
  | .references table column =>
      match d.foreignKeys with
      | .inline => Lexeme.ofText " " ++ referenceLexemes table column
      | .tableConstraint => []

/-- The lexemes of the definition of a column. -/
def columnLexemes (c : Column) : List Lexeme :=
  .identifier c.name :: Lexeme.ofText " " ++ Lexeme.ofText (d.types.name c.type) ++
    c.constraints.flatMap (d.constraintLexemes c.type)

/-- The lexemes of the foreign key that a constraint declares beside the columns. -/
def keyLexemes? (c : Column) : ColumnConstraint → Option (List Lexeme)
  | .references table column =>
      match d.foreignKeys with
      | .inline => none
      | .tableConstraint =>
          some (Lexeme.ofText "FOREIGN KEY (" ++ .identifier c.name :: Lexeme.ofText ") " ++
            referenceLexemes table column)
  | _ => none

/-- The lexemes of the foreign keys that a column declares beside the columns. -/
def keysLexemes (c : Column) : List (List Lexeme) :=
  c.constraints.filterMap (d.keyLexemes? c)

/-- The lexemes of the statement that creates a table. -/
def createLexemes (t : CreateTable) : List Lexeme :=
  let head := Lexeme.ofText "CREATE TABLE " ++
    Lexeme.ofText (if t.ifNotExists then "IF NOT EXISTS " else "") ++ [.identifier t.name]
  if t.columns.isEmpty then head ++ Lexeme.ofText " ()"
  else
    let entries := t.columns.map d.columnLexemes ++ t.columns.flatMap d.keysLexemes
    head ++ Lexeme.ofText " (\n" ++ List.intercalate (Lexeme.ofText ",\n")
      (entries.map (Lexeme.ofText "    " ++ ·)) ++ Lexeme.ofText "\n)"

/-- The lexemes of the statements that add a column. -/
def addLexemes (table : String) (c : Column) : List (List Lexeme) :=
  let head := Lexeme.ofText "ALTER TABLE " ++ .identifier table :: Lexeme.ofText " ADD "
  (head ++ Lexeme.ofText "COLUMN " ++ d.columnLexemes c) :: (d.keysLexemes c).map (head ++ ·)

/-- The lexemes of the statements of a change. -/
def schemaLexemes : SchemaChange → List (List Lexeme)
  | .create t => [d.createLexemes t]
  | .alter t =>
      t.added.flatMap (d.addLexemes t.name) ++ t.dropped.map fun column =>
        Lexeme.ofText "ALTER TABLE " ++ .identifier t.name :: Lexeme.ofText " DROP COLUMN " ++
          [.identifier column]
  | .drop t =>
      [Lexeme.ofText "DROP TABLE " ++ Lexeme.ofText (if t.ifExists then "IF EXISTS " else "") ++
        [.identifier t.name]]
  | .rename t =>
      [Lexeme.ofText "ALTER TABLE " ++ .identifier t.old :: Lexeme.ofText " RENAME TO " ++
        [.identifier t.new]]

/-- What is done to each of two lists one after the other is done to lists with the same list in
front of each and a separator between two of them. -/
theorem intercalate_map_of_append {α β : Type} {f : List α → List β} (hnil : f [] = [])
    (happend : ∀ l m, f (l ++ m) = f l ++ f m) (separator front : List α)
    (lists : List (List α)) :
    f (separator.intercalate (lists.map (front ++ ·))) =
      (f separator).intercalate ((lists.map f).map (f front ++ ·)) := by
  induction lists with
  | nil => simpa using hnil
  | cons first rest ih =>
      cases rest with
      | nil => simp [happend]
      | cons second rest =>
          simp only [List.map_cons, List.intercalate_cons_cons, happend] at ih ⊢
          rw [ih]

section Written
variable {d}

theorem written_referenceLexemes (table column : String) :
    d.written (referenceLexemes table column) = (d.reference table column).toList := by
  unfold reference
  simp [referenceLexemes]

theorem written_defaultLexemes (hd : d.Lexical) (type : ColumnType) (v : DefaultValue) :
    d.written (d.defaultLexemes type v) = (d.defaultText type v).toList := by
  cases v with
  | value v =>
      rw [defaultLexemes, defaultText]
      split <;> simp [LiteralStyle.written_lexemes hd]
  | currentTimestamp => exact d.written_ofText _
  | expression text => exact d.written_ofText _

theorem written_constraintLexemes (hd : d.Lexical) (type : ColumnType) (k : ColumnConstraint) :
    d.written (d.constraintLexemes type k) = (d.constraintText type k).toList := by
  cases k with
  | primary => exact d.written_ofText _
  | notNull => exact d.written_ofText _
  | unique => exact d.written_ofText _
  | default v => simp [constraintLexemes, constraintText, written_defaultLexemes hd]
  | references table column =>
      cases hplace : d.foreignKeys <;>
        simp [constraintLexemes, constraintText, hplace, written_referenceLexemes]

theorem written_columnLexemes (hd : d.Lexical) (c : Column) :
    d.written (d.columnLexemes c) = (d.columnDefinition c).toList := by
  simp [columnLexemes, columnDefinition, List.flatMap_map, written_constraintLexemes hd]

theorem map_written_keysLexemes (c : Column) :
    (d.keysLexemes c).map d.written = (d.keysBeside c).map String.toList := by
  rw [keysLexemes, keysBeside, List.map_filterMap, List.map_filterMap]
  apply List.filterMap_congr
  intro k _
  cases k with
  | references table column =>
      cases hplace : d.foreignKeys <;>
        simp [keyLexemes?, foreignKey?, hplace, written_referenceLexemes]
  | _ => rfl

theorem written_createLexemes (hd : d.Lexical) (t : CreateTable) :
    d.written (d.createLexemes t) = (d.createTable t).toList := by
  rw [createLexemes, createTable]
  split
  · simp only [written_append, written_ofText, written_identifier_cons, written_nil,
      List.append_nil, String.toList_append]
  · have hentries : (t.columns.map d.columnLexemes ++ t.columns.flatMap d.keysLexemes).map d.written
        = (t.columns.map d.columnDefinition ++ t.columns.flatMap d.keysBeside).map
          String.toList := by
      simp only [List.map_append, List.map_map, Function.comp_def, written_columnLexemes hd,
        List.map_flatMap, map_written_keysLexemes]
    simp only [written_append, intercalate_map_of_append d.written_nil d.written_append, hentries,
      written_ofText, written_identifier_cons, written_nil, List.append_nil, String.toList_append,
      String.toList_intercalate, List.map_map, Function.comp_def]

theorem map_written_addLexemes (hd : d.Lexical) (table : String) (c : Column) :
    (d.addLexemes table c).map d.written = (d.addColumn table c).map String.toList := by
  have hkeys := congrArg (List.map
    ("ALTER TABLE ".toList ++ (d.quoteIdentifier table).toList ++ " ADD ".toList ++ ·))
    (d.map_written_keysLexemes c)
  simpa [addLexemes, addColumn, written_columnLexemes hd, Function.comp_def] using hkeys

/-- The lexemes of a change are written as its statements. -/
theorem map_written_schemaLexemes (hd : d.Lexical) (c : SchemaChange) :
    (d.schemaLexemes c).map d.written = (d.schemaStatements c).map String.toList := by
  cases c with
  | create t => simp [schemaLexemes, schemaStatements, written_createLexemes hd]
  | alter t =>
      rw [schemaStatements, alterTable]
      unfold dropColumn
      simp [schemaLexemes, List.map_flatMap, map_written_addLexemes hd]
  | drop t =>
      rw [schemaStatements]
      unfold dropTable
      simp [schemaLexemes]
  | rename t =>
      rw [schemaStatements]
      unfold renameTable
      simp [schemaLexemes]

end Written

end Dialect

/-- A column of a type that the dialect has a name for, without defaults that are spelled
outright. -/
def Column.Standard (c : Column) : Prop :=
  (∀ name, c.type ≠ .custom name) ∧ ∀ text, .default (.expression text) ∉ c.constraints

/-- A change in which all new columns are of such a kind. -/
def SchemaChange.Standard : SchemaChange → Prop
  | .create t => ∀ c ∈ t.columns, c.Standard
  | .alter t => ∀ c ∈ t.added, c.Standard
  | .drop _ => True
  | .rename _ => True

namespace Dialect

section Separated
variable {d : Dialect} {behindQuotes : Bool}

open Lexeme

theorem separated_referenceLexemes (table column : String) :
    separated behindQuotes (referenceLexemes table column) := by
  simp only [referenceLexemes, List.append_assoc, List.cons_append]
  apply separated_ofText_append_of_ne (by decide) (by decide)
  rw [separated_identifier_cons]
  apply separated_ofText_append_of_ne (by decide) (by decide)
  rw [separated_identifier_cons]
  exact separated_ofText (by decide)

theorem separated_defaultLexemes (hd : d.Lexical) (type : ColumnType) {v : DefaultValue}
    (h : ∀ text, v ≠ .expression text) : separated false (d.defaultLexemes type v) := by
  cases v with
  | value v =>
      have hliteral : separated false (d.literals.lexemes v) := LiteralStyle.separated_lexemes v
      rw [defaultLexemes]
      split
      · exact separated_append (separated_ofText_append (by decide) hliteral)
          (separated_ofText (by decide))
      · exact hliteral
  | currentTimestamp => exact separated_ofText hd.isPlain_currentTimestamp
  | expression text => exact absurd rfl (h text)

theorem separated_constraintLexemes (hd : d.Lexical) (type : ColumnType) {k : ColumnConstraint}
    (h : ∀ text, k ≠ .default (.expression text)) :
    separated behindQuotes (d.constraintLexemes type k) := by
  cases k with
  | primary => exact separated_ofText (by split <;> decide)
  | notNull => exact separated_ofText (by decide)
  | unique => exact separated_ofText (by decide)
  | default v =>
      apply separated_ofText_append_of_ne (by decide) (by decide)
      apply separated_defaultLexemes hd
      rintro text rfl
      exact h text rfl
  | references table column =>
      rw [constraintLexemes]
      split
      · apply separated_ofText_append_of_ne (by decide) (by decide)
        exact separated_referenceLexemes table column
      · rfl

theorem separated_columnLexemes (hd : d.Lexical) {c : Column} (h : c.Standard) :
    separated false (d.columnLexemes c) := by
  obtain ⟨htype, hdefault⟩ := h
  have hconstraints : separated true (c.constraints.flatMap (d.constraintLexemes c.type)) := by
    generalize c.constraints = constraints at hdefault
    induction constraints with
    | nil => rfl
    | cons k rest ih =>
        have hk : ∀ text, k ≠ .default (.expression text) := by
          rintro text rfl
          exact hdefault text List.mem_cons_self
        rw [List.flatMap_cons]
        apply separated_append (separated_constraintLexemes hd c.type hk)
        exact ih fun text htext => hdefault text (List.mem_cons_of_mem k htext)
  simp only [columnLexemes, List.append_assoc, List.cons_append]
  rw [separated_identifier_cons]
  apply separated_ofText_append_of_ne (by decide) (by decide)
  exact separated_append (separated_ofText (hd.isPlain_typeName c.type htype)) hconstraints

theorem separated_of_mem_keysLexemes {c : Column} {key : List Lexeme}
    (h : key ∈ d.keysLexemes c) : separated false key := by
  obtain ⟨k, -, hkey⟩ := List.mem_filterMap.mp h
  cases k with
  | references table column =>
      rw [keyLexemes?] at hkey
      split at hkey
      · exact absurd hkey (Option.some_ne_none _).symm
      · obtain rfl := Option.some.inj hkey
        simp only [List.append_assoc, List.cons_append]
        apply separated_ofText_append (by decide)
        rw [separated_identifier_cons]
        apply separated_ofText_append_of_ne (by decide) (by decide)
        exact separated_referenceLexemes table column
  | _ => exact absurd hkey (Option.some_ne_none _).symm

theorem separated_intercalate {separator : List Lexeme} {lists : List (List Lexeme)}
    (hseparator : separated true separator) (h : ∀ ls ∈ lists, separated true ls) :
    separated true (separator.intercalate lists) := by
  induction lists with
  | nil => rfl
  | cons first rest ih =>
      have hfirst := h first List.mem_cons_self
      have hrest := ih fun ls hls => h ls (List.mem_cons_of_mem first hls)
      cases rest with
      | nil => simpa using hfirst
      | cons second rest =>
          rw [List.intercalate_cons_cons]
          exact separated_append (separated_append hfirst hseparator) hrest

theorem separated_createLexemes (hd : d.Lexical) {t : CreateTable}
    (h : ∀ c ∈ t.columns, c.Standard) : separated false (d.createLexemes t) := by
  have hhead : separated false (ofText "CREATE TABLE " ++
      ofText (if t.ifNotExists then "IF NOT EXISTS " else "") ++ [.identifier t.name]) := by
    rw [List.append_assoc]
    apply separated_ofText_append (by decide)
    apply separated_ofText_append (by split <;> decide)
    rfl
  rw [createLexemes]
  split
  · exact separated_append hhead (separated_ofText (by decide))
  · have hlines : ∀ line ∈ (t.columns.map d.columnLexemes ++ t.columns.flatMap d.keysLexemes).map
        (ofText "    " ++ ·), separated true line := by
      intro line hline
      obtain ⟨entry, hentry, rfl⟩ := List.mem_map.mp hline
      apply separated_ofText_append_of_ne (by decide) (by decide)
      rcases List.mem_append.mp hentry with hentry | hentry
      · obtain ⟨c, hc, rfl⟩ := List.mem_map.mp hentry
        exact separated_columnLexemes hd (h c hc)
      · obtain ⟨c, -, hkey⟩ := List.mem_flatMap.mp hentry
        exact separated_of_mem_keysLexemes hkey
    have hopen := separated_append hhead (separated_ofText (by decide : isPlain " (\n"))
    have hbody := separated_intercalate (separated_ofText (by decide : isPlain ",\n")) hlines
    exact separated_append (separated_append hopen hbody) (separated_ofText (by decide))

/-- Every statement that alters a table begins in the same way. -/
theorem separated_alterHead (table : String) {text : String} (htext : isPlain text)
    (hne : text ≠ "") {ls : List Lexeme} (h : separated false ls) :
    separated false (ofText "ALTER TABLE " ++ .identifier table :: ofText text ++ ls) := by
  simp only [List.append_assoc, List.cons_append]
  apply separated_ofText_append (by decide)
  rw [separated_identifier_cons]
  exact separated_ofText_append_of_ne htext hne h

theorem separated_of_mem_addLexemes (hd : d.Lexical) {c : Column} (h : c.Standard)
    {table : String} {ls : List Lexeme} (hls : ls ∈ d.addLexemes table c) :
    separated false ls := by
  rcases List.mem_cons.mp hls with rfl | hls
  · rw [List.append_assoc]
    apply separated_alterHead table (by decide) (by decide)
    exact separated_ofText_append (by decide) (separated_columnLexemes hd h)
  · obtain ⟨key, hkey, rfl⟩ := List.mem_map.mp hls
    exact separated_alterHead table (by decide) (by decide) (separated_of_mem_keysLexemes hkey)

/-- The lexemes of a change are separated where no type and no default is named outright. -/
theorem separated_of_mem_schemaLexemes (hd : d.Lexical) {c : SchemaChange} (h : c.Standard)
    {ls : List Lexeme} (hls : ls ∈ d.schemaLexemes c) : separated false ls := by
  cases c with
  | create t =>
      obtain rfl := List.mem_singleton.mp hls
      exact separated_createLexemes hd h
  | alter t =>
      rcases List.mem_append.mp hls with hls | hls
      · obtain ⟨c, hc, hls⟩ := List.mem_flatMap.mp hls
        exact separated_of_mem_addLexemes hd (h c hc) hls
      · obtain ⟨column, -, rfl⟩ := List.mem_map.mp hls
        exact separated_alterHead t.name (by decide) (by decide) rfl
  | drop t =>
      obtain rfl := List.mem_singleton.mp hls
      rw [List.append_assoc]
      apply separated_ofText_append (by decide)
      exact separated_ofText_append (by split <;> decide) rfl
  | rename t =>
      obtain rfl := List.mem_singleton.mp hls
      exact separated_alterHead t.old (by decide) (by decide) rfl

end Separated

end Dialect

end BoundSql
