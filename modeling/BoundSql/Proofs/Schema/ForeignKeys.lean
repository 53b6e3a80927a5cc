import BoundSql.Proofs.Schema.Quoted

/-!
# Foreign keys

A dialect declares foreign keys either in the definitions of their columns or beside the columns.
What a column's definition says of its keys and which keys stand beside it is decided in two places;
together they declare every key once, where the dialect wants it and in the order of the
constraints.
-/

namespace BoundSql

namespace Column

/-- The table and the column that each foreign key of a column refers to, in order. -/
def targets (c : Column) : List (String × String) :=
  c.constraints.filterMap ColumnConstraint.target?

/-- The column without its foreign keys. -/
def withoutKeys (c : Column) : Column :=
  { c with constraints := c.constraints.filter fun k => k.target?.isNone }

end Column

namespace Dialect

variable (d : Dialect)

/-- A foreign key as it stands in the definition of its column. -/
def keyInColumn (target : String × String) : String :=
  " REFERENCES " ++ d.quoteIdentifier target.1 ++ " (" ++ d.quoteIdentifier target.2 ++ ")"

/-- A foreign key of a column as it stands beside the columns. -/
def keyBeside (column : String) (target : String × String) : String :=
  "FOREIGN KEY (" ++ d.quoteIdentifier column ++ ")" ++ d.keyInColumn target

/-- The statement that creates a table of some entries, one a line. -/
def creation (t : CreateTable) (entries : List String) : String :=
  "CREATE TABLE " ++ (if t.ifNotExists then "IF NOT EXISTS " else "") ++
    d.quoteIdentifier t.name ++ " (\n" ++
    String.intercalate ",\n" (entries.map ("    " ++ ·)) ++ "\n)"

/-- The statement that adds an entry to a table. -/
def addition (table entry : String) : String :=
  "ALTER TABLE " ++ d.quoteIdentifier table ++ " ADD " ++ entry

/-- The statement that drops a column of a table. -/
def removal (table column : String) : String :=
  "ALTER TABLE " ++ d.quoteIdentifier table ++ " DROP COLUMN " ++ d.quoteIdentifier column

/-- Foreign keys stand in the definitions of their columns and nowhere else. -/
structure KeysInColumns : Prop where
  /-- A key stands behind what the constraints in front of it give and in front of what those
  behind it give. -/
  columnDefinition_key : ∀ (name : String) (type : ColumnType)
    (front behind : List ColumnConstraint) (table column : String), ∃ text,
      d.columnDefinition ⟨name, type, front ++ behind⟩ =
        d.columnDefinition ⟨name, type, front⟩ ++ text ∧
      d.columnDefinition ⟨name, type, front ++ .references table column :: behind⟩ =
        d.columnDefinition ⟨name, type, front⟩ ++ d.keyInColumn (table, column) ++ text
  schemaStatements_create : ∀ t : CreateTable, t.columns ≠ [] →
    d.schemaStatements (.create t) = [d.creation t (t.columns.map d.columnDefinition)]
  schemaStatements_alter : ∀ t : AlterTable,
    d.schemaStatements (.alter t) =
      t.added.map (fun c => d.addition t.name ("COLUMN " ++ d.columnDefinition c)) ++
        t.dropped.map (d.removal t.name)

/-- Foreign keys stand beside the columns and nowhere else: behind all columns of a new table, and
directly behind a column that is added. -/
structure KeysBesideColumns : Prop where
  columnDefinition_withoutKeys : ∀ c : Column,
    d.columnDefinition c = d.columnDefinition c.withoutKeys
  schemaStatements_create : ∀ t : CreateTable, t.columns ≠ [] →
    d.schemaStatements (.create t) =
      [d.creation t (t.columns.map d.columnDefinition ++
        t.columns.flatMap fun c => c.targets.map (d.keyBeside c.name))]
  schemaStatements_alter : ∀ t : AlterTable,
    d.schemaStatements (.alter t) =
      (t.added.flatMap fun c => d.addition t.name ("COLUMN " ++ d.columnDefinition c) ::
        c.targets.map fun target => d.addition t.name (d.keyBeside c.name target)) ++
      t.dropped.map (d.removal t.name)

variable {d}

/-- Constraints add to the definition of a column one after the other. -/
theorem columnDefinition_append (name : String) (type : ColumnType)
    (front behind : List ColumnConstraint) :
    d.columnDefinition ⟨name, type, front ++ behind⟩ =
      d.columnDefinition ⟨name, type, front⟩ ++
        String.join (behind.map (d.constraintText type)) := by
  simp only [columnDefinition, List.map_append, String.join_append, String.append_assoc]

theorem constraintText_references_inline (h : d.foreignKeys = .inline) (type : ColumnType)
    (table column : String) :
    d.constraintText type (.references table column) = d.keyInColumn (table, column) := by
  unfold constraintText reference keyInColumn
  simp [h, ← String.toList_inj]

/-- Where foreign keys stand beside the columns, they leave nothing among the constraints. -/
theorem join_constraintText_filter (h : d.foreignKeys = .tableConstraint) (type : ColumnType)
    (constraints : List ColumnConstraint) :
    String.join ((constraints.filter fun k => k.target?.isNone).map (d.constraintText type)) =
      String.join (constraints.map (d.constraintText type)) := by
  induction constraints with
  | nil => rfl
  | cons k rest ih =>
      cases k with
      | references table column =>
          have hnone : d.constraintText type (.references table column) = "" := by
            rw [constraintText, h]
          simpa [hnone, ColumnConstraint.target?] using ih
      | _ => simpa [ColumnConstraint.target?] using ih

theorem columnDefinition_withoutKeys (h : d.foreignKeys = .tableConstraint) (c : Column) :
    d.columnDefinition c = d.columnDefinition c.withoutKeys := by
  rw [columnDefinition, columnDefinition, Column.withoutKeys, join_constraintText_filter h]

theorem keysBeside_inline (h : d.foreignKeys = .inline) : d.keysBeside = fun _ => [] := by
  funext c
  rw [keysBeside, List.filterMap_eq_nil_iff]
  intro k _
  cases k with
  | references table column => rw [foreignKey?, h]
  | _ => rfl

theorem keysBeside_tableConstraint (h : d.foreignKeys = .tableConstraint) :
    d.keysBeside = fun c => c.targets.map (d.keyBeside c.name) := by
  funext c
  rw [keysBeside, Column.targets, List.map_filterMap]
  apply List.filterMap_congr
  intro k _
  cases k with
  | references table column =>
      unfold foreignKey? reference keyBeside keyInColumn
      simp [h, ColumnConstraint.target?, ← String.toList_inj]
  | _ => rfl

/-- A table with columns is created from their definitions and the foreign keys beside them. -/
theorem createTable_eq_creation {t : CreateTable} (h : t.columns ≠ []) :
    d.createTable t =
      d.creation t (t.columns.map d.columnDefinition ++ t.columns.flatMap d.keysBeside) := by
  unfold createTable creation
  simp only [List.isEmpty_iff, h, if_false]

/-- A table is altered by adding each column, its foreign keys behind it, and then dropping
others. -/
theorem alterTable_eq_additions (t : AlterTable) :
    d.alterTable t =
      (t.added.flatMap fun c => d.addition t.name ("COLUMN " ++ d.columnDefinition c) ::
        (d.keysBeside c).map (d.addition t.name)) ++ t.dropped.map (d.removal t.name) := by
  have hadd : d.addColumn t.name = fun c =>
      d.addition t.name ("COLUMN " ++ d.columnDefinition c) ::
        (d.keysBeside c).map (d.addition t.name) := by
    funext c
    unfold addColumn addition
    simp only [String.append_assoc]
  have hdrop : d.dropColumn t.name = d.removal t.name := rfl
  rw [alterTable, hadd, hdrop]

/-- There is one addition for each added column and one for each foreign key beside it. -/
theorem length_additions (table : String) (added : List Column) :
    (added.flatMap fun c => d.addition table ("COLUMN " ++ d.columnDefinition c) ::
      (d.keysBeside c).map (d.addition table)).length =
    added.length + (added.flatMap d.keysBeside).length := by
  induction added with
  | nil => rfl
  | cons c rest ih =>
      simp only [List.flatMap_cons, List.length_append, List.length_cons, List.length_map, ih]
      omega

theorem length_alterTable (t : AlterTable) :
    (d.alterTable t).length =
      t.added.length + t.dropped.length + (t.added.flatMap d.keysBeside).length := by
  rw [alterTable_eq_additions, List.length_append, length_additions, List.length_map]
  omega

theorem keysInColumns (h : d.foreignKeys = .inline) : d.KeysInColumns where
  columnDefinition_key name type front behind table column := by
    refine ⟨String.join (behind.map (d.constraintText type)),
      columnDefinition_append name type front behind, ?_⟩
    rw [columnDefinition_append, List.map_cons, String.join_cons,
      constraintText_references_inline h, String.append_assoc]
  schemaStatements_create t hcolumns := by
    rw [schemaStatements, createTable_eq_creation hcolumns, keysBeside_inline h,
      List.flatMap_eq_nil_iff.mpr fun _ _ => rfl, List.append_nil]
  schemaStatements_alter t := by
    rw [schemaStatements, alterTable_eq_additions, keysBeside_inline h,
      List.map_eq_flatMap (l := t.added)]
    rfl

theorem keysBesideColumns (h : d.foreignKeys = .tableConstraint) : d.KeysBesideColumns where
  columnDefinition_withoutKeys := columnDefinition_withoutKeys h
  schemaStatements_create t hcolumns := by
    rw [schemaStatements, createTable_eq_creation hcolumns, keysBeside_tableConstraint h]
  schemaStatements_alter t := by
    rw [schemaStatements, alterTable_eq_additions, keysBeside_tableConstraint h]
    simp only [List.map_map, Function.comp_def]

/-- Every foreign key is declared once, in the place of the dialect. A table is altered by one
statement for each column that it gains or loses, and one for each key that is declared beside an
added column. The statements of several changes follow one another. -/
theorem foreign_keys_declared_once (d : Dialect) :
    (match d.foreignKeys with
      | .inline => d.KeysInColumns
      | .tableConstraint => d.KeysBesideColumns) ∧
    (∀ t : AlterTable, (d.schemaStatements (.alter t)).length =
      t.added.length + t.dropped.length +
        match d.foreignKeys with
        | .inline => 0
        | .tableConstraint => (t.added.flatMap Column.targets).length) ∧
    ∀ changes : List SchemaChange,
      d.allSchemaStatements changes = (changes.map d.schemaStatements).flatten := by
  refine ⟨?_, fun t => ?_, fun changes => List.flatMap_def⟩
  · cases h : d.foreignKeys with
    | inline => exact keysInColumns h
    | tableConstraint => exact keysBesideColumns h
  · rw [schemaStatements, length_alterTable]
    cases h : d.foreignKeys with
    | inline => simp [keysBeside_inline h]
    | tableConstraint => simp [keysBeside_tableConstraint h]

/-- Two foreign keys of a column with another constraint between them, beside the columns and in
the definition of the column: in a new table, and in one that gains this column and another one and
loses two. -/
theorem foreign_keys_declared_around_constraint :
    let c : Column := ⟨"a", .int, [.references "t" "b", .notNull, .references "u" "c"]⟩
    let t : CreateTable := ⟨"s", [c, ⟨"d", .int, []⟩], false⟩
    let a : AlterTable := ⟨"s", [c, ⟨"d", .int, []⟩], ["e", "f"]⟩
    t.columns ≠ [] ∧
    Dialect.mysql.schemaStatements (.create t) = [Dialect.mysql.creation t
      ["\x60a\x60 INT NOT NULL", "\x60d\x60 INT",
        "FOREIGN KEY (\x60a\x60) REFERENCES \x60t\x60 (\x60b\x60)",
        "FOREIGN KEY (\x60a\x60) REFERENCES \x60u\x60 (\x60c\x60)"]] ∧
    Dialect.mysql.schemaStatements (.alter a) =
      ["ALTER TABLE \x60s\x60 ADD COLUMN \x60a\x60 INT NOT NULL",
        "ALTER TABLE \x60s\x60 ADD FOREIGN KEY (\x60a\x60) REFERENCES \x60t\x60 (\x60b\x60)",
        "ALTER TABLE \x60s\x60 ADD FOREIGN KEY (\x60a\x60) REFERENCES \x60u\x60 (\x60c\x60)",
        "ALTER TABLE \x60s\x60 ADD COLUMN \x60d\x60 INT",
        "ALTER TABLE \x60s\x60 DROP COLUMN \x60e\x60",
        "ALTER TABLE \x60s\x60 DROP COLUMN \x60f\x60"] ∧
    Dialect.postgres.schemaStatements (.create t) = [Dialect.postgres.creation t
      ["\"a\" INTEGER REFERENCES \"t\" (\"b\") NOT NULL REFERENCES \"u\" (\"c\")",
        "\"d\" INTEGER"]] ∧
    Dialect.postgres.schemaStatements (.alter a) =
      ["ALTER TABLE \"s\" ADD COLUMN \"a\" INTEGER REFERENCES \"t\" (\"b\") NOT NULL " ++
          "REFERENCES \"u\" (\"c\")",
        "ALTER TABLE \"s\" ADD COLUMN \"d\" INTEGER",
        "ALTER TABLE \"s\" DROP COLUMN \"e\"",
        "ALTER TABLE \"s\" DROP COLUMN \"f\""] := by
  intro c t a
  have hcolumns : t.columns ≠ [] := by simp [t]
  have hbeside : Dialect.mysql.KeysBesideColumns := Dialect.mysql.foreign_keys_declared_once.1
  have hinside : Dialect.postgres.KeysInColumns := Dialect.postgres.foreign_keys_declared_once.1
  refine ⟨hcolumns, ?_, ?_, ?_, ?_⟩
  · rw [hbeside.schemaStatements_create t hcolumns]
    decide +kernel
  · rw [hbeside.schemaStatements_alter a]
    decide +kernel
  · rw [hinside.schemaStatements_create t hcolumns]
    decide +kernel
  · rw [hinside.schemaStatements_alter a]
    decide +kernel

end Dialect

end BoundSql
