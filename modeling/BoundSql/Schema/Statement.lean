import BoundSql.Dialect.Literal
import BoundSql.Schema.Change

/-!
# Statements of schema changes

Nothing is bound in these statements. Names stand in the quotes of the dialect, defaults are
spelled as literals, and each foreign key is declared once, in the place of the dialect.
-/

namespace BoundSql

namespace Dialect

/-- The row of another table that a column refers to. -/
def reference (d : Dialect) (table column : String) : String :=
  "REFERENCES " ++ d.quoteIdentifier table ++ " (" ++ d.quoteIdentifier column ++ ")"

/-- Whether a literal default of a type stands in parentheses. -/
def wrapsDefault (d : Dialect) (type : ColumnType) (v : Value) : Bool :=
  d.literals.wrapBlobDefaults && (type == .json || type == .bytes) && !v.isNull

/-- The default of a column of a type. -/
def defaultText (d : Dialect) (type : ColumnType) : DefaultValue → String
  | .value v =>
      let literal := d.literals.render v
      if d.wrapsDefault type v then "(" ++ literal ++ ")" else literal
  | .currentTimestamp => d.literals.currentTimestamp
  | .expression text => text

/-- A constraint of a column of a type, after a space. The name of a counted type already makes
the column the primary key. -/
def constraintText (d : Dialect) (type : ColumnType) : ColumnConstraint → String
  | .primary => if type = .increments then "" else " PRIMARY KEY"
  | .notNull => " NOT NULL"
  | .unique => " UNIQUE"
  | .default value => " DEFAULT " ++ d.defaultText type value
  | .references table column =>
      match d.foreignKeys with
      | .inline => " " ++ d.reference table column
      | .tableConstraint => ""

/-- The definition of a column. -/
def columnDefinition (d : Dialect) (c : Column) : String :=
  d.quoteIdentifier c.name ++ " " ++ d.types.name c.type ++
    String.join (c.constraints.map (d.constraintText c.type))

/-- The foreign key that a constraint of a column declares beside the columns. -/
def foreignKey? (d : Dialect) (c : Column) : ColumnConstraint → Option String
  | .references table column =>
      match d.foreignKeys with
      | .inline => none
      | .tableConstraint =>
          some ("FOREIGN KEY (" ++ d.quoteIdentifier c.name ++ ") " ++ d.reference table column)
  | _ => none

/-- The foreign keys that a column declares beside the columns. -/
def keysBeside (d : Dialect) (c : Column) : List String :=
  c.constraints.filterMap (d.foreignKey? c)

/-- The statement that creates a table: the columns, then the foreign keys, one a line. -/
def createTable (d : Dialect) (t : CreateTable) : String :=
  let head := "CREATE TABLE " ++ (if t.ifNotExists then "IF NOT EXISTS " else "") ++
    d.quoteIdentifier t.name
  if t.columns.isEmpty then head ++ " ()"
  else
    let entries := t.columns.map d.columnDefinition ++ t.columns.flatMap d.keysBeside
    head ++ " (\n" ++ String.intercalate ",\n" (entries.map ("    " ++ ·)) ++ "\n)"

/-- The statements that add a column to a table, its foreign keys after it. -/
def addColumn (d : Dialect) (table : String) (c : Column) : List String :=
  let head := "ALTER TABLE " ++ d.quoteIdentifier table ++ " ADD "
  (head ++ "COLUMN " ++ d.columnDefinition c) :: (d.keysBeside c).map (head ++ ·)

/-- The statement that drops a column of a table. -/
def dropColumn (d : Dialect) (table column : String) : String :=
  "ALTER TABLE " ++ d.quoteIdentifier table ++ " DROP COLUMN " ++ d.quoteIdentifier column

/-- The statements that alter a table: columns are added before others are dropped. -/
def alterTable (d : Dialect) (t : AlterTable) : List String :=
  t.added.flatMap (d.addColumn t.name) ++ t.dropped.map (d.dropColumn t.name)

/-- The statement that drops a table. -/
def dropTable (d : Dialect) (t : DropTable) : String :=
  "DROP TABLE " ++ (if t.ifExists then "IF EXISTS " else "") ++ d.quoteIdentifier t.name

/-- The statement that renames a table. -/
def renameTable (d : Dialect) (t : RenameTable) : String :=
  "ALTER TABLE " ++ d.quoteIdentifier t.old ++ " RENAME TO " ++ d.quoteIdentifier t.new

/-- The statements of a change, in the order of execution. -/
def schemaStatements (d : Dialect) : SchemaChange → List String
  | .create t => [d.createTable t]
  | .alter t => d.alterTable t
  | .drop t => [d.dropTable t]
  | .rename t => [d.renameTable t]

/-- The statements of changes, one change after the other. -/
def allSchemaStatements (d : Dialect) (changes : List SchemaChange) : List String :=
  changes.flatMap d.schemaStatements

end Dialect

end BoundSql
