import Daybook.Sql.Reader

/-!
# Databases as scripts

A database can be kept as a text: the statements that build it, one on each line.

* `Database.script`: the text of a database;
* `Database.ofScript?`: the database of a text.
-/

namespace Daybook.Sql

/-- The literal of a cell that reads back as the same cell. -/
def Cell.exactLiteral : Cell → String
  | .real x =>
    if x.isFinite then (Json.real x).compact
    else if x.isNegative then "-9e999" else "9e999"
  | c => c.literal

namespace Table

/-- The name of the number of a row that no column hides, if there is one. -/
def rowNumberName? (t : Table) : Option String :=
  ["rowid", "oid", "_rowid_"].find? fun n => (t.position? n).isNone

/-- The text that adds a row, with its number. -/
def rowText (t : Table) (row : Row) : String :=
  let numberName := (if t.numberColumn?.isSome then none else t.rowNumberName?).toList
  let number := numberName.map fun _ => (Cell.int (Int64.ofInt row.id)).literal
  "INSERT INTO " ++ t.name ++ " (" ++ commaList (numberName ++ t.columns.map ColumnDef.name) ++
    ") VALUES (" ++ commaList (number ++ row.cells.map Cell.exactLiteral) ++ ")"

/-- The texts that build a table. -/
def buildTexts (t : Table) : List String :=
  [Database.tableText t] ++ t.rows.map t.rowText ++
    (t.indexes.reverse.filter fun i => !i.automatic).map (Database.indexText t)

end Table

namespace Database

/-- The first line of a script. -/
def scriptHeading : String := "-- daybook"

/-- The text of a database. -/
def script (db : Database) : String :=
  scriptHeading ++ "\n" ++ String.join ((db.tables.flatMap Table.buildTexts).map (· ++ ";\n"))

/-- The database that a text builds. -/
def ofScript? (text : String) : Except Fault Database := do
  let statements ← (readScript text).mapM id
  return (← runAll? {} statements).1

end Database
end Daybook.Sql
