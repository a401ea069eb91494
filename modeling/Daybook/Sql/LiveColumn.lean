import Daybook.Json.Fields
import Daybook.Sql.Database

/-!
# Live columns

What a database tells of the columns and indexes of a table that it has.

* `LiveColumn`, `Database.liveColumns`;
* `Database.hasTable`, `Database.indexNames`.
-/

namespace Daybook.Sql

/-- A column that a table has. -/
structure LiveColumn where
  name : String
  type : String
  notNull : Bool
  /-- The text of the default. -/
  default : Option String
  primaryKey : Bool
  deriving DecidableEq, Inhabited

namespace LiveColumn

/-- The column that a definition makes. -/
def ofDef (c : ColumnDef) : LiveColumn :=
  ⟨c.name, c.type, c.notNull, c.default.map Cell.literal, c.primaryKey⟩

/-- The column of a JSON value. -/
def ofJson? (v : Json) : Option LiveColumn := do
  let field ← v.fields? ["name", "declared_type", "not_null", "default_value", "primary_key"]
  let name ← Json.required? (field "name") Json.str?
  let type ← Json.required? (field "declared_type") Json.str?
  let notNull ← Json.required? (field "not_null") Json.bool?
  let default ← Json.optional? (field "default_value") none (Json.nullable? Json.str?)
  let primaryKey ← Json.required? (field "primary_key") Json.bool?
  pure ⟨name, type, notNull, default, primaryKey⟩

/-- The column as a JSON value. -/
def toJson (c : LiveColumn) : Json :=
  .obj [("declared_type", .str c.type), ("default_value", (c.default.map .str).getD .null),
    ("name", .str c.name), ("not_null", .bool c.notNull), ("primary_key", .bool c.primaryKey)]

end LiveColumn

namespace Database

/-- The columns of a table; none if there is no table of the name. -/
def liveColumns (db : Database) (table : String) : List LiveColumn :=
  match db.source? table with
  | .ok t => t.columns.map LiveColumn.ofDef
  | .error _ => []

/-- There is a table of exactly this name. -/
def hasTable (db : Database) (table : String) : Bool := db.tables.any fun t => t.name = table

/-- The names of the indexes of a table, newest first. -/
def indexNames (db : Database) (table : String) : List String :=
  match db.table? table with
  | some t => t.indexes.map Index.name
  | none => []

end Database
end Daybook.Sql
