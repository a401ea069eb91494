import Daybook.Json.Fields
import Daybook.Schema.Column

/-!
# Columns as JSON values

* `Column.ofJson`, `Column.toJson`.
-/

namespace Daybook

/-- The type of a word. -/
def Sql.ColumnType.ofJson? (v : Json) : Option Sql.ColumnType :=
  v.choice?.bind Sql.ColumnType.ofName?

/-- The type of a word, which has to name one. -/
def Sql.ColumnType.ofJson (v : Json) : Except Failure Sql.ColumnType :=
  match ofJson? v with
  | some t => .ok t
  | none => .error .serialization

namespace Column

/-- The names of the fields of a column, in their order. -/
def fieldNames : List String :=
  ["name", "storage_type", "required", "default", "enum_values", "unique", "indexed",
    "primary_key", "date_like"]

/-- The column of a JSON value. -/
def ofJson? (v : Json) : Option Column := do
  let field ← v.fields? fieldNames
  let flag (name : String) : Option Bool := Json.optional? (field name) false Json.bool?
  let name ← Json.required? (field "name") Json.str?
  let type ← Json.required? (field "storage_type") Sql.ColumnType.ofJson?
  let required ← flag "required"
  let default ← Json.optional? (field "default") none (Json.nullable? Json.str?)
  let allowed ← Json.optional? (field "enum_values") none (Json.nullable? Json.strs?)
  let unique ← flag "unique"
  let indexed ← flag "indexed"
  let primaryKey ← flag "primary_key"
  let isDate ← flag "date_like"
  pure { name, type, required, default, allowed, unique, indexed, primaryKey, isDate }

/-- The column of a JSON value, which has to be one. -/
def ofJson (v : Json) : Except Failure Column :=
  match ofJson? v with
  | some c => .ok c
  | none => .error .serialization

/-- The column as a JSON value. -/
def toJson (c : Column) : Json :=
  .obj [("date_like", .bool c.isDate),
    ("default", (c.default.map .str).getD .null),
    ("enum_values", (c.allowed.map fun values => .arr (values.map .str)).getD .null),
    ("indexed", .bool c.indexed), ("name", .str c.name), ("primary_key", .bool c.primaryKey),
    ("required", .bool c.required), ("storage_type", .str c.type.name),
    ("unique", .bool c.unique)]

end Column
end Daybook
