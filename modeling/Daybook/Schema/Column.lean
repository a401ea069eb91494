import Daybook.Failure

/-!
# Declared columns

What a schema says of one column, and how columns are put together step by step.

* `Column`, with `Column.text`, `Column.required` and others to build one;
* `isIdentifier`: a text that may stand as a name in a statement;
* `Column.toDef`, `Column.definition`: the column in a statement.
-/

namespace Daybook

/-- The rules for one declared column. -/
structure Column where
  name : String
  type : Sql.ColumnType
  /-- The column is never null. -/
  required : Bool := false
  /-- The text that stands for a missing value. -/
  default : Option String := none
  /-- The texts that the column accepts, if it is restricted; an empty list restricts nothing. -/
  allowed : Option (List String) := none
  unique : Bool := false
  indexed : Bool := false
  primaryKey : Bool := false
  /-- The column holds dates, which are normalized on import. -/
  isDate : Bool := false
  deriving DecidableEq, Inhabited

/-- A character that begins an identifier. -/
def startsIdentifier (c : Char) : Bool := c.isAlpha || c = '_'

/-- A character inside an identifier. -/
def continuesIdentifier (c : Char) : Bool := c.isAlphanum || c = '_'

/-- The text is a name of letters, digits and underscores, without a digit in front. -/
def isIdentifier (name : String) : Bool :=
  match name.toList with
  | c :: rest => startsIdentifier c && rest.all continuesIdentifier
  | [] => false

namespace Column

/-! ## Building columns -/

/-- A column without further rules. -/
def ofType (type : Sql.ColumnType) (name : String) : Column := { name, type }

/-- A column of integers. -/
def integer (name : String) : Column := ofType .integer name

/-- A column of floating-point numbers. -/
def real (name : String) : Column := ofType .real name

/-- A column of texts. -/
def text (name : String) : Column := ofType .text name

/-- A column of byte strings. -/
def blob (name : String) : Column := ofType .blob name

/-- The column holds dates. -/
def date (c : Column) : Column := { c with isDate := true }

/-- A column of texts that are dates. -/
def timestamp (name : String) : Column := (text name).date

/-- The column is never null. -/
def require (c : Column) : Column := { c with required := true }

/-- The column with a default. -/
def withDefault (c : Column) (value : String) : Column := { c with default := some value }

/-- The column restricted to some texts. -/
def oneOf (c : Column) (values : List String) : Column := { c with allowed := some values }

/-- No two rows have the same value in the column. -/
def distinct (c : Column) : Column := { c with unique := true }

/-- The column with an index. -/
def withIndex (c : Column) : Column := { c with indexed := true }

/-- The column is the primary key. -/
def key (c : Column) : Column := { c with primaryKey := true }

/-! ## Columns in statements -/

/-- The column as a statement defines it. -/
def toDef (c : Column) : Sql.ColumnDef where
  name := c.name
  type := c.type.name
  allowed := c.allowed.getD []
  notNull := c.required
  primaryKey := c.primaryKey
  default := c.default.map .text

/-- The text that defines the column. -/
def definition (c : Column) : String := c.toDef.text

/-- The cell of a value for the column. -/
def cell (c : Column) (value : Json) : Except Failure Sql.Cell :=
  match Sql.Cell.forColumn c.type value with
  | .ok cell => .ok cell
  | .error fault => .error (.invalidInput (.bytes fault))

end Column
end Daybook
