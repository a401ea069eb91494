import Daybook.Bytes.Base64
import Daybook.Json.Printer

/-!
# Values of table cells

A cell is null, a signed integer of sixty-four bits, a floating-point number, a text or a byte
string. Cells and JSON values are turned into each other: a byte string is written as its base64
text, which the type of the column tells from a text.

* `Cell`, `ColumnType`;
* `Cell.ofJson`, `Cell.forColumn`: the cell of a JSON value, on its own and for a column;
* `Cell.toJson`: the JSON value of a cell.
-/

namespace Daybook.Sql

-- Powers are those of the core library.
attribute [local instance (high)] instPowNat instNatPowNat Int.instNatPow

/-- A value of a table cell. -/
inductive Cell where
  | null
  | int (n : Int64)
  | real (x : Binary64)
  | text (s : String)
  | blob (b : Bytes)
  deriving DecidableEq, Inhabited

/-- The declared type of a column. -/
inductive ColumnType where
  | integer
  | real
  | text
  | blob
  deriving DecidableEq, Repr, Inhabited

namespace ColumnType

/-- The word that declares the type. -/
def name : ColumnType → String
  | .integer => "INTEGER"
  | .real => "REAL"
  | .text => "TEXT"
  | .blob => "BLOB"

/-- The type of a word. -/
def ofName? (s : String) : Option ColumnType :=
  [integer, real, text, blob].find? fun t => t.name = s

end ColumnType

namespace Cell

/-- The cell of an integer, if it fits. -/
def ofInt? (n : Int) : Option Cell :=
  if -(2 ^ (63 : Nat)) ≤ n ∧ n < 2 ^ (63 : Nat) then some (.int (Int64.ofInt n)) else none

/-- The cell of a JSON value: truth values are 0 and 1, an integer too large for a cell becomes a
floating-point number, arrays and objects are stored as their compact text. -/
def ofJson : Json → Cell
  | .null => .null
  | .bool b => .int (if b then 1 else 0)
  | .int n => (ofInt? n).getD (.real (Binary64.ofInt n))
  | .real x => .real x
  | .str s => .text s
  | .arr items => .text (Json.compact (.arr items))
  | .obj fields => .text (Json.compact (.obj fields))

/-- The cell of a JSON value for a column: in a column of byte strings, a string is read as
base64. -/
def forColumn (type : ColumnType) (j : Json) : Except Base64.Fault Cell :=
  match type, j with
  | .blob, .str s => (Base64.decode s).map .blob
  | _, j => .ok (ofJson j)

/-- The JSON value of a cell; JSON has no infinity and no NaN. -/
def toJson : Cell → Json
  | .null => .null
  | .int n => .int n.toInt
  | .real x => if x.isFinite then .real x else .null
  | .text s => .str s
  | .blob b => .str (Base64.encode b)

end Cell
end Daybook.Sql
