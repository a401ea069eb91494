import Daybook.Sql.Like
import Daybook.Sql.Word

/-!
# Tables

A table has columns, rows in ascending order of their numbers, and indexes. A condition holds for a
row or it does not: a comparison with null is unknown, and unknown counts as false, which is the
same since no group of conditions is ever negated.

* `Row`, `Index`, `Table`;
* `Table.resolve?`: what a name stands for;
* `Condition.holds`: a condition holds for a row;
* `Table.scan?`: the rows for which conditions hold.
-/

namespace Daybook.Sql

/-- A row: its number, and a cell for each column. -/
structure Row where
  id : Int
  cells : List Cell
  deriving DecidableEq, Inhabited

/-- An index of a table. -/
structure Index where
  name : String
  columns : List String
  unique : Bool
  /-- It was made for the primary key. -/
  automatic : Bool := false
  deriving DecidableEq, Inhabited

/-- A table. -/
structure Table where
  name : String
  columns : List ColumnDef
  /-- The rows, in ascending order of their numbers. -/
  rows : List Row := []
  /-- The indexes, newest first. -/
  indexes : List Index := []
  deriving DecidableEq, Inhabited

/-! ## Names -/

/-- What a name in a statement stands for. -/
inductive Reference where
  /-- The cell of a column. -/
  | cell (position : Nat) (affinity : Affinity)
  /-- The number of the row. -/
  | number
  | constant (value : Cell)
  deriving DecidableEq, Inhabited

namespace Reference

/-- The value that a reference has in a row. -/
def value (r : Reference) (row : Row) : Cell :=
  match r with
  | .cell i _ => row.cells.getD i .null
  | .number => .int (Int64.ofInt row.id)
  | .constant c => c

/-- The affinity of a reference. -/
def affinity : Reference → Affinity
  | .cell _ a => a
  | .number => .integer
  | .constant _ => .blob

end Reference

/-- The names of the number of a row. -/
def isRowNumberName (name : String) : Bool :=
  ["ROWID", "OID", "_ROWID_"].contains (upper name)

namespace Table

/-- The position of a column. -/
def position? (t : Table) (column : String) : Option Nat :=
  t.columns.findIdx? fun c => sameName c.name column

/-- What a name stands for: a column, else the number of the row, else a truth value. -/
def resolve? (t : Table) (name : String) : Option Reference :=
  match t.position? name with
  | some i => some (.cell i ((t.columns[i]?.map ColumnDef.affinity).getD .blob))
  | none =>
    if isRowNumberName name then some .number
    else if upper name = "TRUE" then some (.constant (.int 1))
    else if upper name = "FALSE" then some (.constant (.int 0))
    else if upper name = "NULL" then some (.constant .null)
    else none

/-- The column is the number of the row under a name of its own. -/
def isNumberColumn (c : ColumnDef) : Bool := c.primaryKey && upper c.type = "INTEGER"

/-- The position of the column that is the number of the row. -/
def numberColumn? (t : Table) : Option Nat := t.columns.findIdx? isNumberColumn

end Table

/-! ## Conditions -/

/-- A comparison, where both sides are known. -/
def Comparison.test (op : Comparison) (left right : Cell) : Bool :=
  match op with
  | .eq => left.order right == .eq
  | .ne => left.order right != .eq
  | .gt => left.order right == .gt
  | .ge => left.order right != .lt
  | .lt => left.order right == .lt
  | .le => left.order right != .gt
  | .like =>
    match left.likeText?, right.likeText? with
    | some text, some pattern => Sql.like pattern text
    | _, _ => false

/-- A comparison of a value with another; it does not hold if one of them is null. -/
def Reference.compare (r : Reference) (op : Comparison) (row : Row) (right : Cell) : Bool :=
  let left := r.value row
  if left.isNull || right.isNull then false
  else if op = .like then op.test left right
  else
    let (a, b) := r.affinity.align left right
    op.test a b

/-- A value is among others, or not; unknown, and so false, where null decides. -/
def Reference.isMember (r : Reference) (negated : Bool) (row : Row) (values : List Cell) : Bool :=
  if negated then
    values.isEmpty ||
      (!(r.value row).isNull && !values.any Cell.isNull &&
        !values.any fun v => r.compare .eq row v)
  else values.any fun v => r.compare .eq row v

namespace Condition

mutual

/-- The condition holds for the row. -/
def holds (t : Table) (row : Row) : Condition → Bool
  | .compare field op value => ((t.resolve? field).getD (.constant .null)).compare op row value.value
  | .member field negated values =>
    ((t.resolve? field).getD (.constant .null)).isMember negated row (values.map Operand.value)
  | .all conditions => allHold t row conditions
  | .any conditions => someHolds t row conditions
termination_by structural c => c

/-- All of the conditions hold for the row. -/
def allHold (t : Table) (row : Row) : List Condition → Bool
  | [] => true
  | c :: rest => holds t row c && allHold t row rest
termination_by structural cs => cs

/-- One of the conditions holds for the row. -/
def someHolds (t : Table) (row : Row) : List Condition → Bool
  | [] => false
  | c :: rest => holds t row c || someHolds t row rest
termination_by structural cs => cs

end

mutual

/-- Deciding the condition for the row meets a pattern that is too long. -/
def trips (t : Table) (row : Row) : Condition → Bool
  | .compare _ op value => op = .like && maxPatternBytes < value.value.patternBytes
  | .member _ _ _ => false
  | .all conditions => allTrip t row conditions
  | .any conditions => someTrips t row conditions
termination_by structural c => c

/-- Deciding from left to right whether all of the conditions hold meets a pattern that is too
long. -/
def allTrip (t : Table) (row : Row) : List Condition → Bool
  | [] => false
  | c :: rest => trips t row c || (holds t row c && allTrip t row rest)
termination_by structural cs => cs

/-- Deciding from left to right whether one of the conditions holds meets a pattern that is too
long. -/
def someTrips (t : Table) (row : Row) : List Condition → Bool
  | [] => false
  | c :: rest => trips t row c || (!holds t row c && someTrips t row rest)
termination_by structural cs => cs

end

mutual

/-- The names in a condition, from left to right. -/
def fields : Condition → List String
  | .compare field _ _ => [field]
  | .member field _ _ => [field]
  | .all conditions => fieldsList conditions
  | .any conditions => fieldsList conditions
termination_by structural c => c

/-- The names in several conditions, from left to right. -/
def fieldsList : List Condition → List String
  | [] => []
  | c :: rest => fields c ++ fieldsList rest
termination_by structural cs => cs

end

end Condition

namespace Table

/-- The rows of a list for which all conditions hold, in their order; at most `limit` of them. -/
def scanRows? (t : Table) (conditions : List Condition) :
    Option Nat → List Row → Except Fault (List Row)
  | some 0, _ => .ok []
  | _, [] => .ok []
  | limit, row :: rest =>
    if Condition.allTrip t row conditions then .error .patternTooLong
    else if Condition.allHold t row conditions then
      (scanRows? t conditions (limit.map (· - 1)) rest).map (row :: ·)
    else scanRows? t conditions limit rest

/-- The rows of the table for which all conditions hold; at most `limit` of them. -/
def scan? (t : Table) (conditions : List Condition) (limit : Option Nat) :
    Except Fault (List Row) :=
  t.scanRows? conditions limit t.rows

/-- The fault of the first name that stands for nothing. -/
def unknownName? (t : Table) (names : List String) : Option Fault :=
  (names.find? fun n => (t.resolve? n).isNone).map .noSuchColumn

/-- The row with a number. -/
def row? (t : Table) (id : Int) : Option Row := t.rows.find? fun r => r.id = id

/-! ## Order -/

/-- The order of two rows under a list of sort terms. -/
def compareRows (t : Table) : List (String × Direction) → Row → Row → Ordering
  | [], _, _ => .eq
  | (name, direction) :: rest, a, b =>
    let r := (t.resolve? name).getD (.constant .null)
    let o := (r.value a).order (r.value b)
    (match direction with
      | .ascending => o
      | .descending => o.swap).then (t.compareRows rest a b)

/-- The rows sorted; rows that the terms do not tell apart stay in order. -/
def sortRows (t : Table) (order : List (String × Direction)) (rows : List Row) : List Row :=
  if order.isEmpty then rows
  else rows.mergeSort fun a b => t.compareRows order a b != .gt

/-- The record of a row: its cells under the names of the columns. -/
def record (t : Table) (row : Row) : Record :=
  KeyMap.ofList ((t.columns.map ColumnDef.name).zip (row.cells.map Cell.toJson))

end Table
end Daybook.Sql
