import Daybook.Sql.Table

/-!
# Changes of a table

Rows are added, changed and removed one at a time, in order; a change that breaks a constraint is
refused with its cause. Constraints are looked at in this order: the number of the row, columns
that must not be null, lists of accepted texts, then uniqueness, newest index first.

* `Table.insertRow?`, `Table.insertRows?`;
* `Table.updateRow?`, `Table.updateRows?`;
* `Table.deleteRows`.
-/

namespace Daybook.Sql

-- Powers are those of the core library.
attribute [local instance (high)] instPowNat instNatPowNat Int.instNatPow

/-! ## Row numbers -/

/-- The greatest row number. -/
def maxRowId : Int := 2 ^ (63 : Nat) - 1

/-- The integer that a cell stands for as a row number. -/
def rowId? (c : Cell) : Option Int :=
  match Affinity.toNumber c with
  | .int n => some n.toInt
  | _ => none

namespace Table

/-- The number of the next row: one more than the greatest so far; after the greatest possible
number, the least free one from one on. -/
def nextRowId (t : Table) : Int :=
  match t.rows.getLast? with
  | none => 1
  | some last => if last.id < maxRowId then last.id + 1 else leastFree 1 t.rows
where
  /-- The least number from `n` on that no row of an ascending list has. -/
  leastFree (n : Int) : List Row → Int
    | [] => n
    | r :: rest => if r.id = n then leastFree (n + 1) rest else leastFree n rest

/-- The rows with one more, at its place. -/
def place (row : Row) : List Row → List Row
  | [] => [row]
  | r :: rest => if row.id < r.id then row :: r :: rest else r :: place row rest

/-- The table without the row of a number. -/
def without (t : Table) (id : Int) : Table := { t with rows := t.rows.filter fun r => r.id ≠ id }

/-- The table with a row added. -/
def placeRow (t : Table) (row : Row) : Table := { t with rows := place row t.rows }

/-! ## Constraints -/

/-- The first column among those looked at that is null but must not be; the number of the row is
never null. -/
def nullFault? (t : Table) (looksAt : Nat → Bool) (cells : List Cell) : Option Fault :=
  ((t.columns.zip cells).zipIdx.find? fun ((c, v), i) =>
    looksAt i && c.notNull && v.isNull && !isNumberColumn c).map
      fun ((c, _), _) => .notNull t.name c.name

/-- A column accepts a cell. -/
def accepts (c : ColumnDef) (v : Cell) : Bool :=
  c.allowed.isEmpty || v.isNull ||
    c.allowed.any fun a =>
      let (x, y) := c.affinity.align v (.text a)
      x.same y

/-- The first column among those looked at that does not accept its cell. -/
def checkFault? (t : Table) (looksAt : Nat → Bool) (cells : List Cell) : Option Fault :=
  ((t.columns.zip cells).zipIdx.find? fun ((c, v), i) => looksAt i && !accepts c v).map
    fun ((c, _), _) => .check c.checkText

/-- The values of the columns of an index. -/
def keyOf (t : Table) (index : Index) (cells : List Cell) : List Cell :=
  index.columns.map fun name => ((t.position? name).bind fun i => cells[i]?).getD .null

/-- Two keys are equal; null is equal to nothing. -/
def sameKey (a b : List Cell) : Bool :=
  (a.zip b).all fun (x, y) => !x.isNull && !y.isNull && x.same y

/-- A row, other than the one of the given number, that has the same key in a unique index. -/
def conflict? (t : Table) (index : Index) (id : Option Int) (cells : List Cell) : Option Row :=
  t.rows.find? fun r =>
    some r.id ≠ id && sameKey (t.keyOf index r.cells) (t.keyOf index cells)

/-- The table without the rows that stand in the way of a new one; a fault at the first of them if
rows are not replaced. -/
def settleUnique? (replace : Bool) (id : Option Int) (cells : List Cell) :
    List Index → Table → Except Fault Table
  | [], t => .ok t
  | index :: rest, t =>
    match if index.unique then t.conflict? index id cells else none with
    | none => settleUnique? replace id cells rest t
    | some r =>
      if replace then settleUnique? replace id cells rest (t.without r.id)
      else .error (.unique t.name (index.columns))

/-- The fault of a row number that is taken. -/
def numberTaken (t : Table) : Fault :=
  .unique t.name [((t.numberColumn?.bind fun i => t.columns[i]?).map ColumnDef.name).getD "rowid"]

/-- The fault of a constraint that does not look at other rows. -/
def cellFault? (t : Table) (looksAt : Nat → Bool) (cells : List Cell) : Option Fault :=
  (t.nullFault? looksAt cells).or (t.checkFault? looksAt cells)

/-! ## Insertions -/

/-- The cells of a new row before they are stored: what is given, else the default. -/
def filled (t : Table) (given : Nat → Option Cell) : List Cell :=
  t.columns.zipIdx.map fun (c, i) => (given i).getD (c.default.getD .null)

/-- The cell that a column stores; where rows are replaced, a default stands in for a null that
must not be. -/
def storedCell (replace : Bool) (c : ColumnDef) (v : Cell) : Cell :=
  c.affinity.store (if replace && c.notNull && v.isNull then c.default.getD .null else v)

/-- The number of a new row: the one that is asked for, else the next. -/
def newRowId? (t : Table) (asked : Option Cell) : Except Fault Int :=
  match asked with
  | none | some .null => .ok t.nextRowId
  | some c =>
    match rowId? c with
    | some n => .ok n
    | none => .error .mismatch

/-- Adds a row. `given` holds the cells by the positions of their columns, `number` the number that
is asked for. -/
def insertRow? (t : Table) (replace : Bool) (given : Nat → Option Cell) (number : Option Cell) :
    Except Fault (Table × Int) := do
  let cells := t.filled given
  let id ← t.newRowId? number
  let cells := (t.columns.zip cells).map fun (c, v) =>
    if isNumberColumn c then .int (Int64.ofInt id) else storedCell replace c v
  if let some fault := t.cellFault? (fun _ => true) cells then throw fault
  if (t.row? id).isSome && !replace then throw t.numberTaken
  let t ← settleUnique? replace none cells t.indexes (t.without id)
  pure (t.placeRow ⟨id, cells⟩, id)

/-- Adds several rows, each a list of cells for the columns at the given positions; answers the
number of the last. The number of a row may be given more than once, under names of its own and as
a column; the last one counts. -/
def insertRows? (replace : Bool) (positions : List (Option Nat)) :
    Table → Int → List (List Cell) → Except Fault (Table × Int)
  | t, last, [] => .ok (t, last)
  | t, _, values :: rest => do
    let pairs := positions.zip values
    let given (i : Nat) : Option Cell := (pairs.find? fun p => p.1 = some i).map Prod.snd
    let number := (pairs.findRev? fun p => p.1 = none || p.1 = t.numberColumn?).map Prod.snd
    let (t, id) ← t.insertRow? replace given number
    insertRows? replace positions t id rest

/-! ## Updates -/

/-- The cells of a row after assignments, before they are stored; a later assignment of a column
wins. Values are taken from the row before. -/
def assigned (t : Table) (row : Row) (assignments : List Assignment) : List Cell :=
  assignments.foldl (fun cells a =>
    match t.position? a.column, a with
    | some i, .set _ v => cells.set i v.value
    | some i, .increment _ => cells.set i (row.cells.getD i .null).increment
    | none, _ => cells) row.cells

/-- A column is assigned. -/
def isAssigned (t : Table) (assignments : List Assignment) (i : Nat) : Bool :=
  assignments.any fun a => t.position? a.column = some i

/-- The number that assignments give to a row by a name of its own. -/
def assignedNumber? (t : Table) (row : Row) (assignments : List Assignment) : Option Cell :=
  match assignments.reverse.find? fun a =>
    (t.position? a.column).isNone && isRowNumberName a.column with
  | some (.set _ v) => some v.value
  | some (.increment _) => some (Cell.int (Int64.ofInt row.id)).increment
  | none => none

/-- Changes a row. -/
def updateRow? (t : Table) (assignments : List Assignment) (row : Row) : Except Fault Table := do
  let cells := t.assigned row assignments
  let number := match t.numberColumn? with
    | some i =>
      if t.isAssigned assignments i then cells[i]? else t.assignedNumber? row assignments
    | none => t.assignedNumber? row assignments
  let id ← match number with
    | none => pure row.id
    | some c =>
      match rowId? c with
      | some n => pure n
      | none => throw .mismatch
  let cells := (t.columns.zip cells).map fun (c, v) =>
    if isNumberColumn c then .int (Int64.ofInt id) else c.affinity.store v
  if let some fault := t.cellFault? (t.isAssigned assignments) cells then throw fault
  if id ≠ row.id && (t.row? id).isSome then throw t.numberTaken
  let changed (index : Index) : Bool := id ≠ row.id ||
    index.columns.any fun name =>
      match t.position? name with
      | some i => t.isAssigned assignments i
      | none => false
  let t ← settleUnique? false (some row.id) cells (t.indexes.filter changed) t
  pure ((t.without row.id).placeRow ⟨id, cells⟩)

/-- Changes several rows, one after the other. -/
def updateRows? (assignments : List Assignment) : Table → List Row → Except Fault Table
  | t, [] => .ok t
  | t, row :: rest => do
    let t ← t.updateRow? assignments row
    updateRows? assignments t rest

/-! ## Deletions -/

/-- The table without some rows. -/
def deleteRows (t : Table) (rows : List Row) : Table :=
  { t with rows := t.rows.filter fun r => !rows.any fun d => d.id = r.id }

end Table
end Daybook.Sql
