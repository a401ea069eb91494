import Daybook.Sql.Change

/-!
# Databases

A database is a list of tables in the order of their creation. A statement is first prepared, that
is, its text and its names are looked at, and then run. It succeeds as a whole or changes nothing.

* `Database`, `Database.run?`: the effect of a statement;
* `Outcome`: what a statement answers;
* `Database.runAll?`: several statements, all or none;
* `Database.catalog`: the tables and indexes as a table.
-/

namespace Daybook.Sql

/-- A database. -/
structure Database where
  tables : List Table := []
  deriving DecidableEq, Inhabited

/-- What a statement answers. -/
inductive Outcome where
  /-- The rows of a query. -/
  | rows (records : List Record)
  /-- The number of rows that were changed; after an insertion, the number of the last new row. -/
  | changed (count : Nat) (lastRow : Option Int)
  | done
  deriving Inhabited

namespace Database

/-! ## Tables by name -/

/-- The table of a name. -/
def table? (db : Database) (name : String) : Option Table :=
  db.tables.find? fun t => sameName t.name name

/-- The database with a table in place of the one of its name. -/
def replaceTable (db : Database) (t : Table) : Database :=
  { db with tables := db.tables.map fun u => if sameName u.name t.name then t else u }

/-- The table that has an index of a name. -/
def indexOwner? (db : Database) (index : String) : Option Table :=
  db.tables.find? fun t => t.indexes.any fun i => sameName i.name index

/-- Names that the database keeps for itself begin so. -/
def isReservedName (name : String) : Bool := "SQLITE_".toList.isPrefixOf (upper name).toList

/-- The name of the table of tables and indexes. -/
def catalogName : String := "sqlite_master"

/-- The name is one of the table of tables and indexes. -/
def isCatalogName (name : String) : Bool :=
  sameName name catalogName || sameName name "sqlite_schema"

/-! ## The catalogue -/

/-- The text that a table is kept with. -/
def tableText (t : Table) : String := "CREATE TABLE " ++ t.name ++ " " ++ columnsText t.columns

/-- The text that an index is kept with. -/
def indexText (t : Table) (i : Index) : String :=
  (Statement.createIndex i.unique false i.name t.name i.columns).text

/-- The entries of a table in the catalogue. -/
def catalogCells (t : Table) : List (List Cell) :=
  [.text "table", .text t.name, .text t.name, .int 0, .text (tableText t)] ::
    t.indexes.reverse.map fun i =>
      [.text "index", .text i.name, .text t.name, .int 0,
        if i.automatic then .null else .text (indexText t i)]

/-- The tables and indexes as a table. -/
def catalog (db : Database) : Table where
  name := catalogName
  columns := [⟨"type", "TEXT", [], false, false, none⟩, ⟨"name", "TEXT", [], false, false, none⟩,
    ⟨"tbl_name", "TEXT", [], false, false, none⟩, ⟨"rootpage", "INT", [], false, false, none⟩,
    ⟨"sql", "TEXT", [], false, false, none⟩]
  rows := (db.tables.flatMap catalogCells).zipIdx.map fun (cells, i) =>
    { id := i + 1
      cells := match cells with
        | type :: name :: table :: _ :: rest =>
          type :: name :: table :: .int (Int64.ofNat (i + 2)) :: rest
        | other => other }

/-- The table that a query is about. -/
def source? (db : Database) (name : String) : Except Fault Table :=
  if isCatalogName name then .ok db.catalog
  else
    match db.table? name with
    | some t => .ok t
    | none => .error (.noSuchTable name)

/-- The table that a change is about. -/
def target? (db : Database) (name : String) : Except Fault Table :=
  if isCatalogName name then .error (.notModifiable catalogName)
  else db.source? name

/-! ## Making and changing tables -/

/-- The first fault in the columns of a new table. -/
def columnsFault? (checkNames : Bool) : List ColumnDef → List ColumnDef → Option Fault
  | _, [] => none
  | before, c :: rest =>
    match c.clash? (!before.isEmpty) with
    | some fault => some fault
    | none =>
      if checkNames && before.any fun b => sameName b.name c.name then
        some (.duplicateColumn c.name)
      else columnsFault? checkNames (c :: before) rest

/-- The index that a primary key needs, unless the key is the number of the row. -/
def keyIndexes (table : String) (columns : List ColumnDef) : List Index :=
  match columns.find? ColumnDef.primaryKey with
  | some c =>
    if Table.isNumberColumn c then []
    else [⟨"sqlite_autoindex_" ++ table ++ "_1", [c.name], true, true⟩]
  | none => []

/-- The most columns that a table may have. -/
def maxColumns : Nat := 2000

/-- Makes a table. -/
def createTable? (db : Database) (ifNotExists : Bool) (name : String) (columns : List ColumnDef) :
    Except Fault Database := do
  if isReservedName name then throw (.nameReserved name)
  if (db.table? name).isSome then
    if !ifNotExists then throw (.tableExists name)
    if let some fault := columnsFault? false [] columns then throw fault
    pure db
  else
    if (db.indexOwner? name).isSome then throw (.namedLikeIndex name)
    if let some fault := columnsFault? true [] (columns.take maxColumns) then throw fault
    if maxColumns < columns.length then throw (.tooManyColumns name)
    pure { db with tables := db.tables ++ [⟨name, columns, [], keyIndexes name columns⟩] }

/-- Removes a table with its rows and indexes. -/
def dropTable? (db : Database) (ifExists : Bool) (name : String) : Except Fault Database :=
  match db.table? name with
  | none => if ifExists then .ok db else .error (.noSuchTable name)
  | some t => .ok { db with tables := db.tables.filter fun u => !sameName u.name t.name }

/-- Two rows of the list have the same key in an index. -/
def hasEqualKeys (t : Table) (index : Index) : List Row → Bool
  | [] => false
  | r :: rest =>
    rest.any (fun s => Table.sameKey (t.keyOf index r.cells) (t.keyOf index s.cells)) ||
      hasEqualKeys t index rest

/-- The first fault in the columns of a new index. -/
def indexFault? (t : Table) (columns : List String) : Option Fault :=
  if columns.any fun c => momentWords.contains (upper c) then some .changingIndex
  else
    match columns.find? fun c => (t.position? c).isNone && isRowNumberName c with
    | some c => some (.noSuchColumn c)
    | none => t.unknownName? columns

/-- Makes an index. -/
def createIndex? (db : Database) (unique ifNotExists : Bool) (name table : String)
    (columns : List String) : Except Fault Database := do
  if isCatalogName table then throw (.notIndexable catalogName)
  let some t := db.table? table | throw (.noSuchTable ("main." ++ table))
  if isReservedName name then throw (.nameReserved name)
  if (db.table? name).isSome then throw (.namedLikeTable name)
  if (db.indexOwner? name).isSome then
    if !ifNotExists then throw (.indexExists name)
    pure db
  else
    if let some fault := indexFault? t columns then throw fault
    let declared := columns.map fun c =>
      (((t.position? c).bind fun i => t.columns[i]?).map ColumnDef.name).getD c
    let index : Index := ⟨name, declared, unique, false⟩
    if unique && hasEqualKeys t index t.rows then throw (.unique t.name declared)
    pure (db.replaceTable { t with indexes := index :: t.indexes })

/-- Removes an index. -/
def dropIndex? (db : Database) (ifExists : Bool) (name : String) : Except Fault Database := do
  match db.indexOwner? name with
  | none => if ifExists then pure db else throw (.noSuchIndex name)
  | some t =>
    if t.indexes.any fun i => sameName i.name name && i.automatic then throw .indexKept
    pure (db.replaceTable
      { t with indexes := t.indexes.filter fun i => !sameName i.name name })

/-- Adds a column; the rows that are there get its default. -/
def addColumn? (db : Database) (table : String) (c : ColumnDef) : Except Fault Database := do
  let t ← db.target? table
  if maxColumns ≤ t.columns.length then throw (.tooManyColumns ("sqlite_altertab_" ++ t.name))
  if (t.position? c.name).isSome then throw (.duplicateColumn c.name)
  if c.notNull && c.default.isNone && !t.rows.isEmpty then throw .addedNotNull
  let cell := c.affinity.store (c.default.getD .null)
  pure (db.replaceTable
    { t with
      columns := t.columns ++ [c]
      rows := t.rows.map fun r => { r with cells := r.cells ++ [cell] } })

/-- Removes a column with its values. -/
def dropColumn? (db : Database) (table column : String) : Except Fault Database := do
  let t ← db.target? table
  let some i := t.position? column | throw (.noSuchColumn ("\"" ++ column ++ "\""))
  if ((t.columns[i]?).map ColumnDef.primaryKey).getD false then throw (.dropsKey column)
  if t.columns.length = 1 then throw (.dropsLast column)
  let needed := t.indexes.reverse.find? fun index => index.columns.any fun c => sameName c column
  if let some index := needed then throw (.indexNeeds index.name column)
  pure (db.replaceTable
    { t with
      columns := t.columns.eraseIdx i
      rows := t.rows.map fun r => { r with cells := r.cells.eraseIdx i } })

/-! ## Queries -/

/-- A whole number in a statement, if it is in the range of integers. -/
def fits (n : Option Nat) : Bool := (n.getD 0 : Int) ≤ maxRowId

/-- How narrowly conditions, all of which have to hold, bound the values of a column: one value is
narrower than several, and these are narrower than a range with two ends or one. -/
def narrowness (conditions : List Condition) (column : String) : Nat :=
  let bounds (ops : List Comparison) (c : Condition) : Bool :=
    match c with
    | .compare field op _ => sameName field column && ops.contains op
    | _ => false
  let lists (c : Condition) : Bool :=
    match c with
    | .member field negated _ => sameName field column && !negated
    | .any alternatives => !alternatives.isEmpty && alternatives.all (bounds [.eq])
    | _ => false
  if conditions.any (bounds [.eq]) then 4
  else if conditions.any lists then 3
  else [[Comparison.gt, .ge], [.lt, .le]].countP fun ops => conditions.any (bounds ops)

/-- The index by which the rows for conditions are looked up: the newest of those whose first column
is bounded most narrowly. -/
def indexFor? (t : Table) (conditions : List Condition) : Option Index :=
  let score (i : Index) : Nat := ((i.columns.head?).map (narrowness conditions)).getD 0
  t.indexes.foldl (fun best i =>
    if score i > ((best.map score).getD 0) then some i else best) none

/-- Rows in the order in which they are met: that of the index by which they are looked up, or, if
they are sorted backwards by the column of an index, that of the index read backwards. -/
def metOrder (t : Table) (conditions : List Condition) (order : List (String × Direction))
    (rows : List Row) : List Row :=
  match indexFor? t conditions, order with
  | some index, _ => t.sortRows (index.columns.map fun c => (c, .ascending)) rows
  | none, [(column, .descending)] =>
    if t.indexes.any fun i => (i.columns.map upper) = [upper column] then rows.reverse else rows
  | none, _ => rows

/-- The rows that a query keeps, in order. -/
def pick? (t : Table) (conditions : List Condition) : Tail → Except Fault (List Row)
  | .first => t.scan? conditions (some 1)
  | .page order limit offset =>
    if limit = some 0 then .ok []
    else if !fits limit || !fits offset then .error .mismatch
    else do
      let skip := offset.getD 0
      let inPlace := order.isEmpty && (indexFor? t conditions).isNone
      let rows ← t.scan? conditions (if inPlace then limit.map (· + skip) else none)
      let rows := (t.sortRows order (metOrder t conditions order rows)).drop skip
      pure (match limit with
        | some n => rows.take n
        | none => rows)

/-- The name and the value of one column of an answer. -/
def itemField (t : Table) (row : Row) : Item → String × Json
  | .column name label =>
    let own := (((t.position? name).bind fun i => t.columns[i]?).map ColumnDef.name).getD name
    (label.getD own, (((t.resolve? name).getD (.constant .null)).value row).toJson)
  | .value operand label => (label.getD operand.text, operand.value.toJson)

/-- The record that a row answers. -/
def Output.record (t : Table) (row : Row) : Output → Record
  | .all => t.record row
  | .count _ => []
  | .columns items => KeyMap.ofList (items.map (itemField t row))

/-- The names used in the columns of an answer. -/
def Output.fields : Output → List String
  | .columns items => items.filterMap fun
    | .column name _ => some name
    | .value _ _ => none
  | _ => []

/-- The names that a query sorts by. -/
def sortFields : Tail → List String
  | .first => []
  | .page order _ _ => order.map Prod.fst

/-- The rows of a query. -/
def select? (db : Database) (q : Query) : Except Fault (List Record) := do
  let t ← match q.source with
    | some name => db.source? name
    | none => pure { name := "", columns := [], rows := [⟨1, []⟩] }
  if let some fault := t.unknownName?
      (Output.fields q.output ++ Condition.fieldsList q.conditions ++ sortFields q.tail) then
    throw fault
  match q.output with
  | .count label =>
    let n := (← t.scan? q.conditions none).length
    let answer : List Record := [[(label, .int n)]]
    pure (match q.tail with
      | .first => answer
      | .page _ limit offset =>
        let rest := answer.drop (offset.getD 0)
        (limit.map rest.take).getD rest)
  | output => pure ((← pick? t q.conditions q.tail).map (Output.record t · output))

/-! ## Changes of rows -/

/-- The rows that a change is about. To take the first row alone, rows are found by the value of
`rowid`, which a column of that name may hide. -/
def targetRows? (t : Table) : Target → Except Fault (List Row)
  | .every conditions => t.scan? conditions none
  | .first conditions => do
    let r := (t.resolve? "rowid").getD .number
    let values := (← t.scan? conditions (some 1)).map r.value
    pure (t.rows.filter fun row => r.isMember false row values)

/-- Adds rows. -/
def insert? (db : Database) (replace : Bool) (table : String) (columns : List String)
    (rows : List (List Operand)) : Except Fault (Database × Nat × Option Int) := do
  let t ← db.target? table
  let positions := columns.map t.position?
  let unknown := (columns.zip positions).find? fun (c, p) => p.isNone && !isRowNumberName c
  if let some (c, _) := unknown then throw (.tableLacks table c)
  let positions := if columns.isEmpty then (List.range t.columns.length).map some else positions
  if let some row := rows.find? fun r => r.length ≠ positions.length then
    throw (if columns.isEmpty then .wrongRowWidth table t.columns.length row.length
      else .wrongValueCount row.length columns.length)
  let (t, last) ← Table.insertRows? replace positions t 0 (rows.map (·.map Operand.value))
  pure (db.replaceTable t, rows.length, some last)

/-- The first name in assignments that stands for nothing. -/
def assignmentFault? (t : Table) (assignments : List Assignment) : Option Fault :=
  (assignments.find? fun a =>
    (t.position? a.column).isNone && !isRowNumberName a.column).map fun a => .noSuchColumn a.column

/-- Changes rows. -/
def update? (db : Database) (table : String) (assignments : List Assignment) (target : Target) :
    Except Fault (Database × Nat) := do
  let t ← db.target? table
  if let some fault := assignmentFault? t assignments then throw fault
  if let some fault := t.unknownName? (Condition.fieldsList target.conditions) then throw fault
  let rows ← targetRows? t target
  pure (db.replaceTable (← t.updateRows? assignments rows), rows.length)

/-- Removes rows. -/
def delete? (db : Database) (table : String) (target : Target) :
    Except Fault (Database × Nat) := do
  let t ← db.target? table
  if let some fault := t.unknownName? (Condition.fieldsList target.conditions) then throw fault
  let rows ← targetRows? t target
  pure (db.replaceTable (t.deleteRows rows), rows.length)

/-! ## Statements -/

/-- The effect of a statement whose words are in order. -/
def perform? (db : Database) : Statement → Except Fault (Database × Outcome)
  | .createTable ifNotExists table columns =>
    (db.createTable? ifNotExists table columns).map (·, .done)
  | .dropTable ifExists table => (db.dropTable? ifExists table).map (·, .done)
  | .createIndex unique ifNotExists index table columns =>
    (db.createIndex? unique ifNotExists index table columns).map (·, .done)
  | .dropIndex ifExists index => (db.dropIndex? ifExists index).map (·, .done)
  | .addColumn table column => (db.addColumn? table column).map (·, .done)
  | .dropColumn table column => (db.dropColumn? table column).map (·, .done)
  | .insert replace table columns rows =>
    (db.insert? replace table columns rows).map fun (db, n, last) => (db, .changed n last)
  | .select query => (db.select? query).map fun records => (db, .rows records)
  | .update table assignments target =>
    (db.update? table assignments target).map fun (db, n) => (db, .changed n none)
  | .delete table target => (db.delete? table target).map fun (db, n) => (db, .changed n none)
  | .vacuum => .ok (db, .done)
  | .journalMode => .ok (db, .rows [])

/-- The effect of a statement, or why it is refused. -/
def run? (db : Database) (s : Statement) : Except Fault (Database × Outcome) :=
  match s.clash? with
  | some fault => .error fault
  | none => db.perform? s

/-- The effects of several statements, one after the other; all of them or none. -/
def runAll? (db : Database) : List Statement → Except Fault (Database × List Outcome)
  | [] => .ok (db, [])
  | s :: rest => do
    let (db, outcome) ← db.run? s
    let (db, outcomes) ← db.runAll? rest
    pure (db, outcome :: outcomes)

end Database
end Daybook.Sql
