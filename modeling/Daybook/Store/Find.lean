import Daybook.Engine.Program
import Daybook.Filter.Basic
import Daybook.Schema.Basic

/-!
# Finding records

Queries on the table of a schema. A filter that cannot be compiled fails before the engine is
called.

* `find`, `findOne`, `findPage`, `count`;
* `findById`: the record of a key;
* `tableText`: the text that the table was made with.
-/

namespace Daybook.Store

open Sql

/-! ## Calls with statements -/

/-- The rows of a query. -/
def query (q : Query) : Program (List Record) := .ask (.query (.statement (.select q)))

/-- A change of rows; answers how many. -/
def change (s : Statement) : Program Nat := .ask (.change (.statement s) false)

/-! ## Queries -/

/-- Which part of the records is asked for, and in which order. -/
structure Page where
  sort : List (String × Direction) := []
  limit : Option Nat := none
  offset : Option Nat := none
  deriving Inhabited

/-- A query of all columns of the table. -/
def allColumns (s : Schema) (conditions : List Condition) (tail : Tail) : Query :=
  ⟨.all, some s.table, conditions, tail⟩

/-- The records that a filter asks for. -/
def find (s : Schema) (f : Filter) : Program (List Record) := do
  let conditions ← .ofExcept f.compile
  query (allColumns s conditions (.page [] none none))

/-- The first record that a filter asks for. -/
def findOne (s : Schema) (f : Filter) : Program (Option Record) := do
  let conditions ← .ofExcept f.compile
  return (← query (allColumns s conditions .first)).head?

/-- The failure of the first sort term whose column is not declared. -/
def sortFault? (s : Schema) (sort : List (String × Direction)) : Option Failure :=
  (sort.find? fun p => !s.hasColumn p.1).map fun p => .invalidInput (.undeclaredSort s.entity p.1)

/-- One part of the records that a filter asks for, in the order of declared columns. -/
def findPage (s : Schema) (f : Filter) (page : Page) : Program (List Record) := do
  let conditions ← .ofExcept f.compile
  match sortFault? s page.sort with
  | some e => .fail e
  | none => query (allColumns s conditions (.page page.sort page.limit page.offset))

/-- The count in the first row of an answer; zero if there is none. -/
def countIn (rows : List Record) : Int :=
  ((rows.head?.bind fun row => row.get? "count").bind Json.int64?).getD 0

/-- How many records a filter asks for. -/
def count (s : Schema) (f : Filter) : Program Int := do
  let conditions ← .ofExcept f.compile
  return countIn (← query ⟨.count "count", some s.table, conditions, .page [] none none⟩)

/-- The record whose key has the given value. -/
def findByKey (s : Schema) (key : Json) : Program (Option Record) := do
  let column ← .ofExcept s.requiredKey
  let cell ← .ofExcept (column.cell key)
  let conditions := [.compare column.name .eq (.bound cell)]
  return (← query (allColumns s conditions (.page [] none none))).head?

/-- The record of an identifier. -/
def findById (s : Schema) (id : String) : Program (Option Record) :=
  if id.isEmpty then .fail (.missingArgument "id") else findByKey s (.str id)

/-- The text that the table was made with, if there is a table. -/
def tableText (s : Schema) : Program (Option String) := do
  let conditions := [.compare "type" .eq (.literal (.text "table")),
    .compare "tbl_name" .eq (.bound (.text s.table))]
  let rows ← query ⟨.columns [.column "sql" none], some Database.catalogName, conditions,
    .page [] none none⟩
  return (rows.head?.bind fun row => row.get? "sql").bind Json.str?

end Daybook.Store
