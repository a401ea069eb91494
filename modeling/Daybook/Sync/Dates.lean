import Daybook.Backup.Document
import Daybook.Failure
import Daybook.Text.Blank

/-!
# Dates of imported records

Before a record is imported, its dates are brought to one layout. The time at which it was made may
be taken from the time of its last change.

* `normalizeDates`: the record with its dates in one layout;
* `normalizeTables`: all records of a document.
-/

namespace Daybook.Sync

open Calendar (normalize?)

/-- The value says nothing as a date. -/
def isBlank : Option Json → Bool
  | none | some .null => true
  | some (.str s) => Text.isBlankText s
  | some _ => false

/-- The failure of a date of a record. -/
def dateFailure (s : Schema) (record : Record) (column : String) : Failure :=
  .dateNormalization s.table column (s.key?.bind fun key => record.get? key.name)
    (record.get? column)

/-- A blank date is not accepted in the column. -/
def needsDate (c : Column) : Bool := c.required || c.name = Schema.updatedColumn

/-- The new texts of the dates of a record, with the names of their columns. -/
def fixedDates (s : Schema) (record : Record) : List Column → Except Failure (List (String × String))
  | [] => .ok []
  | c :: rest =>
    let value := record.get? c.name
    if isBlank value then
      if needsDate c then .error (dateFailure s record c.name) else fixedDates s record rest
    else
      match value.bind normalize? with
      | none => .error (dateFailure s record c.name)
      | some date => (fixedDates s record rest).map ((c.name, date) :: ·)

/-- The record with the time of its last change as the time at which it was made, if it says
nothing of the latter. -/
def withCreated (s : Schema) (record : Record) : Except Failure Record :=
  if s.tracksCreated && isBlank (record.get? Schema.createdColumn) then
    match record.get? Schema.updatedColumn with
    | some updated =>
      if isBlank (some updated) then .error (dateFailure s record Schema.createdColumn)
      else .ok (record.insert Schema.createdColumn updated)
    | none => .error (dateFailure s record Schema.createdColumn)
  else .ok record

/-- The record with its dates in one layout. -/
def normalizeDates (s : Schema) (record : Record) : Except Failure Record := do
  let dates ← fixedDates s record s.dateColumns
  withCreated s (dates.foldl (fun r (name, date) => r.insert name (.str date)) record)

/-- The document with the dates of the tables of the schemas in one layout. -/
def normalizeTables : List Schema → Document → Except Failure Document
  | [], d => .ok d
  | s :: rest, d =>
    match d.table? s.table with
    | none => normalizeTables rest d
    | some records => do
      let records ← records.mapM (normalizeDates s)
      normalizeTables rest (d.insert s.table records)

end Daybook.Sync
