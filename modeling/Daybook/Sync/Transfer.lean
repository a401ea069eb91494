import Daybook.Backup.Format
import Daybook.Store.Change
import Daybook.Store.Insert
import Daybook.Sync.Dates

/-!
# Exports and imports

All tables of a registry are written to a document, and read from one. An import looks at all dates
first; a date that cannot be read stops it before the database is touched. Records either take the
place of all that is there, or are merged with it by their keys.

* `exportAll`, `importAll`;
* `ImportReport`: how many records were written to each table.
-/

namespace Daybook.Sync

-- Sums start from the zero of the core library.
attribute [local instance (high)] Zero.ofOfNat0

/-! ## Export -/

/-- The records of schemas, added to a document. -/
def exportInto : List Schema → Document → Program Document
  | [], d => pure d
  | s :: rest, d => do
    let records ← Store.find s {}
    exportInto rest (d.insert s.table records)

/-- The records of all tables of a registry. -/
def exportAll (r : Schema.Registry) : Program Document := exportInto r.schemas {}

/-! ## Import -/

/-- What came of an import. -/
structure ImportReport where
  /-- How many records were written, by table. -/
  written : KeyMap Nat := []
  /-- The tables that could not be cleared. -/
  clearFailures : List (String × Failure) := []

/-- How many records were written to all tables. -/
def ImportReport.total (r : ImportReport) : Nat := (r.written.map Prod.snd).sum

/-- Removes all records of the tables of schemas; answers the tables where that failed. -/
def clearTables : List Schema → Program (List (String × Failure))
  | [] => pure []
  | s :: rest => do
    let result ← (Store.deleteAll s).attempt
    let failures ← clearTables rest
    match result with
    | .ok _ => pure failures
    | .error e => pure ((s.table, e) :: failures)

/-- Removes all records of the tables of schemas, and gives the space back. -/
def clearAll (schemas : List Schema) : Program (List (String × Failure)) := do
  let failures ← clearTables schemas
  let _ ← (Program.ask (.execute (.statement .vacuum))).attempt
  pure failures

/-- Writes the records of a document to the tables of schemas, in the order of the schemas; the
first failure stops it. -/
def writeTables (m : Moment) (replace : Bool) :
    List Schema → Document → KeyMap Nat → Program (KeyMap Nat)
  | [], _, written => pure written
  | s :: rest, d, written =>
    match d.table? s.table with
    | none | some [] => writeTables m replace rest ⟨d.tables.erase s.table⟩ written
    | some records => do
      let n ← Store.writeMany s m (!replace) records
      writeTables (m.skip records.length) replace rest ⟨d.tables.erase s.table⟩
        (written.insert s.table n)

/-- Imports a document: the records take the place of all that is there, or are merged with it. -/
def importAll (r : Schema.Registry) (m : Moment) (d : Document) (replace : Bool) :
    Program ImportReport := do
  let d ← .ofExcept (normalizeTables r.schemas d)
  let clearFailures ← if replace then clearAll r.schemas else pure []
  let written ← writeTables m replace r.schemas d []
  pure ⟨written, clearFailures⟩

/-! ## Messages -/

/-- What an operation tells its user: a message, and the failure if there was one. -/
structure Notice where
  message : String
  failure : Option Failure := none

/-- The operation succeeded. -/
def Notice.isSuccess (n : Notice) : Bool := n.failure.isNone

/-- The notice of a result. -/
def Notice.of {α : Type} (success : α → String) (failed : String) (result : Except Failure α) :
    Notice :=
  match result with
  | .ok a => ⟨success a, none⟩
  | .error e => ⟨failed, some e⟩

/-- The notice of an export of some number of records. -/
def exportNotice : Except Failure Nat → Notice :=
  .of (fun n => s!"Exported {n} records") "An error occurred when exporting data"

/-- The notice of an import. -/
def importNotice : Except Failure ImportReport → Notice :=
  .of (fun r => s!"Import data successfully ({r.total} records)")
    "An error occurred when importing data"

end Daybook.Sync
