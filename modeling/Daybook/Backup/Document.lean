import Daybook.Calendar.Normalize
import Daybook.Json.Printer
import Daybook.Schema.Basic

/-!
# Backup documents

A document holds the records of tables, by the names of the tables.

* `Document`, `Document.toJson`;
* `Document.updatedAfter`: the records that were changed after an instant.
-/

namespace Daybook

-- Sums start from the zero of the core library.
attribute [local instance (high)] Zero.ofOfNat0

/-- The records of tables, by the names of the tables. -/
structure Document where
  tables : KeyMap (List Record) := []
  deriving DecidableEq, Inhabited

namespace Document

/-- The records of a table. -/
def table? (d : Document) (name : String) : Option (List Record) := d.tables.get? name

/-- The document with the records of a table. -/
def insert (d : Document) (name : String) (records : List Record) : Document :=
  ⟨d.tables.insert name records⟩

/-- The names of the tables, ascending. -/
def names (d : Document) : List String := d.tables.keys

/-- How many records all tables have. -/
def total (d : Document) : Nat := (d.tables.map fun p => p.2.length).sum

/-- The document as a JSON value. -/
def toJson (d : Document) : Json :=
  .obj (d.tables.map fun (name, records) => (name, .arr (records.map .obj)))

/-- The record says that it was changed after an instant. -/
def isAfter (cursor : Calendar.Instant) (record : Record) : Bool :=
  match (record.get? Schema.updatedColumn).bind Calendar.Instant.ofJson? with
  | some updated => updated.isAfter cursor
  | none => false

/-- The document with the records that were changed after an instant. -/
def updatedAfter (d : Document) (cursor : Calendar.Instant) : Document :=
  ⟨d.tables.map fun (name, records) => (name, records.filter (isAfter cursor))⟩

end Document
end Daybook
