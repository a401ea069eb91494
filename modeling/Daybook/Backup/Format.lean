import Daybook.Backup.Legacy
import Daybook.Bytes.Gzip
import Daybook.Failure
import Daybook.Json.Reader

/-!
# Documents as files

A document is written as pretty JSON, and for a remote store compressed. Documents of the first
layout are understood as well.

* `Document.ofJson`, `Document.ofBytes`, `Document.ofGzip`;
* `Document.pretty`, `Document.toGzip`.
-/

namespace Daybook.Document

/-- The records of a table; each has to be an object. -/
def recordsOf (table : String) : List Json → Except Failure (List Record)
  | [] => .ok []
  | .obj record :: rest => (recordsOf table rest).map (record :: ·)
  | v :: _ => .error (.invalidInput (.recordShape table v))

/-- The tables of the members of an object; members that are no arrays are passed over. -/
def tablesOf : List (String × Json) → Except Failure (List (String × List Record))
  | [] => .ok []
  | (table, .arr items) :: rest => do
    let records ← recordsOf table items
    return (table, records) :: (← tablesOf rest)
  | _ :: rest => tablesOf rest

/-- The document of a JSON value, in either layout. -/
def ofJson : Json → Except Failure Document
  | .obj fields =>
    if Legacy.isLegacy fields then .ok (Legacy.translate fields)
    else (tablesOf fields).map .mk
  | v => .error (.invalidInput (.documentShape v))

/-- The document of a JSON text. -/
def ofBytes (b : Bytes) : Except Failure Document :=
  match Json.readBytes? b with
  | some v => ofJson v
  | none => .error .serialization

/-- The document of a compressed JSON text. -/
def ofGzip (b : Bytes) : Except Failure Document :=
  match Gzip.unpack? b with
  | some text => ofBytes text
  | none => .error .io

/-- The document as a pretty JSON text. -/
def pretty (d : Document) : String := d.toJson.pretty

/-- The document as a compressed JSON text. -/
def toGzip (d : Document) : Bytes := Gzip.pack (Bytes.ofText d.pretty)

end Daybook.Document
