import Daybook.Backup.Format
import Daybook.Proofs.Bytes.Gzip
import Daybook.Proofs.KeyMap
import Daybook.Proofs.Result

/-!
# Documents in files

The JSON value of a document gives the document back, unless it has a table of the name by which
documents of the first layout are known (`ofJson_toJson`). Its text is packed without loss; so a
document is read back from its file if its JSON text is (**`ofGzip_toGzip`**).

* `ReadsBack`: the JSON text of the document gives its JSON value back.
-/

namespace Daybook.Document

/-- The JSON text of the document gives its JSON value back. -/
def ReadsBack (d : Document) : Prop := Json.read? d.pretty = some d.toJson

/-- The JSON text is read character by character. -/
theorem readsBack_iff (d : Document) : d.ReadsBack ↔
    (match Json.readValue? (2 * (Json.layOut 0 d.toJson).length + 2) Json.maxDepth
        (Json.layOut 0 d.toJson) with
      | some (j, rest) => if (Json.skipSpace rest).isEmpty then some j else none
      | none => none) = some d.toJson := by
  have htext : d.pretty.toList = Json.layOut 0 d.toJson := by
    rw [pretty, Json.pretty, String.toList_ofList]
  rw [← htext]
  exact Iff.rfl

theorem recordsOf_map (table : String) (records : List Record) :
    recordsOf table (records.map .obj) = .ok records := by
  induction records with
  | nil => rfl
  | cons record rest ih =>
    rw [List.map_cons, recordsOf, ih]
    rfl

theorem tablesOf_map (tables : List (String × List Record)) :
    tablesOf (tables.map fun p => (p.1, .arr (p.2.map .obj))) = .ok tables := by
  induction tables with
  | nil => rfl
  | cons p rest ih =>
    rw [List.map_cons, tablesOf]
    exact Result.bind_eq_ok_iff.2
      ⟨p.2, recordsOf_map p.1 p.2, Result.bind_eq_ok_iff.2 ⟨rest, ih, rfl⟩⟩

/-- The JSON value of a document gives the document back. -/
theorem ofJson_toJson {d : Document} (h : d.table? "spendingList" = none) :
    ofJson d.toJson = .ok d := by
  have hlegacy : Legacy.isLegacy (d.tables.map fun p => (p.1, Json.arr (p.2.map .obj))) = false := by
    rw [Legacy.isLegacy, KeyMap.contains,
      KeyMap.get?_map (fun records : List Record => Json.arr (records.map .obj)),
      show d.tables.get? _ = none from h]
    rfl
  show (if Legacy.isLegacy (d.tables.map fun p => (p.1, Json.arr (p.2.map .obj))) then _
    else (tablesOf (d.tables.map fun p => (p.1, Json.arr (p.2.map .obj)))).map Document.mk) = _
  rw [hlegacy, if_neg Bool.false_ne_true, tablesOf_map]
  rfl

/-- What is read from the packed text is what is read from the text. -/
theorem ofGzip_toGzip_eq (d : Document) : ofGzip d.toGzip = ofBytes (Bytes.ofText d.pretty) := by
  rw [ofGzip, toGzip, Gzip.unpack?_pack]

theorem ofBytes_pretty {d : Document} (hread : d.ReadsBack) :
    ofBytes (Bytes.ofText d.pretty) = ofJson d.toJson := by
  rw [ofBytes, Json.readBytes?, Bytes.toText?_ofText, Option.bind_some,
    show Json.read? d.pretty = some d.toJson from hread]

/-- **A document is read back from its file** if its JSON text is. -/
theorem ofGzip_toGzip {d : Document} (h : d.table? "spendingList" = none) (hread : d.ReadsBack) :
    ofGzip d.toGzip = .ok d := by
  rw [ofGzip_toGzip_eq, ofBytes_pretty hread, ofJson_toJson h]

end Daybook.Document
