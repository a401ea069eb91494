import Daybook.Backup.Document
import Daybook.Schema.Models
import Daybook.Text.Blank

/-!
# Documents of the first layout

The first layout named tables and columns otherwise, numbered its rows and gave the status as a
number. Such a document is known by its table `spendingList`.

* `Legacy.isLegacy`;
* `Legacy.translate`: the document of the same records.
-/

namespace Daybook.Legacy

/-- The document has the first layout. -/
def isLegacy (fields : KeyMap Json) : Bool := fields.contains "spendingList"

/-- The status of a row: active if it is the number one, a text that says so, or true. -/
def status (value : Option Json) : Json :=
  let active : Bool :=
    match value with
    | some (.int n) => n = 1
    | some (.real x) => x = Binary64.ofInt 1
    | some (.str s) => Text.trim s = "1"
    | some (.bool b) => b
    | _ => false
  .str (if active then Schema.activeStatus else Schema.inactiveStatus)

/-- The identifier of a row: a number becomes its text. -/
def identifier (value : Option Json) : Json :=
  match value with
  | some (.int n) => .str (Json.int n).compact
  | some (.real x) => .str (Json.real x).compact
  | some v => v
  | none => .null

/-- The value of a field; null if there is none. -/
def field (row : Record) (name : String) : Json := (row.get? name).getD .null

/-- The rows of a table that are objects. -/
def rows (fields : KeyMap Json) (table : String) : List Record :=
  match fields.get? table with
  | some (.arr items) => items.filterMap fun
    | .obj row => some row
    | _ => none
  | _ => []

/-- What all rows have: a key, a status and the times. -/
def shared (row : Record) : List (String × Json) :=
  [("_id", identifier (row.get? "id")), ("status", status (row.get? "status")),
    (Schema.createdColumn, field row "atcreate"), (Schema.updatedColumn, field row "atupdate"),
    (Schema.versionColumn, .int 0)]

/-- The record of a list. -/
def spendList (row : Record) : Record :=
  KeyMap.ofList (shared row ++ [("name", field row "namelist")])

/-- The record of an item. -/
def spendItem (row : Record) : Record :=
  KeyMap.ofList (shared row ++
    [("listId", identifier (row.get? "spendlistid")), ("name", field row "nameitem"),
      ("price", field row "price"), ("details", field row "details"),
      ("date", field row "atupdate")])

/-- The record of a note. -/
def note (row : Record) : Record :=
  KeyMap.ofList (shared row ++
    [("name", field row "namelist"), ("content", field row "content")])

/-- The record of an income, which has no name. -/
def income (row : Record) : Record :=
  KeyMap.ofList (shared row ++
    [("listId", identifier (row.get? "spendlistid")), ("name", .str ""),
      ("price", field row "price"), ("date", field row "atupdate")])

/-- The document of the records of a document of the first layout. -/
def translate (fields : KeyMap Json) : Document :=
  (((({} : Document).insert "SpendList" ((rows fields "spendingList").map spendList)).insert
    "SpendItem" ((rows fields "spendingItem").map spendItem)).insert
    "Note" ((rows fields "noted").map note)).insert
    "Income" ((rows fields "income").map income)

end Daybook.Legacy
