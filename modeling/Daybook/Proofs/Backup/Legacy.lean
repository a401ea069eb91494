import Daybook.Backup.Legacy
import Daybook.Proofs.KeyMap
import Daybook.Sync.Dates

/-!
# Rows of the first layout

A document of the first layout has four tables, and what becomes of their rows differs in a few
columns only: each table is a `Part`, which names the fields that the columns take over. A row is
well-formed if it says who it is and when it was changed, and has what its record needs.

* `textOf?`, `IsActive`: identifiers and states of the first layout;
* `Part`, `parts`: the tables;
* **`table?_translate`**, `Part.isMadeOf_record`: the records of the rows;
* `Part.Accepts`, `IsWellFormed`: the rows and documents that are well-formed.
-/

namespace Daybook.Legacy

open Calendar (normalize?)

/-! ## Identifiers -/

/-- The text of an identifier, if it is a number or a text. -/
def textOf? : Option Json → Option String
  | some (.int n) => some (Json.int n).compact
  | some (.real x) => some (Json.real x).compact
  | some (.str s) => some s
  | _ => none

section Identifier

variable {value : Option Json} {id : String}

/-- The identifier of a row is the text of a number, or the text itself. -/
theorem exists_identifier (h : (textOf? value).isSome) :
    ∃ id, textOf? value = some id ∧ identifier value = .str id := by
  obtain ⟨id, hid⟩ := Option.isSome_iff_exists.1 h
  refine ⟨id, hid, ?_⟩
  unfold textOf? at hid
  split at hid <;> cases hid <;> rfl

theorem writeInt_ne_nil (n : Int) : Json.writeInt n ≠ [] :=
  List.append_ne_nil_of_right_ne_nil _ Nat.toDigits_ne_nil

theorem render_ne_nil (f : Layout) (d : Decimal) : f.render d ≠ [] := by
  rw [Layout.render]
  split_ifs <;> simp

theorem writeReal_ne_nil (x : Binary64) : Json.writeReal x ≠ [] :=
  List.append_ne_nil_of_right_ne_nil _ (render_ne_nil _ _)

/-- The text of a number is not empty. -/
theorem ne_empty_of_textOf? (h : textOf? value = some id) (hvalue : value ≠ some (.str "")) :
    id ≠ "" := by
  have hchars (cs : List Char) (hcs : cs ≠ []) : String.ofList cs ≠ "" := by simpa using hcs
  unfold textOf? at h
  split at h
  · rw [← Option.some.inj h]
    exact hchars _ (writeInt_ne_nil _)
  · rw [← Option.some.inj h]
    exact hchars _ (writeReal_ne_nil _)
  · rintro rfl
    exact hvalue (by rw [Option.some.inj h])
  · exact nomatch h

end Identifier

/-! ## States -/

/-- The row is in use: its status is the number one, a text that says so, or true. -/
def IsActive (value : Option Json) : Prop :=
  value = some (.int 1) ∨ value = some (.real (Binary64.ofInt 1)) ∨
    (∃ s, value = some (.str s) ∧ Text.trim s = "1") ∨ value = some (.bool true)

/-- One of the two states. -/
def stateIf (active : Bool) : Json :=
  .str (if active then Schema.activeStatus else Schema.inactiveStatus)

theorem stateIf_eq_active_iff (active : Bool) :
    stateIf active = .str Schema.activeStatus ↔ active := by
  cases active <;> decide

theorem status_eq_active_iff (value : Option Json) :
    status value = .str Schema.activeStatus ↔ IsActive value := by
  refine (stateIf_eq_active_iff _).trans ?_
  rw [IsActive]
  rcases value with _ | v
  · simp
  · cases v <;> simp

instance (value : Option Json) : Decidable (IsActive value) :=
  decidable_of_iff _ (status_eq_active_iff value)

theorem status_eq (value : Option Json) : status value = stateIf (IsActive value) := by
  have hstate : ∃ active, status value = stateIf active := ⟨_, rfl⟩
  obtain ⟨active, hactive⟩ := hstate
  have hiff := status_eq_active_iff value
  rw [hactive, stateIf_eq_active_iff] at hiff
  rw [hactive, decide_eq_decide.2 hiff.symm, Bool.decide_coe]

/-! ## Tables -/

/-- A table of the first layout: its name, the schema to which its rows go, and what the record of a
row says beside what all records do. -/
structure Part where
  name : String
  schema : Schema
  /-- The columns that take over a field of the row, with the names of the fields. -/
  carried : List (String × String)
  /-- The columns that say the same in every record. -/
  given : List (String × String)
  /-- The fields that a row has to have. -/
  needed : List String
  /-- The rows belong to lists, and to days. -/
  listed : Bool

namespace Part

/-- The table of the lists. -/
def lists : Part where
  name := "spendingList"
  schema := Schema.spendList
  carried := [("name", "namelist")]
  given := []
  needed := ["namelist"]
  listed := false

/-- The table of the items. -/
def items : Part where
  name := "spendingItem"
  schema := Schema.spendItem
  carried := [("name", "nameitem"), ("price", "price"), ("details", "details")]
  given := []
  needed := ["nameitem"]
  listed := true

/-- The table of the notes. -/
def notes : Part where
  name := "noted"
  schema := Schema.note
  carried := [("name", "namelist"), ("content", "content")]
  given := []
  needed := ["namelist"]
  listed := false

/-- The table of the incomes, which have no name. -/
def incomes : Part where
  name := "income"
  schema := Schema.income
  carried := [("price", "price")]
  given := [("name", "")]
  needed := []
  listed := true

/-- What the record of a row says beside what all records do. -/
def own (p : Part) (row : Record) : List (String × Json) :=
  (if p.listed then [("listId", identifier (row.get? "spendlistid"))] else []) ++
    p.given.map (fun q => (q.1, .str q.2)) ++ p.carried.map (fun q => (q.1, field row q.2)) ++
    if p.listed then [("date", field row "atupdate")] else []

/-- The record of a row. -/
def record (p : Part) (row : Record) : Record := KeyMap.ofList (shared row ++ p.own row)

/-- The names of what a record says. -/
def columns (p : Part) : List String :=
  ["_id", "status", Schema.createdColumn, Schema.updatedColumn, Schema.versionColumn] ++
    ((if p.listed then ["listId"] else []) ++ p.given.map Prod.fst ++ p.carried.map Prod.fst ++
      if p.listed then ["date"] else [])

theorem map_pairs (p : Part) (row : Record) :
    (shared row ++ p.own row).map Prod.fst = p.columns := by
  rw [columns, own]
  cases p.listed <;> simp [shared, Function.comp_def]

end Part

/-- The tables of the first layout. -/
def parts : List Part := [.lists, .items, .notes, .incomes]

/-- **The records of each table** are those of its rows. -/
theorem table?_translate (fields : KeyMap Json) : ∀ p ∈ parts,
    (translate fields).table? p.schema.table = some ((rows fields p.name).map p.record) := by
  have hself (d : Document) (name : String) (records : List Record) :
      (d.insert name records).table? name = some records :=
    KeyMap.get?_insert_self _ _ _
  have hother {d : Document} {name other : String} {records found : List Record}
      (h : other ≠ name) (hfound : d.table? other = some found) :
      (d.insert name records).table? other = some found :=
    (KeyMap.get?_insert_of_ne _ _ h).trans hfound
  rw [parts]
  simp only [List.forall_mem_cons]
  refine ⟨?_, ?_, ?_, hself _ "Income" _, fun _ h => absurd h List.not_mem_nil⟩
  · exact hother (by decide) (hother (by decide) (hother (by decide) (hself _ "SpendList" _)))
  · exact hother (by decide) (hother (by decide) (hself _ "SpendItem" _))
  · exact hother (by decide) (hself _ "Note" _)

namespace Part

variable {p : Part}

theorem nodup_columns : ∀ p ∈ parts, p.columns.Nodup := by decide

/-- The record says what the pairs say of which it is made. -/
theorem get?_record (hp : p ∈ parts) {row : Record} {name : String} {v : Json}
    (h : (name, v) ∈ shared row ++ p.own row) : (p.record row).get? name = some v := by
  refine KeyMap.get?_foldl_insert_of_mem ?_ h []
  rw [map_pairs]
  exact nodup_columns p hp

/-- What a record says that is made of a row. -/
structure IsMadeOf (p : Part) (row record : Record) : Prop where
  id : record.get? "_id" = some (identifier (row.get? "id"))
  status : record.get? "status" = some (Legacy.status (row.get? "status"))
  version : record.get? Schema.versionColumn = some (.int 0)
  updated : record.get? Schema.updatedColumn = some (field row "atupdate")
  created : record.get? Schema.createdColumn = some (field row "atcreate")
  list : p.listed → record.get? "listId" = some (identifier (row.get? "spendlistid"))
  day : p.listed → record.get? "date" = some (field row "atupdate")
  given : ∀ q ∈ p.given, record.get? q.1 = some (.str q.2)
  carried : ∀ q ∈ p.carried, record.get? q.1 = some (field row q.2)

theorem isMadeOf_record (hp : p ∈ parts) (row : Record) : p.IsMadeOf row (p.record row) where
  id := get?_record hp (by simp [shared])
  status := get?_record hp (by simp [shared])
  version := get?_record hp (by simp [shared])
  updated := get?_record hp (by simp [shared])
  created := get?_record hp (by simp [shared])
  list h := get?_record hp (by simp [own, h])
  day h := get?_record hp (by simp [own, h])
  given q hq := get?_record hp (by
    simp only [own, List.mem_append, List.mem_map]
    exact .inr (.inl (.inl (.inr ⟨q, hq, rfl⟩))))
  carried q hq := get?_record hp (by
    simp only [own, List.mem_append, List.mem_map]
    exact .inr (.inl (.inr ⟨q, hq, rfl⟩)))

theorem contains_record (hp : p ∈ parts) (row : Record) {name : String} (hname : name ∈ p.columns) :
    (p.record row).contains name := by
  rw [← map_pairs p row] at hname
  obtain ⟨⟨name, v⟩, hmem, rfl⟩ := List.mem_map.1 hname
  rw [KeyMap.contains, get?_record hp hmem]
  rfl

end Part

/-! ## Well-formed rows -/

/-- The row says who it is, when it was changed, and what its record needs; what it says of the time
at which it was made can be read. -/
structure Part.Accepts (p : Part) (row : Record) : Prop where
  named : (textOf? (row.get? "id")).isSome
  notEmpty : row.get? "id" ≠ some (.str "")
  updated : ((row.get? "atupdate").bind normalize?).isSome
  created : Sync.isBlank (row.get? "atcreate") ∨ ((row.get? "atcreate").bind normalize?).isSome
  needed : ∀ name ∈ p.needed, field row name ≠ .null
  listed : p.listed → (textOf? (row.get? "spendlistid")).isSome

instance (p : Part) (row : Record) : Decidable (p.Accepts row) :=
  decidable_of_iff ((textOf? (row.get? "id")).isSome ∧ row.get? "id" ≠ some (.str "") ∧
    ((row.get? "atupdate").bind normalize?).isSome ∧
    (Sync.isBlank (row.get? "atcreate") ∨ ((row.get? "atcreate").bind normalize?).isSome) ∧
    (∀ name ∈ p.needed, field row name ≠ .null) ∧
    (p.listed → (textOf? (row.get? "spendlistid")).isSome))
    ⟨fun ⟨a, b, c, d, e, f⟩ => ⟨a, b, c, d, e, f⟩, fun ⟨a, b, c, d, e, f⟩ => ⟨a, b, c, d, e, f⟩⟩

/-- The document has the first layout, and well-formed rows with different identifiers. -/
structure IsWellFormed (fields : KeyMap Json) : Prop where
  layout : fields.contains "spendingList"
  accepts : ∀ p ∈ parts, ∀ row ∈ rows fields p.name, p.Accepts row
  apart : ∀ p ∈ parts, (rows fields p.name).Pairwise fun row row' =>
    textOf? (row.get? "id") ≠ textOf? (row'.get? "id")

instance (fields : KeyMap Json) : Decidable (IsWellFormed fields) :=
  decidable_of_iff ((fields.contains "spendingList") ∧
    (∀ p ∈ parts, ∀ row ∈ rows fields p.name, p.Accepts row) ∧
    ∀ p ∈ parts, (rows fields p.name).Pairwise fun row row' =>
      textOf? (row.get? "id") ≠ textOf? (row'.get? "id"))
    ⟨fun ⟨a, b, c⟩ => ⟨a, b, c⟩, fun ⟨a, b, c⟩ => ⟨a, b, c⟩⟩

end Daybook.Legacy
