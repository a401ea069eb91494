import Daybook.Proofs.Backup.Legacy
import Daybook.Proofs.Store.ById
import Daybook.Proofs.Sync.Normalization
import Daybook.Proofs.Sync.Recovery

/-!
# Imports of documents of the first layout

The records that are made of well-formed rows pass all that the schemas of a household ask of them:
nothing that is needed is null, dates can be read, and keys differ (**`passes_record`**,
`isKeyed_records`). So every well-formed document of the first layout is imported completely
(**`importAll_translated`**): each row becomes one row of a table, which says what it said
(**`says_of_holdsRecord`**) and is found by its identifier.

* `Part.Says`: what the row of a table says of the row of which it was made;
* `Finds`: what a query by an identifier finds;
* `Part.IsKept`, `Imported`: what an import of the document leaves.
-/

namespace Daybook.Legacy

open Sql Store Sync
open Calendar (normalize?)

/-! ## Tables and schemas -/

theorem schema_mem_models : ∀ p ∈ parts, p.schema ∈ Schema.models := by decide

theorem portable_schema {p : Part} (hp : p ∈ parts) : p.schema.Portable :=
  Schema.portable_models _ (schema_mem_models p hp)

theorem exists_part : ∀ s ∈ Schema.models, ∃ p ∈ parts, p.schema = s := by decide

/-- Every column has something in every record. -/
theorem name_mem_columns : ∀ p ∈ parts, ∀ c ∈ p.schema.columns, c.name ∈ p.columns := by decide

theorem key?_schema : ∀ p ∈ parts, p.schema.key? = some Schema.idColumn := by decide

/-- The columns of dates are those of the two times, and that of the day. -/
theorem mem_dateColumns : ∀ p ∈ parts, ∀ c ∈ p.schema.dateColumns,
    c = Column.timestamp Schema.createdColumn ∨ c.name = Schema.updatedColumn ∨
      c.name = "date" ∧ p.listed := by decide

/-- A required column takes over something that a row has to have. -/
theorem mem_required : ∀ p ∈ parts, ∀ c ∈ p.schema.columns, c.required →
    c.name = "_id" ∨ c.name = Schema.versionColumn ∨
      (c.name = "listId" ∨ c.name = "date") ∧ p.listed ∨
        ∃ q ∈ p.carried, q.1 = c.name ∧ q.2 ∈ p.needed := by decide

/-- Only the state is restricted. -/
theorem allowed_eq_nil : ∀ p ∈ parts, ∀ c ∈ p.schema.columns,
    c.toDef.allowed = [] ∨ c = Schema.statusColumn := by decide

/-- What is carried over has a column, which holds no dates. -/
theorem exists_carried : ∀ p ∈ parts, ∀ q ∈ p.carried, ∃ c ∈ p.schema.columns,
    c.name = q.1 ∧ c.isDate = false ∧ c.name ≠ Schema.createdColumn := by decide

/-- The columns that all tables have. -/
theorem shared_subset : ∀ p ∈ parts, [Schema.idColumn, Schema.statusColumn] ++
    Schema.bookkeepingColumns ⊆ p.schema.columns := by decide

/-- The columns of what belongs to a list and to a day. -/
theorem mem_listed : ∀ p ∈ parts, p.listed →
    Schema.listColumn ∈ p.schema.columns ∧ Schema.dayColumn ∈ p.schema.columns := by decide

/-- What every record says has a column of texts. -/
theorem exists_given : ∀ p ∈ parts, ∀ q ∈ p.given, ∃ c ∈ p.schema.columns,
    c.name = q.1 ∧ c.type = .text ∧ c.isDate = false ∧ c.name ≠ Schema.createdColumn := by decide

theorem tracksCreated_schema : ∀ p ∈ parts, p.schema.tracksCreated := by decide

/-! ## Records of well-formed rows -/

section Records

variable {p : Part} {row : Record}

theorem isBlank_field (row : Record) (name : String) :
    isBlank (some (field row name)) = isBlank (row.get? name) := by
  rw [field]
  cases row.get? name <;> rfl

/-- A date that can be read is the value of its field. -/
theorem exists_field {name : String} (h : ((row.get? name).bind normalize?).isSome) :
    row.get? name = some (field row name) ∧ isBlank (some (field row name)) = false := by
  rw [field]
  cases hvalue : row.get? name with
  | none =>
    rw [hvalue] at h
    exact nomatch h
  | some v =>
    rw [hvalue] at h
    exact ⟨rfl, isBlank_of_normalize? h⟩

/-- A field that can be read is a date wherever it stands. -/
theorem isDated_of_field {record : Record} {c : Column} {name : String}
    (hvalue : record.get? c.name = some (field row name))
    (h : ((row.get? name).bind normalize?).isSome) : IsDated record c := by
  obtain ⟨hfield, hblank⟩ := exists_field h
  rwa [IsDated, hvalue, if_neg (by rw [hblank]; exact Bool.false_ne_true), ← hfield]

theorem isComplete_record (hp : p ∈ parts) (row : Record) : IsComplete p.schema (p.record row) :=
  fun c hc => Part.contains_record hp row (name_mem_columns p hp c hc)

/-- The dates of a record can be read. -/
theorem isDated_record (hp : p ∈ parts) (h : p.Accepts row) :
    ∀ c ∈ p.schema.dateColumns, IsDated (p.record row) c := by
  have hmade := Part.isMadeOf_record hp row
  intro c hc
  rcases mem_dateColumns p hp c hc with rfl | hname | ⟨hname, hlisted⟩
  · rcases h.created with hblank | hread
    · have hnone : isBlank ((p.record row).get? Schema.createdColumn) := by
        rw [hmade.created, isBlank_field, hblank]
      exact (if_pos hnone).mpr rfl
    · exact isDated_of_field hmade.created hread
  · exact isDated_of_field (by rw [hname, hmade.updated]) h.updated
  · exact isDated_of_field (by rw [hname, hmade.day hlisted]) h.updated

/-- What is required of a record is there. -/
theorem exists_required (hp : p ∈ parts) (h : p.Accepts row) {c : Column}
    (hc : c ∈ p.schema.columns) (hrequired : c.required) :
    ∃ v, (p.record row).get? c.name = some v ∧ v ≠ .null := by
  have hmade := Part.isMadeOf_record hp row
  have hid : ∀ {value}, (textOf? value).isSome → identifier value ≠ .null := by
    intro value hvalue
    obtain ⟨id, -, hid⟩ := exists_identifier hvalue
    rw [hid]
    exact Json.noConfusion
  rcases mem_required p hp c hc hrequired with
    hname | hname | ⟨hname | hname, hlisted⟩ | ⟨q, hq, hname, hneeded⟩
  · exact ⟨_, by rw [hname, hmade.id], hid h.named⟩
  · exact ⟨_, by rw [hname, hmade.version], Json.noConfusion⟩
  · exact ⟨_, by rw [hname, hmade.list hlisted], hid (h.listed hlisted)⟩
  · exact ⟨_, by rw [hname, hmade.day hlisted], ne_null_of_isBlank (exists_field h.updated).2⟩
  · exact ⟨_, by rw [← hname, hmade.carried q hq], h.needed q.2 hneeded⟩

/-- **The columns take the record of a well-formed row.** -/
theorem passes_record (hp : p ∈ parts) (h : p.Accepts row) : Passes p.schema (p.record row) := by
  intro c hc
  constructor
  · intro hrequired
    obtain ⟨v, hv, hne⟩ := exists_required hp h hc hrequired
    rw [cellFor, hv, Option.getD_some, Affinity.isNull_store, ← Bool.not_eq_true,
      Cell.isNull_ofJson_iff]
    exact hne
  · rcases allowed_eq_nil p hp c hc with hfree | rfl
    · rw [Table.accepts, hfree]
      rfl
    · have hvalue : (p.record row).get? Schema.statusColumn.name =
          some (stateIf (IsActive (row.get? "status"))) := by
        rw [← status_eq]
        exact (Part.isMadeOf_record hp row).status
      rw [cellFor_of_text rfl hvalue]
      cases decide (IsActive (row.get? "status")) <;> decide

/-- The key of the record of a row is the text of the identifier. -/
theorem exists_key (hp : p ∈ parts) (h : p.Accepts row) : ∃ id, textOf? (row.get? "id") = some id ∧
    id ≠ "" ∧ (p.record row).get? "_id" = some (.str id) := by
  obtain ⟨id, hid, hkey⟩ := exists_identifier h.named
  refine ⟨id, hid, ne_empty_of_textOf? hid h.notEmpty, ?_⟩
  rw [← hkey]
  exact (Part.isMadeOf_record hp row).id

/-- The records of rows with different identifiers have different keys, and all have one. -/
theorem isKeyed_records (hp : p ∈ parts) {rows : List Record}
    (haccepts : ∀ row ∈ rows, p.Accepts row)
    (hapart : rows.Pairwise fun row row' => textOf? (row.get? "id") ≠ textOf? (row'.get? "id"))
    (m : Moment) : IsKeyed Schema.idColumn m (rows.map p.record) := by
  refine ⟨fun record hrecord => ?_, ?_, ?_⟩
  · obtain ⟨row, hrow, rfl⟩ := List.mem_map.1 hrecord
    obtain ⟨id, -, -, hid⟩ := exists_key hp (haccepts row hrow)
    exact ⟨id, hid⟩
  · rw [List.pairwise_map]
    refine hapart.imp_of_mem fun {row row'} hrow hrow' hne heq => ?_
    obtain ⟨x, hx, -, hkey⟩ := exists_key hp (haccepts row hrow)
    obtain ⟨y, hy, -, hkey'⟩ := exists_key hp (haccepts row' hrow')
    rw [show Schema.idColumn.name = "_id" from rfl, hkey, hkey', Option.some.injEq,
      Json.str.injEq] at heq
    rw [hx, hy, heq] at hne
    exact hne rfl
  · -- no key is empty
    rintro ⟨record, hrecord, hempty⟩
    obtain ⟨row, hrow, rfl⟩ := List.mem_map.1 hrecord
    obtain ⟨id, -, hne, hid⟩ := exists_key hp (haccepts row hrow)
    exact absurd (Json.str.inj (Option.some.inj (hid.symm.trans hempty))) hne

end Records

/-! ## What is imported -/

/-- The record says in the column the normal form of the date. -/
def SaysDate (record : Record) (column : String) (value : Option Json) : Prop :=
  ∃ date, value.bind normalize? = some date ∧ record.get? column = some (.str date)

/-- What a table says of a row of the first layout. -/
structure Part.Says (p : Part) (row record : Record) : Prop where
  id : ∃ id, textOf? (row.get? "id") = some id ∧ record.get? "_id" = some (.str id)
  status : record.get? "status" = some (stateIf (IsActive (row.get? "status")))
  version : record.get? Schema.versionColumn = some (.int 0)
  updated : SaysDate record Schema.updatedColumn (row.get? "atupdate")
  /-- The time at which the row was made is that of its last change if nothing is said of it. -/
  created : SaysDate record Schema.createdColumn
    (row.get? (if isBlank (row.get? "atcreate") then "atupdate" else "atcreate"))
  list : p.listed → ∃ id, textOf? (row.get? "spendlistid") = some id ∧
    record.get? "listId" = some (.str id)
  day : p.listed → SaysDate record "date" (row.get? "atupdate")
  given : ∀ q ∈ p.given, record.get? q.1 = some (.str q.2)
  carried : ∀ q ∈ p.carried, ∃ c ∈ p.schema.columns, c.name = q.1 ∧
    record.get? q.1 = some (c.toDef.affinity.store (Cell.ofJson (field row q.2))).toJson

section Rows

variable {p : Part} {row r : Record} {t : Table} {x : Row}

section Normalized

variable (hp : p ∈ parts) (hr : normalizeDates p.schema (p.record row) = .ok r)
include hp hr

/-- What is no date is kept. -/
theorem get?_of_normalized {c : Column} (hc : c ∈ p.schema.columns) (hdate : c.isDate = false)
    (hname : c.name ≠ Schema.createdColumn) : r.get? c.name = (p.record row).get? c.name :=
  get?_of_normalizeDates_of_not_date (portable_schema hp) hc hdate hname hr

theorem normalizedFrom_record : NormalizedFrom p.schema (p.record row) r :=
  normalizedFrom_of_normalizeDates (portable_schema hp).nodup_names hr

/-- A field that can be read is brought to its normal form. -/
theorem saysDate_normalized {c : Column} (hc : c ∈ p.schema.columns) (hdate : c.isDate)
    {name : String} (hvalue : (p.record row).get? c.name = some (field row name))
    (hread : ((row.get? name).bind normalize?).isSome) : SaysDate r c.name (row.get? name) := by
  obtain ⟨hfield, hsaid⟩ := exists_field hread
  obtain ⟨date, hnormal, hget⟩ := (normalizedFrom_record hp hr).exists_normal
    (List.mem_filter.2 ⟨hc, hdate⟩) hvalue hsaid
  exact ⟨date, by rw [hfield]; exact hnormal, hget⟩

/-- The time at which a row was made is that of its last change if nothing is said of it. -/
theorem saysDate_created (h : p.Accepts row) : SaysDate r Schema.createdColumn
    (row.get? (if isBlank (row.get? "atcreate") then "atupdate" else "atcreate")) := by
  have hmade := Part.isMadeOf_record hp row
  have hshared := shared_subset p hp
  split_ifs with hblank
  · obtain ⟨date, hnormal, hget⟩ := saysDate_normalized hp hr
      (c := Column.timestamp Schema.updatedColumn) (hshared (by decide)) rfl hmade.updated h.updated
    refine ⟨date, hnormal, ?_⟩
    rw [(normalizedFrom_record hp hr).taken (tracksCreated_schema p hp)]
    · exact hget
    · rw [hmade.created, isBlank_field, hblank]
  · exact saysDate_normalized hp hr (c := Column.timestamp Schema.createdColumn)
      (hshared (by decide)) rfl hmade.created (h.created.resolve_left hblank)

end Normalized

section Stored

variable (hserves : t.Serves p.schema) (hx : x ∈ t.rows) (hholds : HoldsRecord p.schema t r x)
include hserves hx hholds

theorem saysDate_stored {c : Column} (hc : c ∈ p.schema.columns) (htype : c.type = .text)
    {value : Option Json} (h : SaysDate r c.name value) : SaysDate (t.record x) c.name value := by
  obtain ⟨date, hnormal, hget⟩ := h
  exact ⟨date, hnormal, hholds.get?_text hserves hx hc htype hget⟩

variable (hp : p ∈ parts) (hr : normalizeDates p.schema (p.record row) = .ok r)
include hp hr

/-- What is no date is stored as it is in the record. -/
theorem get?_stored {c : Column} (hc : c ∈ p.schema.columns) (hdate : c.isDate = false)
    (hname : c.name ≠ Schema.createdColumn) {v : Json} (hv : (p.record row).get? c.name = some v) :
    (t.record x).get? c.name = some (c.toDef.affinity.store (Cell.ofJson v)).toJson := by
  rw [hholds.get?_record hserves hx hc, cellFor, get?_of_normalized hp hr hc hdate hname, hv,
    Option.getD_some]

theorem get?_stored_text {c : Column} (hc : c ∈ p.schema.columns) (htype : c.type = .text)
    (hdate : c.isDate = false) (hname : c.name ≠ Schema.createdColumn) {text : String}
    (htext : (p.record row).get? c.name = some (.str text)) :
    (t.record x).get? c.name = some (.str text) :=
  hholds.get?_text hserves hx hc htype ((get?_of_normalized hp hr hc hdate hname).trans htext)

/-- **The row of a record says what the row of the first layout did.** -/
theorem says_of_holdsRecord (h : p.Accepts row) : p.Says row (t.record x) := by
  have hmade := Part.isMadeOf_record hp row
  have hshared := shared_subset p hp
  have hlisted := mem_listed p hp
  have htext := fun c hc => get?_stored_text (c := c) hserves hx hholds hp hr hc
  have hdate := fun c hc => saysDate_stored (c := c) hserves hx hholds hc
  constructor
  case id =>
    obtain ⟨id, hid, -, hget⟩ := exists_key hp h
    exact ⟨id, hid, htext Schema.idColumn (hshared (by decide)) rfl rfl (by decide) hget⟩
  case status =>
    refine htext Schema.statusColumn (hshared (by decide)) rfl rfl (by decide) ?_
    rw [← stateIf, ← status_eq]
    exact hmade.status
  case version =>
    exact get?_stored hserves hx hholds hp hr
      (c := (Column.integer Schema.versionColumn).require.withDefault "0") (hshared (by decide)) rfl
      (by decide) hmade.version
  case updated =>
    have hmem : Column.timestamp Schema.updatedColumn ∈ p.schema.columns := hshared (by decide)
    exact hdate _ hmem rfl (saysDate_normalized hp hr hmem rfl hmade.updated h.updated)
  case created =>
    exact hdate (Column.timestamp Schema.createdColumn) (hshared (by decide)) rfl
      (saysDate_created hp hr h)
  case list =>
    intro hlist
    obtain ⟨id, hid, hkey⟩ := exists_identifier (h.listed hlist)
    refine ⟨id, hid, htext Schema.listColumn (hlisted hlist).1 rfl rfl (by decide) ?_⟩
    rw [← hkey]
    exact hmade.list hlist
  case day =>
    intro hlist
    exact hdate Schema.dayColumn (hlisted hlist).2 rfl
      (saysDate_normalized hp hr (hlisted hlist).2 rfl (hmade.day hlist) h.updated)
  case given =>
    intro q hq
    obtain ⟨c, hc, hname, htype, hnoDate, hother⟩ := exists_given p hp q hq
    rw [← hname]
    refine htext c hc htype hnoDate hother ?_
    rw [hname]
    exact hmade.given q hq
  case carried =>
    intro q hq
    obtain ⟨c, hc, hname, hnoDate, hother⟩ := exists_carried p hp q hq
    refine ⟨c, hc, hname, ?_⟩
    rw [← hname]
    refine get?_stored hserves hx hholds hp hr hc hnoDate hother ?_
    rw [hname]
    exact hmade.carried q hq

end Stored
end Rows

/-! ## Queries by identifiers -/

/-- The record is the one that is found by the identifier. -/
def Finds (st : Storage) (s : Schema) (id : String) (record : Record) : Prop :=
  ((findById s id).run Storage.engine st).1 = .ok (some record)

/-- A row that holds a record is found by the key of the record. -/
theorem finds_of_holdsRecord {s : Schema} (hs : s.Portable) {key : Column}
    (hkey : s.key? = some key) (hword : Sql.clash? false key.name ["=", "?"] = none) {st : Storage}
    {t : Table} (ht : st.table? s.table = some t) (hserves : t.Serves s) {r : Record} {x : Row}
    (hx : x ∈ t.rows) (hholds : HoldsRecord s t r x) {id : String}
    (hid : r.get? key.name = some (.str id)) (hne : id ≠ "") : Finds st s id (t.record x) := by
  obtain ⟨htype, -⟩ := hs.of_key hkey
  have hmem := (Schema.mem_key? hkey).1
  have hrange : Table.isNumberColumn key.toDef → t.InRange := fun hnumber => by
    rw [hs.isNumberColumn_eq_false hmem] at hnumber
    exact nomatch hnumber
  have hsought : sought? t key (.text id) = some x := by
    refine sought?_eq_some hserves.made hserves.sound hrange hkey hx ?_
    rw [hholds key hmem, cellFor_of_text htype hid, affinity_of_text htype]
    exact (Cell.meets_text_iff id id).2 rfl
  obtain ⟨c, hc, ht⟩ := Storage.table?_eq_some ht
  obtain ⟨heq, hcell⟩ := @findById_eq s key id (by rw [htype]; decide) hne
  rw [Finds, heq, run_findByKey hkey hs.notCatalog hs.tableWord hword hserves.made hserves.sound
    hrange hc ht hcell Cell.noConfusion, hsought]
  rfl

/-! ## Documents -/

/-- The record of a table says what the row of the first layout did, and is found by the identifier
of the row. -/
structure Part.IsKept (p : Part) (st : Storage) (row record : Record) : Prop where
  content : p.Says row record
  found : ∀ id, textOf? (row.get? "id") = some id → Finds st p.schema id record

/-- A row that holds the record of a well-formed row keeps it. -/
theorem isKept_of_holdsRecord {p : Part} (hp : p ∈ parts) {row r : Record} (h : p.Accepts row)
    (hr : normalizeDates p.schema (p.record row) = .ok r) {st : Storage} {t : Table}
    (ht : st.table? p.schema.table = some t) (hserves : t.Serves p.schema) {x : Row}
    (hx : x ∈ t.rows) (hholds : HoldsRecord p.schema t r x) : p.IsKept st row (t.record x) := by
  refine ⟨says_of_holdsRecord hserves hx hholds hp hr h, fun id hid => ?_⟩
  have hportable := portable_schema hp
  have hkey := key?_schema p hp
  obtain ⟨id', hid', hne, hget⟩ := exists_key hp h
  obtain rfl := Option.some.inj (hid.symm.trans hid')
  refine finds_of_holdsRecord hportable hkey (by decide) ht hserves hx hholds ?_ hne
  rw [get?_key_of_normalizeDates hportable hkey hr]
  exact hget

/-- What an import of a document of the first layout leaves. -/
structure Imported (fields : KeyMap Json) (st : Storage) : Prop where
  /-- A table has one row for each row, in their order. -/
  kept : ∀ p ∈ parts, ∃ t, st.table? p.schema.table = some t ∧
    List.Forall₂ (fun row x => p.IsKept st row (t.record x)) (rows fields p.name) t.rows
  /-- What belongs to a list says the key of the list, and no other. -/
  lists : ∀ p ∈ parts, p.listed → ∀ row ∈ rows fields p.name,
    ∀ list ∈ rows fields Part.lists.name, ∃ record listRecord,
      p.IsKept st row record ∧ Part.lists.IsKept st list listRecord ∧
      (record.get? "listId" = listRecord.get? "_id" ↔
        textOf? (row.get? "spendlistid") = textOf? (list.get? "id"))

/-- A row says the key of a list just if it belongs to it. -/
theorem Part.Says.list_eq_iff {p : Part} {row record list listRecord : Record}
    (h : p.Says row record) (hlisted : p.listed) (hlist : Part.lists.Says list listRecord) :
    record.get? "listId" = listRecord.get? "_id" ↔
      textOf? (row.get? "spendlistid") = textOf? (list.get? "id") := by
  obtain ⟨x, hx, hget⟩ := h.list hlisted
  obtain ⟨y, hy, hget'⟩ := hlist.id
  rw [hx, hy, hget, hget', Option.some.injEq, Option.some.injEq, Json.str.injEq]

section Documents

variable {fields : KeyMap Json} (h : IsWellFormed fields)

theorem recordsFor_translate (fields : KeyMap Json) {p : Part} (hp : p ∈ parts) :
    recordsFor (translate fields) p.schema = (rows fields p.name).map p.record := by
  rw [recordsFor, table?_translate fields p hp, Option.getD_some]

/-- What holds of the records of all rows holds of all records of the document. -/
theorem forall_translate {P : Schema → List Record → Prop} (hall : ∀ p ∈ parts,
    P p.schema ((rows fields p.name).map p.record)) : ∀ s ∈ Schema.models, ∀ records,
      (translate fields).table? s.table = some records → P s records := by
  intro s hs records hrecords
  obtain ⟨p, hp, rfl⟩ := exists_part s hs
  rw [← Option.some.inj ((table?_translate fields p hp).symm.trans hrecords)]
  exact hall p hp

include h

/-- The records of a well-formed document are complete, with different keys. -/
theorem isFull_translate (m : Moment) :
    ∀ s ∈ Schema.models, IsFull m (translate fields) s := by
  refine forall_translate fun p hp => ⟨fun record hrecord => ?_, Schema.idColumn,
    key?_schema p hp, isKeyed_records hp (h.accepts p hp) (h.apart p hp) m⟩
  obtain ⟨row, -, rfl⟩ := List.mem_map.1 hrecord
  exact isComplete_record hp row

/-- No record lacks a key. -/
theorem isNamed_translate {p : Part} (hp : p ∈ parts) :
    ∀ record ∈ recordsFor (translate fields) p.schema, IsComplete p.schema record ∧
      isMissingKey (record.get? Schema.idColumn.name) = false := by
  rw [recordsFor_translate fields hp]
  intro record hrecord
  obtain ⟨row, hrow, rfl⟩ := List.mem_map.1 hrecord
  obtain ⟨id, -, hne, hid⟩ := exists_key hp (h.accepts p hp row hrow)
  refine ⟨isComplete_record hp row, ?_⟩
  rw [show Schema.idColumn.name = "_id" from rfl, hid]
  simpa [isMissingKey] using hne

theorem datedAll_translate : ∀ s ∈ Schema.models, DatedAll (translate fields) s := by
  refine forall_translate fun p hp record hrecord => ?_
  obtain ⟨row, hrow, rfl⟩ := List.mem_map.1 hrecord
  exact isDated_record hp (h.accepts p hp row hrow)

theorem passesAll_translate : ∀ s ∈ Schema.models, PassesAll (translate fields) s := by
  refine forall_translate fun p hp record hrecord => ?_
  obtain ⟨row, hrow, rfl⟩ := List.mem_map.1 hrecord
  exact passes_record hp (h.accepts p hp row hrow)

variable {st st' : Storage} (hserved : ∀ s ∈ Schema.models, IsServed st s) {m : Moment}
include hserved

/-- The rows of a table after the import. -/
theorem kept_of_importAll {report : ImportReport}
    (hrun : (importAll ⟨Schema.models⟩ m (translate fields) true).run Storage.engine st =
      (.ok report, st')) {p : Part} (hp : p ∈ parts) :
    ∃ t, st'.table? p.schema.table = some t ∧
      List.Forall₂ (fun row x => p.IsKept st' row (t.record x)) (rows fields p.name) t.rows := by
  have hs := schema_mem_models p hp
  obtain ⟨d', hnormal, t, ht, hserves, hrows⟩ := rows_of_importAll Schema.portable_models
    nodup_models hserved hrun hs (key?_schema p hp) (isNamed_translate h hp)
  have hnormalized := normalized_recordsFor (nodup_tables nodup_models) hnormal hs
  rw [recordsFor_translate fields hp, Normalized, List.forall₂_map_left_iff] at hnormalized
  have hboth : List.Forall₂ (fun row x => ∃ r, normalizeDates p.schema (p.record row) = .ok r ∧
      HoldsRecord p.schema t r x) (rows fields p.name) t.rows :=
    Result.forall₂_trans hnormalized hrows fun _ r _ hr hholds => ⟨r, hr, hholds⟩
  refine ⟨t, ht, Result.forall₂_imp_of_mem hboth fun row hrow x hx ⟨r, hr, hholds⟩ => ?_⟩
  exact isKept_of_holdsRecord hp (h.accepts p hp row hrow) hr ht hserves hx hholds

/-- **Every well-formed document of the first layout is imported completely**, whatever the tables
of the household held. -/
theorem importAll_translated (m : Moment) : ∃ d report st',
    Document.ofJson (.obj fields) = .ok d ∧
      (importAll ⟨Schema.models⟩ m d true).run Storage.engine st = (.ok report, st') ∧
        Imported fields st' := by
  have hlayout : Document.ofJson (.obj fields) = .ok (translate fields) := if_pos h.layout
  obtain ⟨report, st', hrun⟩ := (run_importAll_isOk_iff_of_isFull (r := ⟨Schema.models⟩)
    Schema.portable_models nodup_models hserved (isFull_translate h m)).2 fun s hs =>
      ⟨datedAll_translate h s hs, passesAll_translate h s hs⟩
  have hkept := fun p hp => kept_of_importAll (p := p) h hserved hrun hp
  have hexists : ∀ p ∈ parts, ∀ row ∈ rows fields p.name, ∃ record, p.IsKept st' row record := by
    intro p hp row hrow
    obtain ⟨t, -, hrows⟩ := hkept p hp
    obtain ⟨x, -, hx⟩ := (Result.exists_of_forall₂ hrows).2 row hrow
    exact ⟨_, hx⟩
  refine ⟨translate fields, report, st', hlayout, hrun, hkept, ?_⟩
  intro p hp hlisted row hrow list hlist
  obtain ⟨record, hrecord⟩ := hexists p hp row hrow
  obtain ⟨listRecord, hlistRecord⟩ := hexists .lists List.mem_cons_self list hlist
  exact ⟨record, listRecord, hrecord, hlistRecord,
    hrecord.content.list_eq_iff hlisted hlistRecord.content⟩

end Documents

/-- A household that was saved in the first layout. Its lists are numbered, and an item says the
number of its list as a text; it was changed at a number of milliseconds. -/
def savedHousehold : KeyMap Json :=
  [("income", .arr [.obj [("atcreate", .str "01/05/2024"), ("atupdate", .str "2024-05-02"),
      ("id", .str "a"), ("price", .str "12.5"), ("spendlistid", .int 2), ("status", .bool true)]]),
    ("noted", .str "none"),
    ("spendingItem", .arr [.int 7, .obj [("atupdate", .int 1714600000000), ("colour", .str "red"),
      ("id", .int 1), ("nameitem", .str "Bread"), ("price", .int 3), ("spendlistid", .str "1")]]),
    ("spendingList", .arr [
      .obj [("atcreate", .str " "), ("atupdate", .str "2024-05-01"), ("id", .int 1),
        ("namelist", .str "Food"), ("status", .str " 1 ")],
      .obj [("atupdate", .str "2024-05-01"), ("id", .str "2"), ("namelist", .str "Rent"),
        ("status", .int 0)]])]

/-- The household is imported into tables that were just migrated. -/
theorem importAll_translated_savedHousehold :
    IsWellFormed savedHousehold ∧ (∀ s ∈ Schema.models, IsServed migratedTables s) ∧
      ∃ d report st', Document.ofJson (.obj savedHousehold) = .ok d ∧
        (importAll ⟨Schema.models⟩ someMoment d true).run Storage.engine migratedTables =
          (.ok report, st') ∧ Imported savedHousehold st' := by
  have hwellFormed : IsWellFormed savedHousehold := by decide +kernel
  exact ⟨hwellFormed, serves_migratedTables,
    importAll_translated hwellFormed serves_migratedTables someMoment⟩

end Daybook.Legacy
