import Daybook.Proofs.Sync.Newer
import Daybook.Proofs.Sync.World

/-!
# Edits that reach other devices

Devices edit, make backups and sync in any order. Whenever a sync succeeds, each record of the
backup that was changed after the last sync of the device is the content of its row afterwards
(**`sync_takes`**). That a record is newer than the row does not suffice: an edit that was made
before a sync and backed up after it is skipped by the next one (`not_forall_takesNewer`).
-/

namespace Daybook.Sync

open Sql Store Daybook.Sync.Action

variable {ι : Type}

/-- The key of every entity is its identifier. -/
theorem key?_models : ∀ s ∈ Schema.models, s.key? = some Schema.idColumn := by decide

/-- No other record of an exported table has the identifier of a record. -/
theorem not_hasKey_of_exported {db : Database} (hserves : db.Serves Schema.models) {s : Schema}
    (hs : s ∈ Schema.models) {before after : List Record} {record : Record}
    (hrecords : recordsFor (exported db Schema.models {}) s = before ++ record :: after)
    {id : String} (hid : record.get? Schema.idColumn.name = some (.str id)) :
    ∀ r ∈ after, ¬ HasKey Schema.idColumn (.text id) r := by
  obtain ⟨t, ht, hserve, hplain⟩ := hserves s hs
  have hportable := Schema.portable_models s hs
  have hrows : t.rows.map t.record = before ++ record :: after := by
    rw [← hrecords, recordsFor, table?_exported (nodup_tables nodup_models) hs, recordsOf, ht]
    rfl
  have hapart := apart_records hportable hserve hplain (key?_models s hs)
  rw [hrows, List.pairwise_append, List.pairwise_cons] at hapart
  rintro r hr ⟨-, hcell⟩
  have hmem : r ∈ t.rows.map t.record := by
    rw [hrows]
    exact List.mem_append_right _ (List.mem_cons_of_mem _ hr)
  obtain ⟨row, hrow, rfl⟩ := List.mem_map.1 hmem
  obtain ⟨other, hother⟩ :=
    (isExported_record hportable hserve hplain hrow).exists_key hportable (key?_models s hs)
  refine hapart.2.1.1 _ hr ?_
  rw [cellFor_of_text rfl hother] at hcell
  rw [hid, hother, Cell.text.inj hcell]

/-- **No edit is lost that was made after the last sync.** Whatever the devices did before, when a
sync succeeds, the backup that it downloads is the export of tables that served the entities, and a
record of it that was changed since the last sync is the content of its row. -/
theorem sync_takes {config : SyncConfig} [DecidableEq ι] {w : World ι} (hstart : w.IsStart)
    (events : List (Event ι)) {i : ι} {d d' : Device Storage}
    (hd : d = (w.run config events).deviceAt i) {m : Moment} {token : String}
    {report : ImportReport} (hsync : (sync (household config) m token).run d = .ok report d') :
    ∃ info document db, Downloads (household config) token d info document ∧
      db.Serves Schema.models ∧
      (d.remote.withToken token).download info.id =
        .ok (exported db Schema.models {}).toGzip ∧
      ∀ s ∈ Schema.models, ∀ before record after,
        recordsFor document s = before ++ record :: after → isTaken d.settings record →
        ∀ id, record.get? Schema.idColumn.name = some (.str id) → id ≠ "" →
        (∀ k, m.freshId k ≠ id) →
        ((exported db Schema.models {}).ReadsBack ∨
          ∀ r ∈ after, isTaken d.settings r → ¬ HasKey Schema.idColumn (.text id) r) →
        HasContent s Schema.idColumn (cursor? d.settings).isSome d'.database id record := by
  have hsane : IsSane d := hd ▸ hstart.sane.run config events i
  obtain ⟨info, document, st, hdownloads, himport, rfl⟩ := sync_eq_ok_iff.1 hsync
  obtain ⟨hinfo, bytes, hbytes, hdocument⟩ := id hdownloads
  obtain ⟨f, hf, rfl⟩ := RemoteStore.exists_file_of_download hbytes
  obtain ⟨db, hserves, hfile⟩ := hsane.exports f hf
  rw [hfile] at hbytes hdocument
  refine ⟨info, document, db, hdownloads, hserves, hbytes, ?_⟩
  intro s hs before record after hrecords htaken id hid hne hfresh hunique
  obtain ⟨c, hc, hserved⟩ := hsane.serves
  have hserved : ∀ s ∈ Schema.models, IsServed d.database s := by
    intro s hs
    obtain ⟨t, ht, hserve, -⟩ := hserved s hs
    refine ⟨t, ?_, hserve⟩
    rw [Storage.table?, hc]
    exact ht
  have hportable : ∀ s ∈ (household config).registry.schemas, s.Portable := Schema.portable_models
  refine hasContent_of_importOf hportable nodup_models hserved himport hs (key?_models s hs)
    hrecords htaken hid hne hfresh ?_
  rcases hunique with hread | hunique
  · have hlayout : (exported db Schema.models {}).table? "spendingList" = none :=
      table?_exported_of_ne table_ne_of_models {}
    obtain rfl := Except.ok.inj ((Document.ofGzip_toGzip hlayout hread).symm.trans hdocument)
    exact fun r hr _ => not_hasKey_of_exported hserves hs hrecords hid r hr
  · exact hunique

/-! ## Records that are newer than rows -/

/-- The instant at which a record was changed. -/
def updated? (record : Record) : Option Calendar.Instant :=
  (record.get? Schema.updatedColumn).bind Calendar.Instant.ofJson?

/-- A record was changed after another one. -/
def isNewer (record other : Record) : Bool :=
  (updated? other).any fun x => Document.isAfter x record

/-- A sync that led from one device to another made every record that is newer than the row of its
identifier, if that is among some, the content of the row. -/
def TakesNewer (ids : String → Prop) (config : SyncConfig) (token : String)
    (d d' : Device Storage) : Prop :=
  ∀ info document, Downloads (household config) token d info document →
    ∀ s ∈ Schema.models, ∀ record ∈ recordsFor document s, ∀ id, ids id →
      record.get? Schema.idColumn.name = some (.str id) →
      ∀ t row, d.database.table? s.table = some t → IsRowOf t Schema.idColumn (.text id) row →
      isNewer record (t.record row) →
      HasContent s Schema.idColumn (cursor? d.settings).isSome d'.database id record

/-- The moment of an edit that leaves it to the clock when a record was changed. -/
def moment? : Edit → Option Moment
  | .insertOne m record => if record.contains Schema.updatedColumn then none else some m
  | .updateOne m _ patch | .updateById m _ patch | .updateMany m _ patch =>
    if patch.contains Schema.updatedColumn then none else some m
  | _ => none

/-- The moment of an event. -/
def Event.moment? : Event ι → Option Moment
  | .edit _ _ e => Sync.moment? e
  | .backup _ m _ | .sync _ m _ => some m

/-- The instant of an event. -/
def Event.instant? (event : Event ι) : Option Calendar.Instant :=
  event.moment?.bind fun m => Calendar.Instant.ofJson? (.str m.now)

/-- The events are timed by one clock that never goes back. -/
def IsTimed (events : List (Event ι)) : Prop :=
  ∃ times : List Calendar.Instant, events.map Event.instant? = times.map some ∧
    times.Pairwise fun a b => ¬ a.isAfter b

/-! ## Edits of notes, backups and syncs -/

/-- The entity of notes. -/
def noteEntity : { s : Schema // s ∈ Schema.models } := ⟨Schema.note, by decide⟩

/-- The tables after an edit of notes. -/
def afterEdit (e : Edit) (st : Storage) : Storage :=
  ((e.program noteEntity).run Storage.engine st).2

/-- The tables after an export. -/
def afterExport (st : Storage) : Storage :=
  ((exportAll ⟨Schema.models⟩).run Storage.engine st).2

/-- The tables after an import. -/
def afterImport (m : Moment) (settings : Json) (document : Document) (st : Storage) : Storage :=
  ((importOf (household {}) m settings document).run Storage.engine st).2

theorem exists_import {m : Moment} {settings : Json} {document : Document} {st : Storage}
    (h : ((importOf (household {}) m settings document).run Storage.engine st).1.toOption.isSome) :
    ∃ report, (importOf (household {}) m settings document).run Storage.engine st =
      (.ok report, afterImport m settings document st) := by
  obtain ⟨report, hreport⟩ := Result.toOption_isSome_iff.1 h
  exact ⟨report, Prod.ext hreport rfl⟩

/-! ## Two devices -/

section Two

variable (config : SyncConfig) {w : World Bool} {a b a' b' : Device Storage}

/-- The devices of a world of two. -/
structure World.Shows (w : World Bool) (a b : Device Storage) : Prop where
  left : w.deviceAt false = a
  right : w.deviceAt true = b

namespace World.Shows

theorem remote_eq (h : w.Shows a b) : a.remote = b.remote := by
  rw [← h.left, ← h.right]
  rfl

theorem after_left (h : w.Shows a b) {event : Event Bool} (hsite : event.site = false)
    (hrun : ((event.action config).perform a).2 = a') :
    (w.after config event).Shows a' { b with remote := a'.remote } := by
  have hafter : ((event.action config).perform (w.deviceAt event.site)).2 = a' := by
    rw [hsite, h.left, hrun]
  constructor
  · rw [← hsite, deviceAt_after_site, hafter]
  · rw [deviceAt_after_of_ne w (by rw [hsite]; decide), hafter, h.right]

theorem after_right (h : w.Shows a b) {event : Event Bool} (hsite : event.site = true)
    (hrun : ((event.action config).perform b).2 = b') :
    (w.after config event).Shows { a with remote := b'.remote } b' := by
  have hafter : ((event.action config).perform (w.deviceAt event.site)).2 = b' := by
    rw [hsite, h.right, hrun]
  constructor
  · rw [deviceAt_after_of_ne w (by rw [hsite]; decide), hafter, h.left]
  · rw [← hsite, deviceAt_after_site, hafter]

theorem edit_left (h : w.Shows a b) (e : Edit) :
    (w.after config (.edit false noteEntity e)).Shows
      { a with database := afterEdit e a.database } b := by
  have hafter := h.after_left config rfl (Event.perform_edit false noteEntity e a)
  have hb : { b with remote := a.remote } = b := by rw [h.remote_eq]
  exact hb ▸ hafter

theorem edit_right (h : w.Shows a b) (e : Edit) :
    (w.after config (.edit true noteEntity e)).Shows a
      { b with database := afterEdit e b.database } := by
  have hafter := h.after_right config rfl (Event.perform_edit true noteEntity e b)
  have ha : { a with remote := b.remote } = a := by rw [← h.remote_eq]
  exact ha ▸ hafter

theorem backup_left (h : w.Shows a b) (hkeyed : a.remote.Keyed) {document : Document}
    (hexport : ((exportAll ⟨Schema.models⟩).run Storage.engine a.database).1 = .ok document)
    (m : Moment) (token : String) :
    (w.after config (.backup false m token)).Shows
      { a with
        database := afterExport a.database
        settings := withBackupDate m.now
          (withFileId (nextInfo (household config) a.remote).id a.settings)
        remote := holding (household config) (a.remote.withToken token) document }
      { b with remote := holding (household config) (a.remote.withToken token) document } :=
  h.after_left config rfl (Event.perform_backup false m token hkeyed hexport)

theorem sync_right (h : w.Shows a b) {m : Moment} (token : String) {report : ImportReport}
    (hsync : (sync (household config) m token).run b = .ok report b') :
    (w.after config (.sync true m token)).Shows { a with remote := b'.remote } b' :=
  h.after_right config rfl (Event.perform_sync true hsync)

end World.Shows

/-- What a device is after another one was edited and backed up. -/
theorem deviceAt_of_backup {a b : Storage} (h : w.Shows (deviceOf a {}) (deviceOf b {})) {e : Edit}
    {document : Document}
    (hexport : ((exportAll ⟨Schema.models⟩).run Storage.engine (afterEdit e a)).1 = .ok document)
    (m : Moment) :
    (w.run {} [.edit false noteEntity e, .backup false m "t"]).deviceAt true =
      { database := b
        remote := holding (household {}) (({} : RemoteStore).withToken "t") document } :=
  ((h.edit_left {} e).backup_left {} List.nodup_nil hexport m "t").right

/-- What a device is after it took over the first of two backups of another one. -/
theorem exists_deviceAt_of_two_backups {a b : Storage}
    (h : w.Shows (deviceOf a {}) (deviceOf b {})) {e e' : Edit} {m : Moment}
    {document document' : Document}
    (hexport : ((exportAll ⟨Schema.models⟩).run Storage.engine (afterEdit e a)).1 = .ok document)
    (hread : Document.ofGzip document.toGzip = .ok document)
    (himport : ((importOf (household {}) m Settings.defaults document).run Storage.engine
      b).1.toOption.isSome)
    (hexport' : ((exportAll ⟨Schema.models⟩).run Storage.engine
      (afterEdit e' (afterExport (afterEdit e a)))).1 = .ok document') (m₁ m₂ : Moment) :
    ∃ r, (w.run {} [.edit false noteEntity e, .backup false m₁ "t", .edit false noteEntity e',
        .sync true m "t", .backup false m₂ "t"]).deviceAt true =
      { database := afterImport m Settings.defaults document b
        settings := withSyncDate m.now (remembered (RemoteStore.idOf 1) Settings.defaults)
        remote := holding (household {}) r document'
        phase := .success } := by
  obtain ⟨report, himport⟩ := exists_import himport
  have h₁ := h.edit_left {} e
  have h₂ := h₁.backup_left {} List.nodup_nil hexport m₁ "t"
  have h₃ := h₂.edit_left {} e'
  have h₄ := h₃.sync_right {} "t" ((sync_eq_ok_iff_of_holding hread rfl).2 ⟨_, himport, rfl⟩)
  have h₅ := h₄.backup_left {} (List.nodup_singleton _) hexport' m₂ "t"
  exact ⟨_, h₅.right⟩

/-- What a device is after it was edited, and another one was edited and backed up. -/
theorem deviceAt_of_edits {a b : Storage} (h : w.Shows (deviceOf a {}) (deviceOf b {}))
    {e e' f f' : Edit} {document : Document}
    (hexport : ((exportAll ⟨Schema.models⟩).run Storage.engine
      (afterEdit e' (afterEdit e a))).1 = .ok document) (m : Moment) :
    (w.run {} [.edit false noteEntity e, .edit true noteEntity f, .edit true noteEntity f',
        .edit false noteEntity e', .backup false m "t"]).deviceAt true =
      { database := afterEdit f' (afterEdit f b)
        remote := holding (household {}) (({} : RemoteStore).withToken "t") document } := by
  have h₁ := h.edit_left {} e
  have h₂ := h₁.edit_right {} f
  have h₃ := h₂.edit_right {} f'
  have h₄ := h₃.edit_left {} e'
  exact (h₄.backup_left {} List.nodup_nil hexport m "t").right

end Two

/-- Two devices with the tables of a household, just migrated. -/
def twoDevices : World Bool := World.alike (deviceOf migratedTables {})

theorem isStart_twoDevices : twoDevices.IsStart :=
  ⟨fun _ => kept_deviceOf kept_migratedTables {}, rfl⟩

theorem shows_twoDevices :
    twoDevices.Shows (deviceOf migratedTables {}) (deviceOf migratedTables {}) :=
  ⟨World.deviceAt_alike _ _, World.deviceAt_alike _ _⟩

/-- Midnight of a day of May 2024. -/
def dayOf (day : String) : Moment := ⟨"2024-05-" ++ day ++ "T00:00:00.000Z", identifier⟩

/-- A note that was not written down yet. -/
def draft : Record := [("_id", .str "a"), ("content", .str "old"), ("name", .str "n")]

/-- The note, as an export gives it. -/
def noteAt (id : String) (version : Int) (content updated : String) : Record :=
  [("_id", .str id), ("_v", .int version), ("content", .str content),
    ("createdAt", .str (dayOf "01").now), ("name", .str "n"), ("status", .str "Active"),
    ("updatedAt", .str (dayOf updated).now)]

/-- A document with a note. -/
def documentWith (record : Record) : Document :=
  ⟨[("Income", []), ("Note", [record]), ("SpendItem", []), ("SpendList", [])]⟩

/-- What is stored of a note, and what an export gives of it. -/
structure StoredNote where
  id : Cell
  content : Cell
  record : Record
  deriving DecidableEq

/-- The notes of tables. -/
def notesOf (st : Storage) : Option (List StoredNote) :=
  (st.table? Schema.note.table).map fun t => t.rows.map fun row =>
    ⟨t.cellOf row.cells Schema.idColumn.name, t.cellOf row.cells "content", t.record row⟩

theorem exists_of_notesOf {st : Storage} {n : StoredNote} (h : notesOf st = some [n]) :
    ∃ t row, st.table? Schema.note.table = some t ∧ t.rows = [row] ∧
      t.cellOf row.cells Schema.idColumn.name = n.id ∧ t.cellOf row.cells "content" = n.content ∧
      t.record row = n.record := by
  obtain ⟨t, ht, hrows⟩ := Option.map_eq_some_iff.1 h
  obtain ⟨row, hrow, rfl⟩ := List.map_eq_singleton_iff.1 hrows
  exact ⟨t, row, ht, hrow, rfl, rfl, rfl⟩

/-- The note is written down. -/
def insertion : Edit := .insertOne (dayOf "01") draft

/-- The tables with the note. -/
def notedTables : Storage := afterEdit insertion migratedTables

/-- The note is corrected. -/
def correction : Edit := .updateById (dayOf "03") "a" [("content", .str "new")]

/-- The tables with the note after a backup and the change. -/
def changedTables : Storage := afterEdit correction (afterExport notedTables)

/-- The tables of the other device, which took over the note before it was changed. -/
def copiedTables : Storage :=
  afterImport (dayOf "04") Settings.defaults (documentWith (noteAt "a" 0 "old" "01")) migratedTables

/-- The settings of the other device since. -/
def copiedSettings : Json :=
  withSyncDate (dayOf "04").now (remembered (RemoteStore.idOf 1) Settings.defaults)

theorem runs_notes :
    ((exportAll ⟨Schema.models⟩).run Storage.engine notedTables).1.toOption =
      some (documentWith (noteAt "a" 0 "old" "01")) ∧
    ((exportAll ⟨Schema.models⟩).run Storage.engine changedTables).1.toOption =
      some (documentWith (noteAt "a" 1 "new" "03")) ∧
    notesOf copiedTables = some [⟨.text "a", .text "old", noteAt "a" 0 "old" "01"⟩] ∧
    ((importOf (household {}) (dayOf "04") Settings.defaults
      (documentWith (noteAt "a" 0 "old" "01"))).run Storage.engine
        migratedTables).1.toOption.isSome ∧
    ((importOf (household {}) (dayOf "06") copiedSettings
      (documentWith (noteAt "a" 1 "new" "03"))).run Storage.engine
        copiedTables).1.toOption.isSome ∧
    notesOf (afterImport (dayOf "06") copiedSettings (documentWith (noteAt "a" 1 "new" "03"))
      copiedTables) = some [⟨.text "a", .text "old", noteAt "a" 0 "old" "01"⟩] := by
  decide +kernel

/-- The note loses its identifier. -/
def erasure (day : String) : Edit := .updateById (dayOf day) "a" [("_id", .str "")]

/-- The tables with a note without an identifier. -/
def namelessTables (day : String) : Storage := afterEdit (erasure day) notedTables

theorem runs_nameless :
    ((exportAll ⟨Schema.models⟩).run Storage.engine (namelessTables "03")).1.toOption =
      some (documentWith (noteAt "" 1 "old" "03")) ∧
    notesOf (namelessTables "02") = some [⟨.text "", .text "old", noteAt "" 1 "old" "02"⟩] ∧
    ((importOf (household {}) (dayOf "05") Settings.defaults
      (documentWith (noteAt "" 1 "old" "03"))).run Storage.engine
        (namelessTables "02")).1.toOption.isSome ∧
    notesOf (afterImport (dayOf "05") Settings.defaults (documentWith (noteAt "" 1 "old" "03"))
      (namelessTables "02")) = some [⟨.text (identifier 0), .text "old",
        noteAt (identifier 0) 1 "old" "03"⟩] := by
  decide +kernel

/-! ### Runs -/

/-- A note that is the only one with its identifier. -/
theorem isRowOf_of_singleton {t : Table} {row : Row} {k : Cell} (hrows : t.rows = [row])
    (hk : t.cellOf row.cells Schema.idColumn.name = k) : IsRowOf t Schema.idColumn k row := by
  intro r
  rw [hrows, List.mem_singleton]
  exact ⟨fun h => h.1, fun h => ⟨h, h ▸ hk⟩⟩

/-- The only note is the row that holds the content of a record. -/
theorem HasContent.eq_text {st : Storage} {n : StoredNote} (hnotes : notesOf st = some [n])
    {merging : Bool} {id : String} {record : Record}
    (h : HasContent Schema.note Schema.idColumn merging st id record) {content : String}
    (hrecord : (normalizeDates Schema.note record).toOption.bind (·.get? "content") =
      some (.str content)) : n.id = .text id ∧ n.content = .text content := by
  obtain ⟨normalized, hnormal, t, row, ht, hrow, hvalues⟩ := h
  obtain ⟨t', row', ht', hrows, hid, hcontent, -⟩ := exists_of_notesOf hnotes
  obtain rfl := Option.some.inj (ht.symm.trans ht')
  obtain ⟨hmem, hkey⟩ := (hrow row).2 rfl
  rw [hrows, List.mem_singleton] at hmem
  rw [hnormal] at hrecord
  obtain ⟨a, ha, hstored⟩ := hvalues (.text "content") (by decide) _ hrecord
  rw [← hid, ← hcontent, ← hmem, hkey]
  obtain rfl := Except.ok.inj ha
  exact ⟨rfl, hstored.trans (by cases merging <;> rfl)⟩

section Sync

variable {st : Storage} {settings : Json} {m : Moment} {record : Record} {r : RemoteStore}
  {phase : Phase} {d : Device Storage}

/-- A device whose import of a document with a note succeeds makes a sync. -/
theorem exists_sync
    (hd : d =
      { database := st
        settings := settings
        remote := holding (household {}) r (documentWith record)
        phase := phase })
    (hread : (documentWith record).ReadsBack)
    (himport : ((importOf (household {}) m settings (documentWith record)).run Storage.engine
      st).1.toOption.isSome) :
    (∃ report d', (sync (household {}) m "t").run d = .ok report d' ∧
      d'.database = afterImport m settings (documentWith record) st) ∧
    ∀ info document, Downloads (household {}) "t" d info document ↔
      info = nextInfo (household {}) r ∧ document = documentWith record := by
  subst hd
  have hread := Document.ofGzip_toGzip rfl hread
  obtain ⟨report, himport⟩ := exists_import himport
  exact ⟨⟨report, _, (sync_eq_ok_iff_of_holding hread rfl).2 ⟨_, himport, rfl⟩, rfl⟩,
    fun _ _ => downloads_iff_of_holding hread rfl⟩

/-- A sync that leaves a row without the content of a record that is newer. -/
theorem exists_sync_of_not_hasContent {ids : String → Prop} {id : String}
    (hd : d =
      { database := st
        settings := settings
        remote := holding (household {}) r (documentWith record)
        phase := phase })
    (hread : (documentWith record).ReadsBack)
    (himport : ((importOf (household {}) m settings (documentWith record)).run Storage.engine
      st).1.toOption.isSome) (hids : ids id)
    (hid : record.get? Schema.idColumn.name = some (.str id)) {n : StoredNote}
    (hnotes : notesOf st = some [n]) (hown : n.id = .text id) (hnewer : isNewer record n.record)
    (hlost : ¬ HasContent Schema.note Schema.idColumn (cursor? settings).isSome
      (afterImport m settings (documentWith record) st) id record) :
    ∃ report d', (sync (household {}) m "t").run d = .ok report d' ∧
      ¬ TakesNewer ids {} "t" d d' := by
  obtain ⟨⟨report, d', hsync, hd'⟩, hdownloads⟩ := exists_sync hd hread himport
  refine ⟨report, d', hsync, fun htakes => hlost ?_⟩
  subst hd
  obtain ⟨t, row, ht, hrows, hkey, -, hrecord⟩ := exists_of_notesOf hnotes
  rw [← hd']
  exact htakes _ _ ((hdownloads _ _).2 ⟨rfl, rfl⟩) Schema.note (by decide) record List.mem_cons_self
    id hids hid t row ht (isRowOf_of_singleton hrows (hkey.trans hown)) (hrecord ▸ hnewer)

end Sync

theorem readsBack_notes : (documentWith (noteAt "a" 0 "old" "01")).ReadsBack ∧
    (documentWith (noteAt "a" 1 "new" "03")).ReadsBack ∧
    (documentWith (noteAt "" 1 "old" "03")).ReadsBack := by
  simp only [Document.readsBack_iff]
  decide +kernel

/-- The note is backed up. -/
def firstEvents : List (Event Bool) :=
  [.edit false noteEntity insertion, .backup false (dayOf "02") "t"]

theorem deviceAt_firstEvents : (twoDevices.run {} firstEvents).deviceAt true =
    { database := migratedTables
      remote := holding (household {}) (({} : RemoteStore).withToken "t")
        (documentWith (noteAt "a" 0 "old" "01")) } :=
  deviceAt_of_backup shows_twoDevices (Result.toOption_eq_some_iff.1 runs_notes.1) (dayOf "02")

/-- The note goes from one device to the other. -/
theorem sync_takes_note : ∃ report d',
    (sync (household {}) (dayOf "04") "t").run ((twoDevices.run {} firstEvents).deviceAt true) =
      .ok report d' ∧
    HasContent Schema.note Schema.idColumn false d'.database "a" (noteAt "a" 0 "old" "01") := by
  obtain ⟨-, -, -, himport, -⟩ := runs_notes
  obtain ⟨⟨report, d', hsync, -⟩, hdownloads⟩ :=
    exists_sync deviceAt_firstEvents readsBack_notes.1 himport
  obtain ⟨info, document, db, hdownload, -, -, htakes⟩ :=
    sync_takes isStart_twoDevices firstEvents rfl hsync
  obtain ⟨-, rfl⟩ := (hdownloads _ _).1 hdownload
  have hcursor : cursor? ((twoDevices.run {} firstEvents).deviceAt true).settings = none := by
    rw [deviceAt_firstEvents]
    exact cursor?_deviceOf blankStorage {}
  have htaken : isTaken ((twoDevices.run {} firstEvents).deviceAt true).settings
      (noteAt "a" 0 "old" "01") := by
    rw [isTaken, hcursor]
    rfl
  have hcontent := htakes Schema.note (by decide) [] _ [] rfl htaken "a" rfl (by decide)
    (fun k h => ne_identifier k h.symm) (.inr fun _ h => absurd h List.not_mem_nil)
  rw [hcursor] at hcontent
  exact ⟨report, d', hsync, hcontent⟩

/-- The note is backed up, changed, taken over by the other device as it was, and backed up. -/
def skippingEvents : List (Event Bool) :=
  [.edit false noteEntity insertion, .backup false (dayOf "02") "t",
    .edit false noteEntity correction, .sync true (dayOf "04") "t", .backup false (dayOf "05") "t"]

theorem exists_deviceAt_skippingEvents :
    ∃ r, (twoDevices.run {} skippingEvents).deviceAt true =
      { database := copiedTables
        settings := copiedSettings
        remote := holding (household {}) r (documentWith (noteAt "a" 1 "new" "03"))
        phase := .success } := by
  obtain ⟨hexport, hchanged, -, himport, -⟩ := runs_notes
  exact exists_deviceAt_of_two_backups shows_twoDevices (Result.toOption_eq_some_iff.1 hexport)
    (Document.ofGzip_toGzip rfl readsBack_notes.1) himport
    (Result.toOption_eq_some_iff.1 hchanged) (dayOf "02") (dayOf "05")

/-- The change reaches the other device, but is not later than its last sync. -/
theorem exists_sync_skippingEvents : ∃ report d',
    (sync (household {}) (dayOf "06") "t").run ((twoDevices.run {} skippingEvents).deviceAt true) =
      .ok report d' ∧
    ¬ TakesNewer (fun id => id ≠ "") {} "t" ((twoDevices.run {} skippingEvents).deviceAt true)
      d' := by
  obtain ⟨-, -, hcopied, -, himport, hnotes⟩ := runs_notes
  obtain ⟨r, hdevice⟩ := exists_deviceAt_skippingEvents
  generalize (twoDevices.run {} skippingEvents).deviceAt true = d at hdevice ⊢
  have hnewer : isNewer (noteAt "a" 1 "new" "03") (noteAt "a" 0 "old" "01") := by decide +kernel
  have hnormal : ((normalizeDates Schema.note (noteAt "a" 1 "new" "03")).toOption.bind
      (·.get? "content")) = some (.str "new") := by decide +kernel
  refine exists_sync_of_not_hasContent hdevice readsBack_notes.2.1 himport (by decide) rfl hcopied
    rfl hnewer fun h => ?_
  exact absurd (h.eq_text hnotes hnormal).2 (by decide)

theorem isTimed_skippingEvents : IsTimed (skippingEvents ++ [.sync true (dayOf "06") "t"]) :=
  ⟨[⟨1714521600, 0⟩, ⟨1714608000, 0⟩, ⟨1714694400, 0⟩, ⟨1714780800, 0⟩, ⟨1714867200, 0⟩,
    ⟨1714953600, 0⟩], by decide +kernel, by decide +kernel⟩

/-- Each device has the note without its identifier, and one of them is backed up. -/
def namelessEvents : List (Event Bool) :=
  [.edit false noteEntity insertion, .edit true noteEntity insertion,
    .edit true noteEntity (erasure "02"), .edit false noteEntity (erasure "03"),
    .backup false (dayOf "04") "t"]

theorem deviceAt_namelessEvents : (twoDevices.run {} namelessEvents).deviceAt true =
    { database := namelessTables "02"
      remote := holding (household {}) (({} : RemoteStore).withToken "t")
        (documentWith (noteAt "" 1 "old" "03")) } :=
  deviceAt_of_edits shows_twoDevices (Result.toOption_eq_some_iff.1 runs_nameless.1) (dayOf "04")

/-- The later state of the note reaches the other device, but gets a fresh identifier. -/
theorem exists_sync_namelessEvents : ∃ report d',
    (sync (household {}) (dayOf "05") "t").run ((twoDevices.run {} namelessEvents).deviceAt true) =
      .ok report d' ∧
    ¬ TakesNewer (fun _ => True) {} "t" ((twoDevices.run {} namelessEvents).deviceAt true) d' := by
  obtain ⟨-, hown, himport, hnotes⟩ := runs_nameless
  have hdevice := deviceAt_namelessEvents
  generalize (twoDevices.run {} namelessEvents).deviceAt true = d at hdevice ⊢
  have hnewer : isNewer (noteAt "" 1 "old" "03") (noteAt "" 1 "old" "02") := by decide +kernel
  have hnormal : ((normalizeDates Schema.note (noteAt "" 1 "old" "03")).toOption.bind
      (·.get? "content")) = some (.str "old") := by decide +kernel
  refine exists_sync_of_not_hasContent hdevice readsBack_notes.2.2 himport trivial rfl hown rfl
    hnewer fun h => ?_
  have hlength := length_identifier 0
  rw [Cell.text.inj (h.eq_text hnotes hnormal).1] at hlength
  exact absurd hlength (by decide)

theorem isTimed_namelessEvents : IsTimed (namelessEvents ++ [.sync true (dayOf "05") "t"]) :=
  ⟨[⟨1714521600, 0⟩, ⟨1714521600, 0⟩, ⟨1714608000, 0⟩, ⟨1714694400, 0⟩, ⟨1714780800, 0⟩,
    ⟨1714867200, 0⟩], by decide +kernel, by decide +kernel⟩

/-- That a record is newer than the row of its identifier does not suffice for it to be taken over:
neither if the identifier is not empty, nor if the device knows of no sync. -/
theorem not_forall_takesNewer :
    (¬ ∀ (events : List (Event Bool)) (m : Moment) (token : String) (report : ImportReport)
      (d' : Device Storage), IsTimed (events ++ [.sync true m token]) →
      (sync (household {}) m token).run ((twoDevices.run {} events).deviceAt true) =
        .ok report d' →
      TakesNewer (fun id => id ≠ "") {} token ((twoDevices.run {} events).deviceAt true) d') ∧
    ¬ ∀ (events : List (Event Bool)) (m : Moment) (token : String) (report : ImportReport)
      (d' : Device Storage), IsTimed (events ++ [.sync true m token]) →
      cursor? ((twoDevices.run {} events).deviceAt true).settings = none →
      (sync (household {}) m token).run ((twoDevices.run {} events).deviceAt true) =
        .ok report d' →
      TakesNewer (fun _ => True) {} token ((twoDevices.run {} events).deviceAt true) d' := by
  constructor
  · intro hall
    obtain ⟨report, d', hsync, hlost⟩ := exists_sync_skippingEvents
    exact hlost (hall _ _ _ report d' isTimed_skippingEvents hsync)
  · intro hall
    obtain ⟨report, d', hsync, hlost⟩ := exists_sync_namelessEvents
    refine hlost (hall _ _ _ report d' isTimed_namelessEvents ?_ hsync)
    rw [deviceAt_namelessEvents]
    exact cursor?_deviceOf blankStorage {}

end Daybook.Sync
