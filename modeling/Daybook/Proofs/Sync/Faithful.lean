import Daybook.Proofs.Calendar.Format
import Daybook.Proofs.Sync.Sharing

/-!
# Restores that lose nothing

A record is faithful if an import keeps it as it is and what the columns store for it gives it back.
Faithful records that an import writes are the records of their tables then, in their order
(`records_of_importAll`). The records of an export are faithful if the dates of the table are in the
normal form, its numbers are finite and its keys are not empty. So a sync after a backup of such
tables succeeds, and leaves a device that exports the same document (**`export_restored`**).

* `IsFaithful`: a record that an import and the columns keep;
* `IsTidy`, `IsExact`: a row with such dates and numbers, and one with such a key as well;
* `records_of_importAll`: what an import of faithful records leaves.
-/

namespace Daybook.Sync

open Sql Store Calendar

variable {s : Schema} {record : Record}

/-! ## Records that stay as they are -/

/-- An import keeps the record as it is, and what the columns store for it gives it back. -/
structure IsFaithful (s : Schema) (record : Record) : Prop where
  ordered : record.Ordered
  stored : ∀ c ∈ s.columns, record.get? c.name = some (cellFor c record).toJson
  declared : ∀ name, (∀ c ∈ s.columns, c.name ≠ name) → record.get? name = none
  named : ∀ key, s.key? = some key → isMissingKey (record.get? key.name) = false
  normal : normalizeDates s record = .ok record

theorem IsFaithful.isComplete (h : IsFaithful s record) : IsComplete s record := by
  intro c hc
  rw [KeyMap.contains, h.stored c hc]
  rfl

variable {t : Table}

theorem ordered_record (t : Table) (r : Row) : (t.record r).Ordered := KeyMap.ordered_ofList _

/-- The record of a row has values for the columns only. -/
theorem get?_record_of_ne (hmade : t.MadeFor s) (r : Row) {name : String}
    (h : ∀ c ∈ s.columns, c.name ≠ name) : (t.record r).get? name = none := by
  rw [Table.record, KeyMap.ofList, KeyMap.get?_foldl_insert_of_not_mem]
  · rfl
  · intro hmem
    obtain ⟨p, hp, rfl⟩ := List.mem_map.1 hmem
    obtain ⟨d, hd, hname⟩ := List.mem_map.1 (List.of_mem_zip hp).1
    obtain ⟨c, hc, rfl⟩ := List.mem_map.1 (hmade.columns.mem_iff.1 hd)
    exact h c hc hname

/-- The row that holds a faithful record has it as its record. -/
theorem IsFaithful.record_eq (hfaithful : IsFaithful s record) (hserves : t.Serves s) {r : Row}
    (hr : r ∈ t.rows) (hholds : HoldsRecord s t record r) : t.record r = record := by
  refine KeyMap.ext_of_ordered (ordered_record _ _) hfaithful.ordered fun name => ?_
  by_cases hname : ∃ c ∈ s.columns, c.name = name
  · obtain ⟨c, hc, rfl⟩ := hname
    rw [hholds.get?_record hserves hr hc, hfaithful.stored c hc]
  · have hne : ∀ c ∈ s.columns, c.name ≠ name := fun c hc h => hname ⟨c, hc, h⟩
    rw [get?_record_of_ne hserves.made _ hne, hfaithful.declared name hne]

/-! ## Imports of faithful records -/

variable {schemas : List Schema} {st st' : Storage}

/-- A document whose records stay as they are in an import is itself normalized. -/
theorem recordsFor_of_isFaithful (hnames : (schemas.map Schema.table).Nodup) {d d' : Document}
    (hnormal : normalizeTables schemas d = .ok d') (hs : s ∈ schemas)
    (h : ∀ record ∈ recordsFor d s, IsFaithful s record) : recordsFor d' s = recordsFor d s := by
  have hall := Result.mapM_eq_ok_iff.2 (normalized_recordsFor hnames hnormal hs)
  have hsame : (recordsFor d s).mapM (normalizeDates s) = .ok (recordsFor d s) :=
    Result.mapM_eq_ok_iff.2 (List.forall₂_same.2 fun record hrecord => (h record hrecord).normal)
  rw [hsame] at hall
  exact (Except.ok.inj hall).symm

/-- **An import of faithful records leaves the tables with them.** -/
theorem records_of_importAll {r : Schema.Registry} (hschemas : ∀ s ∈ r.schemas, s.Portable)
    (htables : (r.schemas.map fun s => upper s.table).Nodup)
    (hserved : ∀ s ∈ r.schemas, IsServed st s) {m : Moment} {d : Document} {report : ImportReport}
    (hfaithful : ∀ s ∈ r.schemas, ∀ record ∈ recordsFor d s, IsFaithful s record)
    (hrun : (importAll r m d true).run Storage.engine st = (.ok report, st')) :
    ∀ s ∈ r.schemas, ∃ t', st'.table? s.table = some t' ∧
      t'.rows.map t'.record = recordsFor d s := by
  intro s hs
  obtain ⟨key, hkey, -⟩ := (hschemas s hs).keyed
  obtain ⟨d', hnormal, t', ht', hserves, hrows⟩ := rows_of_importAll hschemas htables hserved hrun hs
    hkey fun record hrecord =>
      ⟨(hfaithful s hs record hrecord).isComplete, (hfaithful s hs record hrecord).named key hkey⟩
  rw [recordsFor_of_isFaithful (nodup_tables htables) hnormal hs (hfaithful s hs)] at hrows
  have hsame : List.Forall₂ (fun record r => t'.record r = record) (recordsFor d s) t'.rows :=
    Result.forall₂_imp_of_mem hrows fun record hrecord r hr hholds =>
      (hfaithful s hs record hrecord).record_eq hserves hr hholds
  refine ⟨t', ht', ?_⟩
  rw [← List.forall₂_eq_eq_eq, List.forall₂_map_left_iff]
  exact hsame.flip

/-! ## Rows that are given back -/

/-- The cell is a date in the normal form. -/
def IsNormalDate : Cell → Prop
  | .text text => IsNormal text
  | _ => False

instance : (v : Cell) → Decidable (IsNormalDate v)
  | .text text => inferInstanceAs (Decidable (IsNormal text))
  | .null | .int _ | .real _ | .blob _ => inferInstanceAs (Decidable False)

/-- The cell is no infinite number. -/
def IsFinite : Cell → Prop
  | .real x => x.isFinite
  | _ => True

instance : (v : Cell) → Decidable (IsFinite v)
  | .real x => inferInstanceAs (Decidable x.isFinite)
  | .null | .int _ | .text _ | .blob _ => inferInstanceAs (Decidable True)

/-- The dates of the row are in the normal form, and its numbers are finite. -/
structure IsTidy (s : Schema) (t : Table) (r : Row) : Prop where
  dated : ∀ c ∈ s.columns, c.isDate ∨ c.name = Schema.createdColumn →
    IsNormalDate (t.cellOf r.cells c.name)
  finite : ∀ v ∈ r.cells, IsFinite v

instance (s : Schema) (t : Table) (r : Row) : Decidable (IsTidy s t r) :=
  decidable_of_iff ((∀ c ∈ s.columns, c.isDate ∨ c.name = Schema.createdColumn →
    IsNormalDate (t.cellOf r.cells c.name)) ∧ ∀ v ∈ r.cells, IsFinite v)
    ⟨fun h => ⟨h.1, h.2⟩, fun h => ⟨h.dated, h.finite⟩⟩

/-- A tidy row whose key is not empty. -/
structure IsExact (s : Schema) (t : Table) (r : Row) : Prop extends IsTidy s t r where
  named : ∀ key, s.key? = some key → t.cellOf r.cells key.name ≠ .text ""

instance (s : Schema) (t : Table) (r : Row) : Decidable (IsExact s t r) :=
  decidable_of_iff (IsTidy s t r ∧ ∀ key ∈ s.key?, t.cellOf r.cells key.name ≠ .text "")
    ⟨fun h => ⟨h.1, h.2⟩, fun h => ⟨h.toIsTidy, h.named⟩⟩

theorem ofJson_toJson_of_isFinite {a : Cell} (hplain : a.Plain) (hfinite : IsFinite a) :
    Cell.ofJson a.toJson = a := by
  rcases hplain.ofJson_toJson with hback | hnull
  · exact hback
  · cases a with
    | null => rfl
    | real x =>
      rw [Cell.toJson, if_pos (show x.isFinite from hfinite)]
      rfl
    | int n => cases hnull
    | text x => cases hnull
    | blob b => cases hnull

theorem exists_text {v : Cell} (h : IsNormalDate v) : ∃ text, v = .text text ∧ IsNormal text := by
  cases v with
  | text text => exact ⟨text, rfl, h⟩
  | null => cases h
  | int n => cases h
  | real x => cases h
  | blob b => cases h

theorem isBlank_of_isNormal {text : String} (h : IsNormal text) :
    isBlank (some (.str text)) = false :=
  isBlank_normalized (normalize?_of_isNormal h)

/-- A record whose dates are in the normal form stays as it is. -/
theorem normalizeDates_of_isNormal (hordered : record.Ordered)
    (hdated : ∀ c ∈ s.columns, c.isDate ∨ c.name = Schema.createdColumn →
      ∃ text, record.get? c.name = some (.str text) ∧ IsNormal text) :
    normalizeDates s record = .ok record := by
  have hdate : ∀ c ∈ s.dateColumns, ∃ text, record.get? c.name = some (.str text) ∧
      dateOf? record c = some text ∧ IsNormal text := by
    intro c hc
    obtain ⟨hc, hdate⟩ := List.mem_filter.1 hc
    obtain ⟨text, hget, hnormal⟩ := hdated c hc (.inl hdate)
    refine ⟨text, hget, ?_, hnormal⟩
    rw [dateOf?, hget, isBlank_of_isNormal hnormal, if_neg Bool.false_ne_true, Option.bind_some,
      normalize?_of_isNormal hnormal]
  have hfixed : fixed s record = record := by
    rw [fixed_eq]
    refine KeyMap.foldl_insert_eq_self hordered fun p hp => ?_
    obtain ⟨c, hc, hp⟩ := List.mem_filterMap.1 hp
    obtain ⟨text, hget, htext, -⟩ := hdate c hc
    rw [htext, Option.map_some, Option.some.injEq] at hp
    rw [← hp, hget]
  refine normalizeDates_eq_ok_iff.2 ⟨fun c hc => ?_, ?_⟩
  · obtain ⟨text, hget, -, hnormal⟩ := hdate c hc
    rw [IsDated, hget, isBlank_of_isNormal hnormal, if_neg Bool.false_ne_true, Option.bind_some,
      normalize?_of_isNormal hnormal]
    rfl
  · rw [hfixed, withCreated, if_neg]
    rw [Bool.and_eq_true, not_and, Bool.not_eq_true]
    intro hcreated
    obtain ⟨c, hc⟩ := Option.isSome_iff_exists.1 hcreated
    have hname := List.find?_some hc
    rw [decide_eq_true_eq] at hname
    obtain ⟨text, hget, hnormal⟩ := hdated c (List.mem_of_find?_eq_some hc) (.inr hname)
    rw [← hname, hget]
    exact isBlank_of_isNormal hnormal

section Exact

variable (hs : s.Portable) (hserves : t.Serves s) (hplain : t.Plain) {r : Row} (hr : r ∈ t.rows)
  (h : IsExact s t r)

include hserves hplain hr h

/-- The values of an exact row give its cells back. -/
theorem IsExact.ofJson_cellOf {c : Column} (hc : c ∈ s.columns) :
    Cell.ofJson (t.cellOf r.cells c.name).toJson = t.cellOf r.cells c.name := by
  have hmem := cellOf_mem_cells hserves.made (hserves.sound.fits r hr).width hc
  exact ofJson_toJson_of_isFinite (hplain r hr _ hmem) (h.finite _ hmem)

include hs

/-- **The record of an exact row is faithful.** -/
theorem IsExact.isFaithful : IsFaithful s (t.record r) := by
  have hfits := hserves.sound.fits r hr
  have hget : ∀ c ∈ s.columns, (t.record r).get? c.name =
      some (t.cellOf r.cells c.name).toJson := fun c hc =>
    hserves.made.get?_record hfits.width hc
  have hback := fun c hc => h.ofJson_cellOf hserves hplain hr (c := c) hc
  refine ⟨ordered_record t r, fun c hc => ?_, fun name => get?_record_of_ne hserves.made r,
    fun key hkey => ?_, normalizeDates_of_isNormal (ordered_record t r) fun c hc hdate => ?_⟩
  · rw [cellFor, hget c hc, Option.getD_some, hback c hc, (hserves.made.holds hc hfits).stored]
  · have hmem := (Schema.mem_key? hkey).1
    obtain ⟨id, hid⟩ := (isExported_record hs hserves hplain hr).exists_key hs hkey
    have hcell := hback key hmem
    rw [hget key hmem, Option.some.injEq] at hid
    rw [hid] at hcell
    have hne : id ≠ "" := by
      rintro rfl
      exact h.named key hkey hcell.symm
    rw [hget key hmem, hid]
    simpa [isMissingKey] using hne
  · obtain ⟨text, hcell, hnormal⟩ := exists_text (h.dated c hc hdate)
    exact ⟨text, by rw [hget c hc, hcell]; rfl, hnormal⟩

/-- An import takes the record of an exact row. -/
theorem IsExact.isRestorable : IsRestorable s (t.record r) := by
  have hnormal := (h.isFaithful hs hserves hplain hr).normal
  refine ⟨(normalizeDates_eq_ok_iff.1 hnormal).1, fun c hc hrequired hnull => ?_⟩
  have hfits := hserves.sound.fits r hr
  have hback := h.ofJson_cellOf hserves hplain hr hc
  rw [hserves.made.get?_record hfits.width hc, Option.some.injEq] at hnull
  rw [hnull] at hback
  have hcell := (hserves.made.holds hc hfits).notNull hrequired
  rw [← hback] at hcell
  exact Bool.noConfusion hcell

end Exact

/-! ## Exports of restored tables -/

/-- What holds of all rows of the tables of schemas. -/
def AllRows (P : Schema → Table → Row → Prop) (schemas : List Schema) (st : Storage) : Prop :=
  ∀ s ∈ schemas, ∀ t ∈ st.table? s.table, ∀ r ∈ t.rows, P s t r

instance (P : Schema → Table → Row → Prop) [∀ s t r, Decidable (P s t r)] (schemas : List Schema)
    (st : Storage) : Decidable (AllRows P schemas st) :=
  inferInstanceAs (Decidable (∀ s ∈ schemas, ∀ t ∈ st.table? s.table, ∀ r ∈ t.rows, P s t r))

/-- Tables with the same records are exported as the same document. -/
theorem exported_congr {db db' : Database} (h : ∀ s ∈ schemas, recordsOf db s = recordsOf db' s)
    (d : Document) : exported db schemas d = exported db' schemas d := by
  induction schemas generalizing d with
  | nil => rfl
  | cons s rest ih =>
    rw [List.forall_mem_cons] at h
    rw [exported, List.foldl_cons, h.1]
    exact ih h.2 _

/-- What an export gives of exact rows is kept by an import. -/
theorem isFaithful_exported (hschemas : ∀ s ∈ schemas, s.Portable)
    (htables : (schemas.map fun s => upper s.table).Nodup) {c : Connection}
    (hc : st.opened = .ok c) (hserves : c.database.Serves schemas)
    (h : AllRows IsExact schemas st) (hs : s ∈ schemas) :
    ∀ record ∈ recordsFor (exported c.database schemas {}) s,
      IsFaithful s record ∧ IsRestorable s record := by
  obtain ⟨t, ht, hserve, hplain⟩ := hserves s hs
  intro record hrecord
  rw [recordsFor, table?_exported (nodup_tables htables) hs, recordsOf, ht] at hrecord
  obtain ⟨r, hr, rfl⟩ := List.mem_map.1 hrecord
  have ht' : st.table? s.table = some t := by rw [Storage.table?, hc, ← ht]
  have hexact := h s hs t ht' r hr
  exact ⟨hexact.isFaithful (hschemas s hs) hserve hplain hr,
    hexact.isRestorable (hschemas s hs) hserve hplain hr⟩

/-- Tables with the records of a document are exported as that document. -/
theorem run_exportAll_of_records (hschemas : ∀ s ∈ schemas, s.Portable) (hne : schemas ≠ [])
    (hnames : (schemas.map Schema.table).Nodup) {db : Database}
    (h : ∀ s ∈ schemas, ∃ t, st.table? s.table = some t ∧
      t.rows.map t.record = recordsFor (exported db schemas {}) s) :
    ((exportAll ⟨schemas⟩).run Storage.engine st).1 = .ok (exported db schemas {}) := by
  obtain ⟨s₀, hs₀⟩ := List.exists_mem_of_ne_nil _ hne
  obtain ⟨_, ht₀, -⟩ := h s₀ hs₀
  obtain ⟨c, hc, -⟩ := Storage.table?_eq_some ht₀
  have htable : ∀ s ∈ schemas, ∃ t, c.database.table? s.table = some t ∧
      t.rows.map t.record = recordsOf db s := by
    intro s hs
    obtain ⟨t, ht, hrecords⟩ := h s hs
    rw [Storage.table?, hc] at ht
    rw [recordsFor, table?_exported hnames hs, Option.getD_some] at hrecords
    exact ⟨t, ht, hrecords⟩
  obtain ⟨st', hrun, -⟩ := run_exportInto hschemas hc (fun s hs => by
    obtain ⟨t, ht, -⟩ := htable s hs
    rw [ht]
    rfl) {}
  rw [exportAll, hrun, exported_congr fun s hs => ?_]
  obtain ⟨t, ht, hrecords⟩ := htable s hs
  rw [recordsOf, ht, ← hrecords]

/-- A device that takes over a backup of exact rows exports the document of the backup. -/
theorem export_restored_of_serves {setup : Setup Storage} (hengine : setup.engine = Storage.engine)
    (hschemas : ∀ s ∈ setup.registry.schemas, s.Portable)
    (hne : setup.registry.schemas ≠ [])
    (htables : (setup.registry.schemas.map fun s => upper s.table).Nodup)
    (hlegacy : ∀ s ∈ setup.registry.schemas, s.table ≠ "spendingList") {a a' b : Device Storage}
    (hserves : a.database.Holds (Database.Serves setup.registry.schemas)) (hkeyed : a.remote.Keyed)
    (hexact : AllRows IsExact setup.registry.schemas a.database)
    {m m' : Moment} {token token' : String} {info : FileInfo}
    (hbackup : (backup setup m token).run a = .ok info a') {document : Document}
    (hexport : ((exportAll setup.registry).run Storage.engine a.database).1 = .ok document)
    (hread : document.ReadsBack) (hremote : b.remote = a'.remote)
    (hcursor : cursor? b.settings = none)
    (hserved : ∀ s ∈ setup.registry.schemas,
      ∃ t, b.database.table? s.table = some t ∧ t.Serves s) :
    ∃ report b', (sync setup m' token').run b = .ok report b' ∧
      ((exportAll setup.registry).run Storage.engine b'.database).1 = .ok document := by
  obtain ⟨ca, hca, hserve⟩ := hserves
  obtain ⟨c, hc, hopened⟩ := exists_opened hne hserved
  obtain rfl := eq_exported hschemas hca hserve hexport
  have hkept := fun s hs => isFaithful_exported hschemas htables hca hserve hexact (s := s) hs
  have hnamed : IsNamed setup.registry.schemas
      (exported ca.database setup.registry.schemas {}) := by
    intro s hs records hrecords record hrecord key hkey hempty
    have hmissing := (hkept s hs record (by rwa [recordsFor, hrecords])).1.named key hkey
    rw [hempty] at hmissing
    exact Bool.noConfusion hmissing
  have hrestorable : ∀ s ∈ setup.registry.schemas,
      IsRestorableAll (exported ca.database setup.registry.schemas {}) s := by
    intro s hs records hrecords record hrecord
    exact (hkept s hs record (by rwa [recordsFor, hrecords])).2
  obtain ⟨report, st', hrun⟩ := (run_importAll_isOk_iff (m := m') hschemas htables hc hopened
    fun s hs => isBackup_exported hschemas htables hserve (.inl hnamed) hs).2 hrestorable
  refine ⟨report, _, (sync_eq_ok_iff_of_backup hkeyed hbackup (hengine ▸ hexport)
    (ofGzip_exported hlegacy hread) hremote hcursor).2 ⟨st', hengine ▸ hrun, rfl⟩, ?_⟩
  exact run_exportAll_of_records hschemas hne (nodup_tables htables)
    (records_of_importAll hschemas htables hserved (fun s hs record hrecord =>
      (hkept s hs record hrecord).1) hrun)

/-- **Backup and restore give back exactly the same data**: a sync after a backup of rows that are
exact succeeds, and leaves a device that exports the document of the backup, whatever edits led to
the backup and whatever the other device held. -/
theorem export_restored {config : SyncConfig} {a a' b : Device Storage}
    (hkept : Kept Schema.models a.database) (hkeyed : a.remote.Keyed)
    (hexact : AllRows IsExact Schema.models a.database) {m m' : Moment} {token token' : String}
    {info : FileInfo} (hbackup : (backup (household config) m token).run a = .ok info a')
    {document : Document}
    (hexport : ((exportAll ⟨Schema.models⟩).run Storage.engine a.database).1 = .ok document)
    (hread : document.ReadsBack) (hremote : b.remote = a'.remote)
    (hcursor : cursor? b.settings = none)
    (hserved : ∀ s ∈ Schema.models, ∃ t, b.database.table? s.table = some t ∧ t.Serves s) :
    ∃ report b', (sync (household config) m' token').run b = .ok report b' ∧
      ((exportAll ⟨Schema.models⟩).run Storage.engine b'.database).1 = .ok document := by
  exact export_restored_of_serves rfl Schema.portable_models models_ne_nil nodup_models
    table_ne_of_models (hkept.serves Schema.portable_models models_ne_nil nodup_models) hkeyed
    hexact hbackup hexport hread hremote hcursor hserved

/-! ## A note without an identifier -/

theorem kept_afterEdit (h : Kept Schema.models st) (e : Edit) :
    Kept Schema.models (afterEdit e st) :=
  h.edit noteEntity.2 e

theorem kept_notedTables : Kept Schema.models notedTables :=
  kept_afterEdit kept_migratedTables insertion

theorem kept_namelessTables (day : String) : Kept Schema.models (namelessTables day) :=
  kept_afterEdit kept_notedTables (erasure day)

theorem allRows_deviceOf {P : Schema → Table → Row → Prop} (h : AllRows P schemas st)
    (r : RemoteStore) : AllRows P schemas (deviceOf st r).database := h

/-- The rows of the tables with the note, and what becomes of the note without an identifier. -/
theorem runs_restored :
    AllRows IsExact Schema.models notedTables ∧
    AllRows IsTidy Schema.models (namelessTables "03") ∧
    ((exportAll ⟨Schema.models⟩).run Storage.engine (afterImport (dayOf "05") Settings.defaults
      (documentWith (noteAt "" 1 "old" "03")) migratedTables)).1.toOption =
        some (documentWith (noteAt (identifier 0) 1 "old" "03")) := by
  decide +kernel

/-- A note comes back as it was. -/
theorem export_restored_note : ∃ info a',
    (backup (household {}) (dayOf "02") "t").run (deviceOf notedTables {}) = .ok info a' ∧
    ∃ report b', (sync (household {}) (dayOf "04") "t").run (deviceOf migratedTables a'.remote) =
      .ok report b' ∧
    ((exportAll ⟨Schema.models⟩).run Storage.engine b'.database).1 =
      .ok (documentWith (noteAt "a" 0 "old" "01")) := by
  obtain ⟨hexport, -⟩ := runs_notes
  obtain ⟨info, a', hbackup⟩ := run_backup_deviceOf hexport (dayOf "02") "t"
  refine ⟨info, a', hbackup, ?_⟩
  exact export_restored (b := deviceOf migratedTables a'.remote)
    (kept_deviceOf kept_notedTables {}) (keyed_deviceOf _) (allRows_deviceOf runs_restored.1 {})
    hbackup (run_exportAll_deviceOf hexport {}) readsBack_notes.1 rfl (cursor?_deviceOf _ _)
    (serves_deviceOf serves_migratedTables _)

/-- What a sync leaves in the database of a device that took over nothing before. -/
theorem database_of_sync {st : Storage} {r : RemoteStore} {document : Document}
    (hread : Document.ofGzip document.toGzip = .ok document) {m : Moment} {token : String}
    {report : ImportReport} {b' : Device Storage}
    (hsync : (sync (household {}) m token).run (deviceOf st (holding (household {}) r document)) =
      .ok report b') : b'.database = afterImport m Settings.defaults document st := by
  obtain ⟨s, hrun, rfl⟩ := (sync_eq_ok_iff_of_holding hread rfl).1 hsync
  exact (congrArg Prod.snd hrun).symm

/-- Not so with an empty identifier: the note that is restored has an identifier that was made
up. -/
theorem not_forall_export_restored :
    ¬ ∀ (a a' b : Device Storage) (m m' : Moment) (token token' : String) (info : FileInfo)
      (document : Document), Kept Schema.models a.database → a.remote.Keyed →
      AllRows IsTidy Schema.models a.database →
      (backup (household {}) m token).run a = .ok info a' →
      ((exportAll ⟨Schema.models⟩).run Storage.engine a.database).1 = .ok document →
      document.ReadsBack → b.remote = a'.remote → cursor? b.settings = none →
      (∀ s ∈ Schema.models, ∃ t, b.database.table? s.table = some t ∧ t.Serves s) →
      ∃ report b', (sync (household {}) m' token').run b = .ok report b' ∧
        ((exportAll ⟨Schema.models⟩).run Storage.engine b'.database).1 = .ok document := by
  intro h
  obtain ⟨hexport, -⟩ := runs_nameless
  obtain ⟨-, -, hread⟩ := readsBack_notes
  obtain ⟨-, htidy, hrestored⟩ := runs_restored
  obtain ⟨info, a', hbackup⟩ := run_backup_deviceOf hexport (dayOf "04") "t"
  have hremote := remote_of_backup (keyed_deviceOf _) hbackup (run_exportAll_deviceOf hexport {})
  obtain ⟨report, b', hsync, hback⟩ := h (deviceOf (namelessTables "03") {}) a'
    (deviceOf migratedTables a'.remote) (dayOf "04") (dayOf "05") "t" "t" info _
    (kept_deviceOf (kept_namelessTables "03") {}) (keyed_deviceOf _) (allRows_deviceOf htidy {})
    hbackup (run_exportAll_deviceOf hexport {}) hread rfl (cursor?_deviceOf _ _)
    (serves_deviceOf serves_migratedTables _)
  rw [hremote] at hsync
  rw [database_of_sync (Document.ofGzip_toGzip rfl hread) hsync] at hback
  rw [hback] at hrestored
  exact absurd hrestored (by decide +kernel)

end Daybook.Sync
