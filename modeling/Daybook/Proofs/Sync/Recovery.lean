import Daybook.Proofs.Backup.Document
import Daybook.Proofs.Migration.Create
import Daybook.Proofs.Sync.Restore
import Daybook.Proofs.Sync.TakeOver

/-!
# Backups that can be restored

What edits make of freshly migrated tables is exported as it stands, and a device without a sync
takes over the document. The tables accept more than an import does: a date can be any text, and an
infinite number is null in a document. So a sync after a backup succeeds just if every record that
was exported is restorable (**`sync_isOk_iff_of_backup`**).

* `Kept`: what edits make of freshly migrated tables;
* `IsFresh`: identifiers that are made up at a moment are new to a document.
-/

namespace Daybook.Sync

open Sql Store Daybook.Sync.Action

/-! ## Tables that were migrated and edited -/

/-- The storage is what edits made of freshly migrated tables of schemas. -/
def Kept (schemas : List Schema) (st : Storage) : Prop :=
  ∃ fresh migrated checkColumns summary, (∀ s ∈ schemas, fresh.table? s.table = none) ∧
    (Migration.migrateAll ⟨schemas⟩ checkColumns).run Storage.engine fresh =
      (.ok summary, migrated) ∧ summary.isSuccess ∧ Edited schemas migrated st

variable {schemas : List Schema} {st : Storage}

/-- What edits make of freshly migrated tables serves the schemas. -/
theorem Kept.serves (hschemas : ∀ s ∈ schemas, s.Portable) (hne : schemas ≠ [])
    (htables : (schemas.map fun s => upper s.table).Nodup) (h : Kept schemas st) :
    st.Holds (Database.Serves schemas) := by
  obtain ⟨fresh, migrated, checkColumns, summary, hnone, hrun, hsuccess, hedited⟩ := h
  have hserves := (Migration.migrateEach_eq_ok (fun s hs => (hschemas s hs).valid) htables hnone
    checkColumns hrun hsuccess).1
  refine hedited.serves (fun s hs => (hschemas s hs).noBlobs) ?_
  obtain ⟨s₀, hs₀⟩ := List.exists_mem_of_ne_nil _ hne
  obtain ⟨t₀, ht₀, -⟩ := hserves s₀ hs₀
  obtain ⟨c, hc, -⟩ := Storage.table?_eq_some ht₀
  refine ⟨c, hc, fun s hs => ?_⟩
  obtain ⟨t, ht, hserve, hrows⟩ := hserves s hs
  rw [Storage.table?, hc] at ht
  exact ⟨t, ht, hserve, Table.plain_of_rows_eq_nil hrows⟩

/-- Tables that were edited once more. -/
theorem Kept.edit (h : Kept schemas st) {s : Schema} (hs : s ∈ schemas) (e : Edit) :
    Kept schemas ((e.program s).run Storage.engine st).2 := by
  obtain ⟨fresh, migrated, checkColumns, summary, hnone, hrun, hsuccess, hedited⟩ := h
  exact ⟨fresh, migrated, checkColumns, summary, hnone, hrun, hsuccess,
    hedited.tail ⟨s, hs, e, rfl⟩⟩

/-! ## The backup that a device leaves -/

/-- Identifiers that are made up at the moment are no keys of the document. -/
def IsFresh (m : Moment) (schemas : List Schema) (d : Document) : Prop :=
  ∀ s ∈ schemas, ∀ records, d.table? s.table = some records → ∀ record ∈ records,
    ∀ key, s.key? = some key → ∀ i, record.get? key.name ≠ some (.str (m.freshId i))

/-- No key of the document is empty. -/
def IsNamed (schemas : List Schema) (d : Document) : Prop :=
  ∀ s ∈ schemas, ∀ records, d.table? s.table = some records → ∀ record ∈ records,
    ∀ key, s.key? = some key → record.get? key.name ≠ some (.str "")

/-- The document of an export has records of an export for every schema. -/
theorem isBackup_exported (hschemas : ∀ s ∈ schemas, s.Portable)
    (htables : (schemas.map fun s => upper s.table).Nodup) {db : Database}
    (hserves : db.Serves schemas) {m : Moment}
    (hkeys : IsNamed schemas (exported db schemas {}) ∨ IsFresh m schemas (exported db schemas {}))
    {s : Schema} (hs : s ∈ schemas) : IsBackup m (exported db schemas {}) s := by
  obtain ⟨t, ht, hserve, hplain⟩ := hserves s hs
  have hget : (exported db schemas {}).table? s.table = some (t.rows.map t.record) := by
    rw [table?_exported (nodup_tables htables) hs, recordsOf, ht]
  obtain ⟨key, hkey, -⟩ := (hschemas s hs).keyed
  have hexported : ∀ record ∈ t.rows.map t.record, IsExported s record := by
    intro record hrecord
    obtain ⟨r, hr, rfl⟩ := List.mem_map.1 hrecord
    exact isExported_record (hschemas s hs) hserve hplain hr
  refine ⟨_, hget, hexported, key, hkey,
    fun record hrecord => (hexported record hrecord).exists_key (hschemas s hs) hkey,
    apart_records (hschemas s hs) hserve hplain hkey, ?_⟩
  rintro ⟨record, hrecord, hempty⟩ other hother i
  rcases hkeys with hnamed | hfresh
  · exact absurd hempty (hnamed s hs _ hget record hrecord key hkey)
  · exact hfresh s hs _ hget other hother key hkey i

section Newest

variable {σ : Type} (setup : Setup σ) (r : RemoteStore) (document : Document)

/-- The only backup is the newest. -/
theorem backups_holding : backups setup (holding setup r document) = [nextInfo setup r] := by
  have hold : ((emptied setup r).files.filter fun f => f.folder = setup.config.folder) = [] := by
    rw [List.filter_eq_nil_iff]
    intro f hf
    have hfolder := (List.mem_filter.1 hf).2
    simpa using hfolder
  have hnew : ((holding setup r document).files.filter fun f => f.folder = setup.config.folder) =
      [⟨nextInfo setup r, setup.config.folder, document.toGzip⟩] := by
    show List.filter _ (_ :: (emptied setup r).files) = _
    rw [List.filter_cons, if_pos (decide_eq_true rfl), hold]
  rw [backups, hnew]
  rfl

theorem download_holding (token : String) :
    ((holding setup r document).withToken token).download (nextInfo setup r).id =
      .ok document.toGzip := by
  have hfind : ((holding setup r document).withToken token).find? (nextInfo setup r).id =
      some ⟨nextInfo setup r, setup.config.folder, document.toGzip⟩ := by
    show List.find? _ (_ :: (emptied setup r).files) = _
    exact List.find?_cons_of_pos (decide_eq_true rfl)
  rw [RemoteStore.download, hfind]
  rfl

end Newest

/-- A backup leaves the document of the export as the only one. -/
theorem remote_of_backup {σ : Type} {setup : Setup σ} {a a' : Device σ} (hkeyed : a.remote.Keyed)
    {m : Moment} {token : String} {info : FileInfo}
    (hbackup : (backup setup m token).run a = .ok info a') {document : Document}
    (hexport : ((exportAll setup.registry).run setup.engine a.database).1 = .ok document) :
    a'.remote = holding setup (a.remote.withToken token) document := by
  have heq := backup_eq setup m token a hkeyed
  rw [hbackup] at heq
  revert heq hexport
  generalize (exportAll setup.registry).run setup.engine a.database = result
  rcases result with ⟨found, s⟩
  rintro rfl heq
  obtain ⟨-, rfl⟩ := EStateM.Result.ok.inj heq
  rfl

/-- What a device downloads from a remote store with one backup. -/
theorem downloads_iff_of_holding {σ : Type} {setup : Setup σ} {r : RemoteStore}
    {document : Document} (hread : Document.ofGzip document.toGzip = .ok document) {d : Device σ}
    (hremote : d.remote = holding setup r document) {token : String} {info : FileInfo}
    {found : Document} :
    Downloads setup token d info found ↔ info = nextInfo setup r ∧ found = document := by
  have hdownload : (d.remote.withToken token).download (nextInfo setup r).id =
      .ok document.toGzip := by
    rw [hremote, download_holding]
  rw [Downloads, hremote, backups_holding, ← hremote, List.head?_cons, Option.some.injEq,
    eq_comm]
  refine and_congr_right fun hinfo => ?_
  rw [hinfo, hdownload]
  constructor
  · rintro ⟨bytes, hbytes, hfound⟩
    rw [← Except.ok.inj hbytes, hread] at hfound
    exact (Except.ok.inj hfound).symm
  · rintro rfl
    exact ⟨_, rfl, hread⟩

/-- A sync from a remote store with one backup takes over its document. -/
theorem sync_eq_ok_iff_of_holding {σ : Type} {setup : Setup σ} {r : RemoteStore}
    {document : Document} (hread : Document.ofGzip document.toGzip = .ok document) {d d' : Device σ}
    (hremote : d.remote = holding setup r document) {m : Moment} {token : String}
    {report : ImportReport} :
    (sync setup m token).run d = .ok report d' ↔
      ∃ s, (importOf setup m d.settings document).run setup.engine d.database = (.ok report, s) ∧
        d' = synced d m token (nextInfo setup r).id s := by
  simp only [sync_eq_ok_iff, downloads_iff_of_holding hread hremote]
  constructor
  · rintro ⟨info, found, s, ⟨rfl, rfl⟩, hrun, hd'⟩
    exact ⟨s, hrun, hd'⟩
  · rintro ⟨s, hrun, hd'⟩
    exact ⟨_, _, s, ⟨rfl, rfl⟩, hrun, hd'⟩

/-- A sync after a backup imports the document of the export, if nothing was taken over before. -/
theorem sync_eq_ok_iff_of_backup {σ : Type} {setup : Setup σ} {a a' b b' : Device σ}
    (hkeyed : a.remote.Keyed) {m m' : Moment} {token token' : String} {info : FileInfo}
    (hbackup : (backup setup m token).run a = .ok info a') {document : Document}
    (hexport : ((exportAll setup.registry).run setup.engine a.database).1 = .ok document)
    (hread : Document.ofGzip document.toGzip = .ok document) (hremote : b.remote = a'.remote)
    (hcursor : cursor? b.settings = none) {report : ImportReport} :
    (sync setup m' token').run b = .ok report b' ↔ ∃ s,
      (importAll setup.registry m' document true).run setup.engine b.database = (.ok report, s) ∧
        b' = synced b m' token' (nextInfo setup (a.remote.withToken token)).id s := by
  have himport : importOf setup m' b.settings document =
      importAll setup.registry m' document true := by
    rw [importOf, hcursor]
  rw [sync_eq_ok_iff_of_holding hread (hremote.trans (remote_of_backup hkeyed hbackup hexport)),
    himport]

/-! ## What is exported, and where it is imported -/

/-- The document of an export has the records of the tables. -/
theorem eq_exported (hschemas : ∀ s ∈ schemas, s.Portable) {c : Connection}
    (hc : st.opened = .ok c) (hserves : c.database.Serves schemas) {document : Document}
    (hexport : ((exportAll ⟨schemas⟩).run Storage.engine st).1 = .ok document) :
    document = exported c.database schemas {} := by
  have hsome : ∀ s ∈ schemas, (c.database.table? s.table).isSome := by
    intro s hs
    obtain ⟨t, ht, -⟩ := hserves s hs
    rw [ht]
    rfl
  obtain ⟨st', hrun, -⟩ := run_exportInto hschemas hc hsome {}
  rw [exportAll, hrun] at hexport
  exact (Except.ok.inj hexport).symm

/-- A document of an export is read back as it is, if the JSON text of it is. -/
theorem ofGzip_exported (hlegacy : ∀ s ∈ schemas, s.table ≠ "spendingList") {db : Database}
    (hread : (exported db schemas {}).ReadsBack) :
    Document.ofGzip (exported db schemas {}).toGzip = .ok (exported db schemas {}) :=
  Document.ofGzip_toGzip (table?_exported_of_ne hlegacy {}) hread

/-- Tables that serve are those of one database. -/
theorem exists_opened (hne : schemas ≠ [])
    (h : ∀ s ∈ schemas, ∃ t, st.table? s.table = some t ∧ t.Serves s) :
    ∃ c, st.opened = .ok c ∧
      ∀ s ∈ schemas, ∃ t, c.database.table? s.table = some t ∧ t.Serves s := by
  obtain ⟨s₀, hs₀⟩ := List.exists_mem_of_ne_nil _ hne
  obtain ⟨_, ht₀, -⟩ := h s₀ hs₀
  obtain ⟨c, hc, -⟩ := Storage.table?_eq_some ht₀
  refine ⟨c, hc, fun s hs => ?_⟩
  obtain ⟨t, ht, hserve⟩ := h s hs
  rw [Storage.table?, hc] at ht
  exact ⟨t, ht, hserve⟩

/-- A sync after a backup succeeds just if every record that was exported is restorable. -/
theorem sync_isOk_iff_of_serves {setup : Setup Storage} (hengine : setup.engine = Storage.engine)
    (hschemas : ∀ s ∈ setup.registry.schemas, s.Portable)
    (hne : setup.registry.schemas ≠ [])
    (htables : (setup.registry.schemas.map fun s => upper s.table).Nodup)
    (hlegacy : ∀ s ∈ setup.registry.schemas, s.table ≠ "spendingList") {a a' b : Device Storage}
    (hserves : a.database.Holds (Database.Serves setup.registry.schemas)) (hkeyed : a.remote.Keyed)
    {m m' : Moment} {token token' : String} {info : FileInfo}
    (hbackup : (backup setup m token).run a = .ok info a') {document : Document}
    (hexport : ((exportAll setup.registry).run Storage.engine a.database).1 = .ok document)
    (hread : document.ReadsBack) (hremote : b.remote = a'.remote)
    (hcursor : cursor? b.settings = none)
    (hserved : ∀ s ∈ setup.registry.schemas,
      ∃ t, b.database.table? s.table = some t ∧ t.Serves s)
    (hfresh : IsFresh m' setup.registry.schemas document) :
    (∃ report b', (sync setup m' token').run b = .ok report b') ↔
      ∀ s ∈ setup.registry.schemas, IsRestorableAll document s := by
  obtain ⟨ca, hca, hserve⟩ := hserves
  obtain ⟨c, hc, hserved⟩ := exists_opened hne hserved
  obtain rfl := eq_exported hschemas hca hserve hexport
  have hback := ofGzip_exported hlegacy hread
  have himport := run_importAll_isOk_iff (r := setup.registry) hschemas htables hc hserved
    fun s hs => isBackup_exported hschemas htables hserve (.inr hfresh) hs
  simp only [sync_eq_ok_iff_of_backup hkeyed hbackup (hengine ▸ hexport) hback hremote hcursor,
    hengine, ← himport]
  constructor
  · rintro ⟨report, _, s, hrun, _⟩
    exact ⟨report, s, hrun⟩
  · rintro ⟨report, s, hrun⟩
    exact ⟨report, _, s, hrun, rfl⟩

/-! ## The tables of a household -/

/-- The entities of a household, in a database. -/
def household (config : SyncConfig) : Setup Storage := ⟨Storage.engine, ⟨Schema.models⟩, config⟩

example : (Schema.Registry.withModels {}).schemas = Schema.models := by decide

theorem models_ne_nil : Schema.models ≠ [] := List.cons_ne_nil _ _

theorem nodup_models : (Schema.models.map fun s => upper s.table).Nodup := by decide

theorem table_ne_of_models : ∀ s ∈ Schema.models, s.table ≠ "spendingList" := by decide

/-- **A sync after a backup succeeds just if every record that was exported is restorable**,
whatever edits led to the backup and whatever the other device held. -/
theorem sync_isOk_iff_of_backup {config : SyncConfig} {a a' b : Device Storage}
    (hkept : Kept Schema.models a.database) (hkeyed : a.remote.Keyed) {m m' : Moment}
    {token token' : String} {info : FileInfo}
    (hbackup : (backup (household config) m token).run a = .ok info a') {document : Document}
    (hexport : ((exportAll ⟨Schema.models⟩).run Storage.engine a.database).1 = .ok document)
    (hread : document.ReadsBack) (hremote : b.remote = a'.remote)
    (hcursor : cursor? b.settings = none)
    (hserved : ∀ s ∈ Schema.models, ∃ t, b.database.table? s.table = some t ∧ t.Serves s)
    (hfresh : IsFresh m' Schema.models document) :
    (∃ report b', (sync (household config) m' token').run b = .ok report b') ↔
      ∀ s ∈ Schema.models, IsRestorableAll document s := by
  exact sync_isOk_iff_of_serves rfl Schema.portable_models
    models_ne_nil nodup_models table_ne_of_models
    (hkept.serves Schema.portable_models models_ne_nil nodup_models) hkeyed hbackup hexport hread
    hremote hcursor hserved hfresh

/-! ## Devices with migrated tables -/

/-- A device with a storage and a remote store. -/
def deviceOf (st : Storage) (r : RemoteStore) : Device Storage := { database := st, remote := r }

theorem keyed_deviceOf (st : Storage) : (deviceOf st {}).remote.Keyed := List.nodup_nil

theorem cursor?_deviceOf (st : Storage) (r : RemoteStore) :
    cursor? (deviceOf st r).settings = none := by
  have hdefaults : cursor? Settings.defaults = none := by decide +kernel
  exact hdefaults

theorem kept_deviceOf (h : Kept schemas st) (r : RemoteStore) :
    Kept schemas (deviceOf st r).database := h

theorem serves_deviceOf (h : ∀ s ∈ schemas, ∃ t, st.table? s.table = some t ∧ t.Serves s)
    (r : RemoteStore) :
    ∀ s ∈ schemas, ∃ t, (deviceOf st r).database.table? s.table = some t ∧ t.Serves s := h

theorem run_exportAll_deviceOf {document : Document}
    (h : ((exportAll ⟨schemas⟩).run Storage.engine st).1.toOption = some document)
    (r : RemoteStore) :
    ((exportAll ⟨schemas⟩).run Storage.engine (deviceOf st r).database).1 = .ok document := by
  show ((exportAll ⟨schemas⟩).run Storage.engine st).1 = _
  rcases hresult : ((exportAll ⟨schemas⟩).run Storage.engine st).1 with e | found
  · rw [hresult] at h
    exact nomatch h
  · rw [hresult] at h
    rw [Option.some.inj h]

/-- A device whose tables can be exported makes a backup. -/
theorem run_backup_deviceOf {document : Document}
    (h : ((exportAll ⟨Schema.models⟩).run Storage.engine st).1.toOption = some document)
    (m : Moment) (token : String) :
    ∃ info a', (backup (household {}) m token).run (deviceOf st {}) = .ok info a' :=
  exists_backup_of_export (keyed_deviceOf st) (run_exportAll_deviceOf h {}) m token

/-! ## A note that was changed tomorrow -/

/-- A storage that was never opened. -/
def blankStorage : Storage := ⟨⟨StorageConfig.memoryPath, .logged, 0⟩, .ok {}, none⟩

/-- The tables of a household, just migrated. -/
def migratedTables : Storage :=
  ((Migration.migrateAll ⟨Schema.models⟩ true).run Storage.engine blankStorage).2

/-- A note that says when it was changed. -/
def noteOf (updated : String) : Record :=
  KeyMap.ofList [("_id", .str "a"), ("name", .str "n"), ("updatedAt", .str updated)]

/-- The tables with a note. -/
def noteTables (updated : String) : Storage :=
  (((Edit.insertOne someMoment (noteOf updated)).program Schema.note).run Storage.engine
    migratedTables).2

/-- The note, as an export gives it. -/
def noteRecord (updated : String) : Record :=
  [("_id", .str "a"), ("_v", .int 0), ("content", .null), ("createdAt", .str someMoment.now),
    ("name", .str "n"), ("status", .str "Active"), ("updatedAt", .str updated)]

/-- The document of the tables with a note. -/
def documentOf (updated : String) : Document :=
  ⟨[("Income", []), ("Note", [noteRecord updated]), ("SpendItem", []), ("SpendList", [])]⟩

/-- The migration, the insertion of a note and the exports, run together as they share their
steps. -/
theorem runs_noteTables :
    ((Migration.migrateAll ⟨Schema.models⟩ true).run Storage.engine
      blankStorage).1.toOption.map Migration.Summary.isSuccess = some true ∧
    ((insertOne Schema.note someMoment (noteOf "tomorrow")).run Storage.engine
      migratedTables).1.toOption = some (noteRecord "tomorrow") ∧
    ((exportAll ⟨Schema.models⟩).run Storage.engine
      (noteTables "tomorrow")).1.toOption = some (documentOf "tomorrow") ∧
    ((exportAll ⟨Schema.models⟩).run Storage.engine
      (noteTables "2024-05-06")).1.toOption = some (documentOf "2024-05-06") := by
  decide +kernel

theorem exists_migration : ∃ summary : Migration.Summary, summary.isSuccess ∧
    (Migration.migrateAll ⟨Schema.models⟩ true).run Storage.engine blankStorage =
      (.ok summary, migratedTables) := by
  have hsuccess := runs_noteTables.1
  rw [migratedTables]
  revert hsuccess
  generalize (Migration.migrateAll ⟨Schema.models⟩ true).run Storage.engine blankStorage = result
  rcases result with ⟨e | summary, st⟩
  · exact fun h => nomatch h
  · exact fun h => ⟨summary, Option.some.inj h, rfl⟩

theorem table?_blankStorage : ∀ s ∈ Schema.models, blankStorage.table? s.table = none :=
  fun _ _ => rfl

theorem kept_migratedTables : Kept Schema.models migratedTables := by
  obtain ⟨summary, hsuccess, hrun⟩ := exists_migration
  exact ⟨blankStorage, migratedTables, true, summary, table?_blankStorage, hrun, hsuccess, .refl⟩

theorem kept_noteTables (updated : String) : Kept Schema.models (noteTables updated) :=
  kept_migratedTables.edit (by decide) _

/-- The migrated tables serve the schemas. -/
theorem serves_migratedTables :
    ∀ s ∈ Schema.models, ∃ t, migratedTables.table? s.table = some t ∧ t.Serves s := by
  obtain ⟨summary, hsuccess, hrun⟩ := exists_migration
  have hserves := (Migration.migrateEach_eq_ok (fun s hs => (Schema.portable_models s hs).valid)
    (by decide) table?_blankStorage true hrun hsuccess).1
  intro s hs
  obtain ⟨t, ht, hserve, -⟩ := hserves s hs
  exact ⟨t, ht, hserve⟩

theorem length_hexDigits (width n : Nat) : (hexDigits width n).length = width := by
  induction width generalizing n with
  | zero => rfl
  | succ width ih => rw [hexDigits, List.length_append, ih, List.length_singleton]

/-- Identifiers are long. -/
theorem length_identifier (n : Nat) : (identifier n).toList.length = 32 := by
  rw [identifier, String.toList_ofList]
  simp [length_hexDigits]

theorem ne_identifier (i : Nat) : "a" ≠ identifier i := by
  intro h
  have hlength := length_identifier i
  rw [← h] at hlength
  exact absurd hlength (by decide)

theorem isFresh_documentOf (updated : String) :
    IsFresh someMoment Schema.models (documentOf updated) := by
  have hkeys : ∀ s ∈ Schema.models, s.key? = some Schema.idColumn := by decide
  have hget : (noteRecord updated).get? Schema.idColumn.name = some (.str "a") := rfl
  have hrecords : ∀ s ∈ Schema.models, ∀ records, (documentOf updated).table? s.table =
      some records → ∀ record ∈ records, record = noteRecord updated := by
    intro s _ records htable record hrecord
    have hmem := KeyMap.mem_of_get? htable
    simp only [documentOf, List.mem_cons, Prod.mk.injEq, List.not_mem_nil, or_false] at hmem
    rcases hmem with ⟨-, rfl⟩ | ⟨-, rfl⟩ | ⟨-, rfl⟩ | ⟨-, rfl⟩
    · exact absurd hrecord List.not_mem_nil
    · exact List.mem_singleton.1 hrecord
    · exact absurd hrecord List.not_mem_nil
    · exact absurd hrecord List.not_mem_nil
  intro s hs records htable record hrecord key hkey i h
  rw [hrecords s hs records htable record hrecord,
    ← Option.some.inj ((hkeys s hs).symm.trans hkey), hget] at h
  exact ne_identifier i (Json.str.inj (Option.some.inj h))

theorem readsBack_note : (documentOf "2024-05-06").ReadsBack :=
  (Document.readsBack_iff _).2 (by decide +kernel)

/-- A note with a date goes from one device to another. -/
theorem sync_isOk_of_backup_note : ∃ info a',
    (backup (household {}) someMoment "t").run (deviceOf (noteTables "2024-05-06") {}) =
      .ok info a' ∧
    ∃ report b', (sync (household {}) someMoment "t").run (deviceOf migratedTables a'.remote) =
      .ok report b' := by
  obtain ⟨-, -, -, hexport⟩ := runs_noteTables
  have hrestorable : ∀ s ∈ Schema.models, IsRestorableAll (documentOf "2024-05-06") s := by
    decide +kernel
  have hkept := kept_deviceOf (kept_noteTables "2024-05-06") {}
  obtain ⟨info, a', hbackup⟩ := run_backup_deviceOf hexport someMoment "t"
  refine ⟨info, a', hbackup, ?_⟩
  exact (sync_isOk_iff_of_backup (b := deviceOf migratedTables a'.remote) hkept (keyed_deviceOf _)
    hbackup (run_exportAll_deviceOf hexport {}) readsBack_note rfl (cursor?_deviceOf _ _)
    (serves_deviceOf serves_migratedTables _) (isFresh_documentOf _)).2 hrestorable

/-- A note that was changed tomorrow is added, and a backup of it is made; the sync that follows on
a device with the same tables fails. -/
theorem not_sync_of_backup_note :
    ((insertOne Schema.note someMoment (noteOf "tomorrow")).run Storage.engine
      migratedTables).1.toOption = some (noteRecord "tomorrow") ∧
    (documentOf "tomorrow").ReadsBack ∧ ∃ info a',
    (backup (household {}) someMoment "t").run (deviceOf (noteTables "tomorrow") {}) =
      .ok info a' ∧
    ¬ ∃ report b', (sync (household {}) someMoment "t").run (deviceOf migratedTables a'.remote) =
      .ok report b' := by
  obtain ⟨-, hinsert, hexport, -⟩ := runs_noteTables
  have hread : (documentOf "tomorrow").ReadsBack :=
    (Document.readsBack_iff _).2 (by decide +kernel)
  have hnote : ¬ IsRestorableAll (documentOf "tomorrow") Schema.note := by decide +kernel
  have hserves := (kept_deviceOf (kept_noteTables "tomorrow") {}).serves Schema.portable_models
    models_ne_nil nodup_models
  obtain ⟨info, a', hbackup⟩ := run_backup_deviceOf hexport someMoment "t"
  refine ⟨hinsert, hread, info, a', hbackup, fun hsync => hnote ?_⟩
  exact (sync_isOk_iff_of_serves (b := deviceOf migratedTables a'.remote)
    rfl Schema.portable_models models_ne_nil nodup_models table_ne_of_models hserves
    (keyed_deviceOf _) hbackup (run_exportAll_deviceOf hexport {}) hread rfl (cursor?_deviceOf _ _)
    (serves_deviceOf serves_migratedTables _) (isFresh_documentOf _)).1 hsync Schema.note (by decide)

end Daybook.Sync
