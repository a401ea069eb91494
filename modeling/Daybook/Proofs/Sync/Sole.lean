import Daybook.Proofs.Store.Single
import Daybook.Proofs.Sync.Cursor
import Daybook.Proofs.Sync.World

/-!
# The only backup

Any number of devices share a remote store, each with tables and a configuration of its own. In any
order they upload and delete files, make backups, sync, and do to their databases what they like.
An identifier is never used twice (`World.numbered_does`), so a backup that succeeds is the only
file of its folder, and it is the document of all tables of its device
(**`World.isSole_of_backup`**).

* `IsExport`, `exportAll_eq_ok`: what is in a document of tables, whatever the tables are;
* `Deed`, `World.does`: what devices do, and runs of it;
* `IsSole`: what a backup leaves behind.
-/

namespace Daybook.Sync

open Sql Store Daybook.Sync.Action

/-! ## Exports -/

/-- The document has the records of all rows for every table of a registry, and no other tables. -/
structure IsExport (r : Schema.Registry) (st : Storage) (document : Document) : Prop where
  tables : ∀ s ∈ r.schemas, ∃ c t, st.opened = .ok c ∧ c.database.source? s.table = .ok t ∧
    document.table? s.table = some (t.rows.map t.record)
  others : ∀ name, (∀ s ∈ r.schemas, s.table ≠ name) → document.table? name = none

section Exports

variable {st st' : Storage}

/-- To find all records of a table is to read its rows. -/
theorem find_all_eq_ok {s : Schema} {records : List Record}
    (h : (Store.find s {}).run Storage.engine st = (.ok records, st')) :
    ∃ c t, st.opened = .ok c ∧ c.database.source? s.table = .ok t ∧
      records = t.rows.map t.record ∧ st' = st.keep c := by
  obtain ⟨c, hc, -, hselect, hst⟩ := @Store.run_query_eq_ok st st' _ _ h
  obtain ⟨t, ht, hrecords⟩ := Database.select?_all_eq_ok_iff.1 hselect
  exact ⟨c, t, hc, ht, hrecords, hst⟩

theorem exportInto_eq_ok {schemas : List Schema} {d document : Document}
    (h : (exportInto schemas d).run Storage.engine st = (.ok document, st')) :
    st'.opened = st.opened ∧
      (∀ s ∈ schemas, ∃ c t, st.opened = .ok c ∧ c.database.source? s.table = .ok t ∧
        document.table? s.table = some (t.rows.map t.record)) ∧
      ∀ name, (∀ s ∈ schemas, s.table ≠ name) → document.table? name = d.table? name := by
  induction schemas generalizing st d with
  | nil =>
    obtain ⟨hdocument, hst⟩ := Prod.mk.inj h
    rw [← Except.ok.inj hdocument, hst]
    exact ⟨rfl, fun _ hs => absurd hs List.not_mem_nil, fun _ _ => rfl⟩
  | cons s rest ih =>
    obtain ⟨records, st₁, hfind, hrest⟩ := Program.run_bind_eq_ok.1 h
    obtain ⟨c, t, hc, ht, rfl, rfl⟩ := find_all_eq_ok hfind
    obtain ⟨hopened, htables, hothers⟩ := ih hrest
    rw [Storage.opened_keep, ← hc] at hopened
    rw [Storage.opened_keep, ← hc] at htables
    refine ⟨hopened, List.forall_mem_cons.2 ⟨?_, htables⟩, fun name hname => ?_⟩
    · by_cases hlater : ∃ s' ∈ rest, s'.table = s.table
      · -- a later schema has the same table, so its records are written there once more
        obtain ⟨s', hs', hsame⟩ := hlater
        rw [← hsame]
        exact htables s' hs'
      · push Not at hlater
        refine ⟨c, t, hc, ht, ?_⟩
        rw [hothers s.table hlater]
        exact KeyMap.get?_insert_self _ _ _
    · obtain ⟨hne, hname⟩ := List.forall_mem_cons.1 hname
      rw [hothers name hname]
      exact KeyMap.get?_insert_of_ne _ _ hne.symm

/-- **What an export comes to.** It leaves the database as it is. -/
theorem exportAll_eq_ok {r : Schema.Registry} {document : Document}
    (h : (exportAll r).run Storage.engine st = (.ok document, st')) :
    st'.opened = st.opened ∧ IsExport r st document := by
  obtain ⟨hopened, htables, hothers⟩ := exportInto_eq_ok h
  exact ⟨hopened, htables, hothers⟩

end Exports

/-! ## The files of other folders -/

section Folders

variable {σ : Type} (setup : Setup σ) {r : RemoteStore} (document : Document)

theorem list_holding_of_ne {folder : String} (h : folder ≠ setup.config.folder) :
    (holding setup r document).list folder = r.list folder := by
  have hold : (emptied setup r).files.filter (fun f => f.folder = folder) =
      r.files.filter fun f => f.folder = folder := by
    show (r.files.filter _).filter _ = _
    rw [List.filter_filter]
    refine List.filter_congr fun f _ => ?_
    by_cases hf : f.folder = folder
    · simp [hf, h]
    · simp [hf]
  have hfiles : (holding setup r document).files.filter (fun f => f.folder = folder) =
      r.files.filter fun f => f.folder = folder := by
    rw [← hold]
    show List.filter _ (_ :: (emptied setup r).files) = _
    rw [List.filter_cons, if_neg (by simpa using h.symm)]
  rw [RemoteStore.list, RemoteStore.list, hfiles]
  rfl

theorem mem_holding_of_ne {f : RemoteFile} (h : f.folder ≠ setup.config.folder) :
    f ∈ (holding setup r document).files ↔ f ∈ r.files := by
  show f ∈ _ :: r.files.filter _ ↔ _
  rw [List.mem_cons, List.mem_filter]
  constructor
  · rintro (rfl | ⟨hf, -⟩)
    · exact absurd rfl h
    · exact hf
  · intro hf
    exact .inr ⟨hf, by simpa using h⟩

end Folders

/-! ## What devices do -/

/-- What a device does. -/
inductive Deed where
  /-- It uploads a file. -/
  | upload (name mimeType : String) (bytes : Bytes) (folder : String)
  /-- It deletes a file. -/
  | delete (id : String)
  | backup (m : Moment) (token : String)
  | sync (m : Moment) (token : String)
  /-- It gives the store an access token. -/
  | grant (token : String)
  /-- It does something to its database. -/
  | work (p : Program Unit)
  /-- It changes a setting. -/
  | choose (path : String) (value : Json)

/-- The setup of a device with a database. -/
def stored (r : Schema.Registry) (config : SyncConfig) : Setup Storage :=
  ⟨Storage.engine, r, config⟩

namespace Deed

variable {setup : Setup Storage}

/-- What the device does, without its answer. -/
def action (setup : Setup Storage) : Deed → Action Storage Unit
  | upload name mimeType bytes folder => do
    let d ← get
    let (_, remote) ← settle (d.remote.upload name mimeType bytes folder)
    set { d with remote := remote }
  | delete id => do
    let d ← get
    let remote ← settle (d.remote.delete id)
    set { d with remote := remote }
  | backup m token => do
    let _ ← Sync.backup setup m token
    pure ()
  | sync m token => do
    let _ ← Sync.sync setup m token
    pure ()
  | grant token => useToken token
  | work p => program setup p
  | choose path value => setSetting path value

/-! ### Identifiers -/

theorem numbered_upload {r r' : RemoteStore} (h : r.Numbered) {name mimeType folder : String}
    {bytes : Bytes} {info : FileInfo} (hup : r.upload name mimeType bytes folder = .ok (info, r')) :
    r'.Numbered := by
  rw [RemoteStore.upload, RemoteStore.authorized] at hup
  split_ifs at hup
  · cases hup
  · rw [← (Prod.mk.inj (Except.ok.inj hup)).2]
    exact h.add _ rfl

theorem numbered_delete {r r' : RemoteStore} (h : r.Numbered) {id : String}
    (hdel : r.delete id = .ok r') : r'.Numbered := by
  rw [RemoteStore.delete, RemoteStore.authorized] at hdel
  split_ifs at hdel
  · cases hdel
  · split at hdel
    · rw [← Except.ok.inj hdel]
      exact h.keeping _
    · cases hdel

theorem numbered_backup (m : Moment) (token : String) :
    Keeps (fun d => d.remote.Numbered) (Sync.backup setup m token) := by
  intro d h
  have heq := backup_eq setup m token d h.keyed
  rcases hexport : (exportAll setup.registry).run setup.engine d.database with ⟨e | document, s⟩
  · rw [hexport] at heq
    rw [perform_of_error heq]
    exact (h.withToken token).keeping _
  · rw [hexport] at heq
    rw [perform_of_ok heq]
    exact ((h.withToken token).keeping _).add _ rfl

/-- **Whatever a device does, no identifier is used twice.** -/
theorem numbered (setup : Setup Storage) (deed : Deed) :
    Keeps (fun d => d.remote.Numbered) (deed.action setup) := by
  cases deed with
  | upload name mimeType bytes folder =>
    intro d h
    rw [perform, action, run_get_bind]
    cases hup : d.remote.upload name mimeType bytes folder with
    | error e => exact h
    | ok p => exact numbered_upload h hup
  | delete id =>
    intro d h
    rw [perform, action, run_get_bind]
    cases hdel : d.remote.delete id with
    | error e => exact h
    | ok r => exact numbered_delete h hdel
  | backup m token => exact keeps_bind (numbered_backup m token) fun _ => keeps_pure _
  | sync m token =>
    have hprogram (document : Document) (replace : Bool) : Keeps (fun d => d.remote.Numbered)
        (program setup (importAll setup.registry m document replace)) :=
      keeps_program fun _ h => h
    exact keeps_bind (keeps_sync_of (fun _ token h => h.withToken token) (fun _ _ h => h)
      (fun _ _ h => h) hprogram token) fun _ => keeps_pure _
  | grant token => exact fun _ h => h.withToken token
  | work p => exact keeps_program fun _ h => h
  | choose path value => exact keeps_setSetting (fun _ _ h => h) path value

end Deed

/-! ## The only backup -/

/-- What a backup with a document leaves behind on a device and the store that it reaches. -/
structure IsSole (setup : Setup Storage) (token : String) (d d' : Device Storage) (info : FileInfo)
    (document : Document) : Prop where
  /-- It is the only file of its folder. -/
  listed : d'.remote.list setup.config.folder = .ok [info]
  name : info.name = setup.config.fileName
  mimeType : info.mimeType = some setup.config.mimeType
  remembered : Settings.get? d'.settings Settings.fileIdPath = some (.str info.id)
  /-- It has the records of all tables, as they were before. -/
  isExport : IsExport setup.registry d.database document
  download : d'.remote.download info.id = .ok document.toGzip
  /-- It is read back as it was written, if the JSON text is. -/
  readable : (∀ s ∈ setup.registry.schemas, s.table ≠ "spendingList") → document.ReadsBack →
    Document.ofGzip document.toGzip = .ok document
  /-- The database is as it was. -/
  database : d'.database.opened = d.database.opened
  /-- The files of other folders are as they were. -/
  lists : ∀ folder, folder ≠ setup.config.folder →
    d'.remote.list folder = (d.remote.withToken token).list folder
  offers : ∀ f, f.folder ≠ setup.config.folder →
    (d'.remote.Offers f ↔ (d.remote.withToken token).Offers f)

/-- A backup that succeeds, on a device whose store uses no identifier twice. -/
theorem isSole_of_numbered {r : Schema.Registry} {config : SyncConfig} {m : Moment}
    {token : String} {d d' : Device Storage} {info : FileInfo} (hd : d.remote.Numbered)
    (h : (backup (stored r config) m token).run d = .ok info d') :
    ∃ document, IsSole (stored r config) token d d' info document := by
  have heq := backup_eq (stored r config) m token d hd.keyed
  rw [h] at heq
  rcases hexport : (exportAll r).run Storage.engine d.database with ⟨e | document, s⟩
  · have hrun : (exportAll (stored r config).registry).run (stored r config).engine d.database =
        (.error e, s) := hexport
    rw [hrun] at heq
    cases heq
  have hrun : (exportAll (stored r config).registry).run (stored r config).engine d.database =
      (.ok document, s) := hexport
  rw [hrun] at heq
  obtain ⟨rfl, rfl⟩ := EStateM.Result.ok.inj heq
  obtain ⟨hopened, hisExport⟩ := exportAll_eq_ok hexport
  have hholding : (holding (stored r config) (d.remote.withToken token) document).Numbered :=
    ((hd.withToken token).keeping _).add _ rfl
  exact ⟨document, {
    listed := congrArg Except.ok (backups_holding (stored r config) (d.remote.withToken token)
      document)
    name := rfl
    mimeType := rfl
    remembered := by
      rw [get?_fileId_withBackupDate]
      exact Settings.get?_setAt_keysOf (by decide) _ _
    isExport := hisExport
    download := download_holding (stored r config) (d.remote.withToken token) document token
    readable := fun hlegacy => Document.ofGzip_toGzip (hisExport.others _ hlegacy)
    database := hopened
    lists := fun folder hfolder => list_holding_of_ne (stored r config) document hfolder
    offers := fun f hfolder => by
      rw [RemoteStore.offers_iff hholding.keyed, RemoteStore.offers_iff (hd.withToken token).keyed]
      exact and_congr Iff.rfl (mem_holding_of_ne (stored r config) document hfolder) }⟩

/-! ### Runs -/

namespace World

variable {ι : Type} [DecidableEq ι]

/-- The devices after one of them has done something, whether or not it succeeds. -/
def act (w : World ι) (i : ι) (x : Action Storage Unit) : World ι :=
  let d := (x.perform (w.deviceAt i)).2
  ⟨Function.update w.device i d, d.remote⟩

/-- The devices after a run of deeds. -/
def does (registry : ι → Schema.Registry) (config : ι → SyncConfig) (w : World ι)
    (deeds : List (ι × Deed)) : World ι :=
  deeds.foldl (fun w p => w.act p.1 (p.2.action (stored (registry p.1) (config p.1)))) w

variable {registry : ι → Schema.Registry} {config : ι → SyncConfig} {w : World ι}

/-- **Whatever devices do, no identifier is used twice.** -/
theorem numbered_does (h : w.remote.Numbered) (deeds : List (ι × Deed)) :
    (w.does registry config deeds).remote.Numbered := by
  induction deeds generalizing w with
  | nil => exact h
  | cons p rest ih =>
    exact ih (Deed.numbered (stored (registry p.1) (config p.1)) p.2 (w.deviceAt p.1) h)

/-- **After whatever any devices did, a backup that succeeds is the only one, and complete.** -/
theorem isSole_of_backup (hstart : w.remote.files = []) (deeds : List (ι × Deed)) {i : ι}
    {m : Moment} {token : String} {info : FileInfo} {d' : Device Storage}
    (h : (backup (stored (registry i) (config i)) m token).run
      ((w.does registry config deeds).deviceAt i) = .ok info d') :
    ∃ document, IsSole (stored (registry i) (config i)) token
      ((w.does registry config deeds).deviceAt i) d' info document :=
  isSole_of_numbered (numbered_does (RemoteStore.numbered_of_files_eq_nil hstart) deeds) h

end World

/-! ### Two devices with notes -/

/-- A registry with notes alone. -/
def notesOnly : Schema.Registry := ⟨[noteWith "colour"]⟩

/-- Two devices, each with the same two notes, and an empty store. -/
def notesTwice : World Bool := .alike (deviceOf (storageOf (twoNotes "colour") 1) {})

/-- The first device uploads a picture, makes a backup, and deletes the picture again. -/
def firstDeeds : List (Bool × Deed) :=
  [(true, .grant "t"), (true, .upload "a.png" "image/png" [1] "pictures"),
    (true, .backup someMoment "t"), (true, .delete "mem-1")]

/-- The second device makes a backup after that, and no other backup is left. -/
theorem isSole_of_backup_notes : notesTwice.remote.files = [] ∧ ∃ info d',
    (backup (stored notesOnly {}) someMoment "t").run
      ((notesTwice.does (fun _ => notesOnly) (fun _ => {}) firstDeeds).deviceAt false) =
        .ok info d' ∧
      d'.remote.list "appDataFolder" = .ok [info] := by
  have hnumbered :
      (notesTwice.does (fun _ => notesOnly) (fun _ => {}) firstDeeds).remote.Numbered :=
    World.numbered_does (RemoteStore.numbered_of_files_eq_nil rfl) firstDeeds
  have hexport : ∃ document, ((exportAll notesOnly).run Storage.engine
      (storageOf (twoNotes "colour") 1)).1 = .ok document := ⟨_, rfl⟩
  obtain ⟨document, hexport⟩ := hexport
  obtain ⟨info, d', hbackup⟩ := @exists_backup_of_export _ (stored notesOnly {})
    ((notesTwice.does (fun _ => notesOnly) (fun _ => {}) firstDeeds).deviceAt false)
    hnumbered.keyed document hexport someMoment "t"
  obtain ⟨_, hsole⟩ := @World.isSole_of_backup _ _ (fun _ => notesOnly) (fun _ => {}) notesTwice
    rfl firstDeeds false someMoment "t" info d' hbackup
  exact ⟨rfl, info, d', hbackup, hsole.listed⟩

end Daybook.Sync
