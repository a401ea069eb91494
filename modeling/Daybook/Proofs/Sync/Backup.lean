import Daybook.Engine.Storage
import Daybook.Proofs.Remote.Files
import Daybook.Proofs.Sync.Action
import Daybook.Schema.Models

/-!
# What a backup leaves behind

A backup first removes the files of its folder, then exports, then uploads (`backup_eq`). So it
fails just if the export does, and then the folder is empty while the files of all other folders are
as before (**`failed_backup`**).

* `emptied`: the remote store once the old backups are gone;
* `deleteFiles_eq`, `backup_eq`: the effects of the steps.
-/

namespace Daybook.Sync

open Daybook.Sync.Action

variable {σ : Type}

/-! ## The steps -/

/-- What the remote store tells of the files in the folder of backups. -/
def backups (setup : Setup σ) (r : RemoteStore) : List FileInfo :=
  (r.files.filter fun f => f.folder = setup.config.folder).map RemoteFile.info

/-- The remote store without the files of the folder of backups. -/
def emptied (setup : Setup σ) (r : RemoteStore) : RemoteStore :=
  r.keeping fun f => f.folder ≠ setup.config.folder

/-- What the remote store tells of the next backup. -/
def nextInfo (setup : Setup σ) (r : RemoteStore) : FileInfo :=
  ⟨RemoteStore.idOf (r.uploads + 1), setup.config.fileName, some setup.config.mimeType⟩

/-- The remote store with a document as the only backup. -/
def holding (setup : Setup σ) (r : RemoteStore) (document : Document) : RemoteStore :=
  { emptied setup r with
    files := ⟨nextInfo setup r, setup.config.folder, document.toGzip⟩ :: (emptied setup r).files
    uploads := r.uploads + 1 }

theorem deleteFiles_eq (d : Device σ) (fs : List FileInfo) (r : RemoteStore)
    (ht : r.token.isSome) (hn : (fs.map FileInfo.id).Nodup)
    (hm : ∀ f ∈ fs, f.id ∈ r.files.map fun g => g.info.id) :
    (deleteFiles fs).run { d with remote := r } =
      .ok () { d with remote := r.keeping fun g => g.info.id ∉ fs.map FileInfo.id } := by
  induction fs generalizing r with
  | nil => simp [deleteFiles, RemoteStore.keeping]
  | cons f rest ih =>
    simp only [List.map_cons, List.nodup_cons] at hn
    rw [deleteFiles, run_get_bind, RemoteStore.delete_eq ht (hm f List.mem_cons_self),
      run_settle_ok_bind, run_set_bind]
    refine (ih (r.keeping fun g => g.info.id ≠ f.id) ht hn.2 ?_).trans ?_
    · -- the later files are still there, since their identifiers differ from that of `f`
      intro g hg
      obtain ⟨k, hk, hid⟩ := List.mem_map.1 (hm g (List.mem_cons_of_mem _ hg))
      refine List.mem_map.2 ⟨k, List.mem_filter.2 ⟨hk, ?_⟩, hid⟩
      have hne : g.id ≠ f.id := fun h => hn.1 (h ▸ List.mem_map_of_mem hg)
      simpa [hid] using hne
    · simp only [RemoteStore.keeping_keeping, List.map_cons, List.mem_cons, not_or,
        Bool.decide_and, decide_not]

theorem nodup_backups {r : RemoteStore} (h : r.Keyed) (setup : Setup σ) :
    ((backups setup r).map FileInfo.id).Nodup := by
  rw [backups, List.map_map]
  exact h.keeping fun f => f.folder = setup.config.folder

/-- The backups are the files of their folder. -/
theorem keeping_backups {r : RemoteStore} (h : r.Keyed) (setup : Setup σ) :
    (r.keeping fun g => g.info.id ∉ (backups setup r).map FileInfo.id) = emptied setup r := by
  simp only [emptied, RemoteStore.keeping]
  congr 1
  refine List.filter_congr fun f hf => ?_
  rw [decide_eq_decide, not_iff_not]
  simp only [backups, List.map_map, List.mem_map, List.mem_filter, decide_eq_true_eq,
    Function.comp_apply]
  constructor
  · rintro ⟨g, ⟨hg, hfolder⟩, hid⟩
    rwa [← h.eq_of_mem hg hf hid]
  · intro hfolder
    exact ⟨f, ⟨hf, hfolder⟩, rfl⟩

/-- The effect of a backup, by that of its export. -/
theorem backup_eq (setup : Setup σ) (m : Moment) (token : String) (d : Device σ)
    (hd : d.remote.Keyed) :
    (backup setup m token).run d =
      match (exportAll setup.registry).run setup.engine d.database with
      | (.error e, s) => .error e { d with
          database := s
          remote := emptied setup (d.remote.withToken token) }
      | (.ok document, s) => .ok (nextInfo setup d.remote) { d with
          database := s
          settings := withBackupDate m.now (withFileId (nextInfo setup d.remote).id d.settings)
          remote := holding setup (d.remote.withToken token) document } := by
  have hkeyed : (d.remote.withToken token).Keyed := hd
  have hlist : (d.remote.withToken token).list setup.config.folder =
      .ok (backups setup (d.remote.withToken token)) := rfl
  have hdel := deleteFiles_eq d (backups setup (d.remote.withToken token))
    (d.remote.withToken token) rfl (nodup_backups hkeyed setup) (by
      intro f hf
      obtain ⟨g, hg, rfl⟩ := List.mem_map.1 hf
      exact List.mem_map_of_mem (List.mem_of_mem_filter hg))
  rw [keeping_backups hkeyed] at hdel
  rw [backup, run_useToken_bind, run_get_bind, hlist, run_settle_ok_bind, bind_of_ok hdel]
  rcases hrun : (exportAll setup.registry).run setup.engine d.database with ⟨e | document, s⟩
  · rw [bind_of_error]
    rw [run_program, hrun]
  · rw [@bind_of_ok _ _ _ _
      { d with database := s, remote := emptied setup (d.remote.withToken token) } _ document]
    · rw [run_get_bind]
      have hup : (emptied setup (d.remote.withToken token)).upload setup.config.fileName
          setup.config.mimeType document.toGzip setup.config.folder =
          .ok (nextInfo setup d.remote, holding setup (d.remote.withToken token) document) := rfl
      simp only [hup, run_settle_ok_bind, run_set_bind]
      rw [bind_of_ok (run_setSetting_fileId _ _), bind_of_ok (run_setSetting_backupDate _ _)]
      rfl
    · rw [run_program, hrun]

/-- A device whose tables can be exported makes a backup. -/
theorem exists_backup_of_export {setup : Setup σ} {d : Device σ} (hd : d.remote.Keyed)
    {document : Document}
    (h : ((exportAll setup.registry).run setup.engine d.database).1 = .ok document) (m : Moment)
    (token : String) : ∃ info d', (backup setup m token).run d = .ok info d' := by
  have heq := backup_eq setup m token d hd
  rcases hrun : (exportAll setup.registry).run setup.engine d.database with ⟨result, s⟩
  rw [hrun] at h heq
  obtain rfl : result = .ok document := h
  exact ⟨_, _, heq⟩

/-! ## Failure -/

/-- **A backup fails just if its export does; then the backups before it are gone, and all other
files are offered as before.** -/
theorem failed_backup (setup : Setup σ) (m : Moment) (token : String) (d : Device σ)
    (hd : d.remote.Keyed) :
    (∀ e, ((backup setup m token).perform d).1 = .error e ↔
      ((exportAll setup.registry).run setup.engine d.database).1 = .error e) ∧
    ∀ e d', (backup setup m token).perform d = (.error e, d') →
      d'.settings = d.settings ∧
      ∀ f, d'.remote.Offers f ↔
        (d.remote.withToken token).Offers f ∧ f.folder ≠ setup.config.folder := by
  have hkeyed : (d.remote.withToken token).Keyed := hd
  have hempty : (emptied setup (d.remote.withToken token)).Keyed := hkeyed.keeping _
  have hrun := backup_eq setup m token d hd
  simp only [perform, hrun]
  rcases (exportAll setup.registry).run setup.engine d.database with ⟨e | document, s⟩
  · refine ⟨fun e' => by simp, fun e' d' h => ?_⟩
    obtain ⟨-, rfl⟩ := Prod.mk.inj h
    refine ⟨rfl, fun f => ?_⟩
    show (emptied setup (d.remote.withToken token)).Offers f ↔ _
    rw [RemoteStore.offers_iff hempty, RemoteStore.offers_iff hkeyed, and_assoc]
    refine and_congr_right fun _ => ?_
    simp only [emptied, RemoteStore.keeping, List.mem_filter, decide_eq_true_eq]
  · exact ⟨fun e' => by simp, fun e' d' h => by simp at h⟩

/-! ## A missing table -/

/-- Notes alone, in a database that is in memory. -/
def noteSetup : Setup Storage := ⟨Storage.engine, ⟨[Schema.note]⟩, {}⟩

/-- A backup of three bytes. -/
def smallBackup : RemoteFile :=
  ⟨⟨RemoteStore.idOf 1, "SpendWise.json.gz", some "application/gzip"⟩, "appDataFolder", [1, 2, 3]⟩

/-- A device without tables, and a backup. -/
def tablelessDevice : Device Storage where
  database := ⟨⟨StorageConfig.memoryPath, .logged, 0⟩, .ok {}, none⟩
  remote := ⟨none, [smallBackup], 1⟩

/-- A moment of the year 2024. -/
def someMoment : Moment := ⟨"2024-05-06T07:08:09.010Z", identifier⟩

theorem keyed_tablelessDevice : tablelessDevice.remote.Keyed := List.nodup_singleton _

theorem perform_backup_tablelessDevice :
    ∃ s, (backup noteSetup someMoment "t").perform tablelessDevice =
      (.error (.storage (.noSuchTable "Note")), { tablelessDevice with
        database := s
        remote := emptied noteSetup (tablelessDevice.remote.withToken "t") }) := by
  have hexport : ((exportAll noteSetup.registry).run noteSetup.engine
      tablelessDevice.database).1 = .error (.storage (.noSuchTable "Note")) := rfl
  have hrun := backup_eq noteSetup someMoment "t" tablelessDevice keyed_tablelessDevice
  rcases h : (exportAll noteSetup.registry).run noteSetup.engine tablelessDevice.database with ⟨r, s⟩
  obtain rfl : r = .error (.storage (.noSuchTable "Note")) := by rw [← hexport, h]
  rw [h] at hrun
  exact ⟨s, by rw [perform, hrun]⟩

/-- For the device without tables, a backup fails and takes the one before it away. -/
theorem failed_backup_tablelessDevice :
    ∃ d', (backup noteSetup someMoment "t").perform tablelessDevice =
        (.error (.storage (.noSuchTable "Note")), d') ∧
      ¬ d'.remote.Offers smallBackup := by
  obtain ⟨s, h⟩ := perform_backup_tablelessDevice
  refine ⟨_, h, fun ho => ?_⟩
  have hf := (failed_backup noteSetup someMoment "t" tablelessDevice keyed_tablelessDevice).2 _ _ h
  exact ((hf.2 smallBackup).1 ho).2 rfl

/-- A failed backup may lose the one before it. -/
theorem not_forall_offers_of_failed_backup :
    ¬ ∀ (setup : Setup Storage) (m : Moment) (token : String) (d d' : Device Storage)
      (e : Failure), d.remote.Keyed → (backup setup m token).perform d = (.error e, d') →
      ∀ f, f.folder = setup.config.folder → (d.remote.withToken token).Offers f →
        d'.remote.Offers f := by
  intro hall
  obtain ⟨s, h⟩ := perform_backup_tablelessDevice
  have hkeyed : (tablelessDevice.remote.withToken "t").Keyed := keyed_tablelessDevice
  have hbefore : (tablelessDevice.remote.withToken "t").Offers smallBackup :=
    (RemoteStore.offers_iff hkeyed _).2 ⟨rfl, List.mem_singleton.2 rfl⟩
  have hafter : (emptied noteSetup (tablelessDevice.remote.withToken "t")).Offers smallBackup :=
    hall _ _ _ _ _ _ keyed_tablelessDevice h smallBackup rfl hbefore
  have hmem := ((RemoteStore.offers_iff (hkeyed.keeping _) _).1 hafter).2
  exact absurd hmem (by decide)

end Daybook.Sync
