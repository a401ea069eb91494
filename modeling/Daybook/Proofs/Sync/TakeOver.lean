import Daybook.Proofs.Settings.Path
import Daybook.Proofs.Sync.Action
import Daybook.Proofs.Sync.Backup

/-!
# What a sync takes over

A sync downloads the newest backup of its folder and imports it: all of it if the settings know of
no sync before, else what was changed since. To remember the backup does not change when the last
sync was (`cursor?_remembered`). So a sync succeeds just if there is a backup that can be read and
its import succeeds (**`sync_eq_ok_iff`**).

* `Downloads`: the newest backup, and its document;
* `importOf`: the import of a document, by the settings;
* `remembered`: the settings with the identifier of the newest backup.
-/

namespace Daybook

namespace Sync

open Daybook.Sync.Action

variable {σ : Type}

/-! ## Steps of a sync -/

/-- The settings with the identifier of a backup, unless they have it. -/
def remembered (id : String) (settings : Json) : Json :=
  if Settings.text? settings Settings.fileIdPath ≠ some id then withFileId id settings
  else settings

theorem run_remember (id : String) (d : Device σ) :
    (remember id).run d = .ok () { d with settings := remembered id d.settings } := by
  rw [remember, run_get_bind, remembered]
  split_ifs
  · exact run_setSetting_fileId id d
  · rfl

theorem get?_syncDate_withFileId (id : String) (settings : Json) :
    Settings.get? (withFileId id settings) Settings.syncDatePath =
      Settings.get? settings Settings.syncDatePath :=
  Settings.get?_setAt_of_apart (by decide) (by decide) _ _

theorem cursor?_withFileId (id : String) (settings : Json) :
    cursor? (withFileId id settings) = cursor? settings := by
  rw [cursor?, cursor?, get?_syncDate_withFileId]

theorem cursor?_remembered (id : String) (settings : Json) :
    cursor? (remembered id settings) = cursor? settings := by
  rw [remembered]
  split_ifs
  · exact cursor?_withFileId id settings
  · rfl

/-- The import of a document: of all of it without a sync before, else of what was changed since. -/
def importOf (setup : Setup σ) (m : Moment) (settings : Json) (document : Document) :
    Program ImportReport :=
  match cursor? settings with
  | none => importAll setup.registry m document true
  | some cursor => importAll setup.registry m (document.updatedAfter cursor) false

/-- The device once a document was taken over. -/
def synced (d : Device σ) (m : Moment) (token id : String) (s : σ) : Device σ :=
  { d with
    database := s
    settings := withSyncDate m.now (remembered id d.settings)
    remote := d.remote.withToken token
    phase := .success }

/-- An import whose time is remembered if it succeeds. -/
theorem run_program_setSetting (setup : Setup σ) (p : Program ImportReport) (now : String)
    (d : Device σ) :
    (do
      let report ← program setup p
      setSetting Settings.syncDatePath (.str now)
      pure report : Action σ ImportReport).run d =
        match p.run setup.engine d.database with
        | (.ok report, s) =>
          .ok report { d with database := s, settings := withSyncDate now d.settings }
        | (.error e, s) => .error e { d with database := s } := by
  rcases hrun : p.run setup.engine d.database with ⟨e | report, s⟩
  · have hprogram : (program setup p).run d = .error e { d with database := s } := by
      rw [run_program, hrun]
    rw [bind_of_error hprogram]
  · have hprogram : (program setup p).run d = .ok report { d with database := s } := by
      rw [run_program, hrun]
    rw [bind_of_ok hprogram, bind_of_ok (run_setSetting_syncDate now _)]
    rfl

/-- The end of a sync: the document that was read is imported. -/
def takeIn (setup : Setup σ) (m : Moment) (document : Document) (settings : Json) :
    Action σ ImportReport :=
  match cursor? settings with
  | none => do
    enter .fullImport
    let report ← program setup (importAll setup.registry m document true)
    setSetting Settings.syncDatePath (.str m.now)
    pure report
  | some cursor => do
    enter .incrementalImport
    let report ← program setup (importAll setup.registry m (document.updatedAfter cursor) false)
    setSetting Settings.syncDatePath (.str m.now)
    pure report

/-- The phase of an import. -/
def importPhase (settings : Json) : Phase :=
  if (cursor? settings).isNone then .fullImport else .incrementalImport

theorem run_takeIn (setup : Setup σ) (m : Moment) (document : Document) (d : Device σ) :
    (takeIn setup m document d.settings).run d =
      match (importOf setup m d.settings document).run setup.engine d.database with
      | (.ok report, s) => .ok report { d with
          database := s
          settings := withSyncDate m.now d.settings
          phase := importPhase d.settings }
      | (.error e, s) => .error e { d with database := s, phase := importPhase d.settings } := by
  rw [takeIn, importOf, importPhase]
  cases cursor? d.settings with
  | none =>
    dsimp only
    rw [run_enter_bind, run_program_setSetting]
    rfl
  | some cursor =>
    dsimp only
    rw [run_enter_bind, run_program_setSetting]
    rfl

theorem run_takeIn_eq_ok_iff {setup : Setup σ} {m : Moment} {document : Document}
    {d d' : Device σ} {report : ImportReport} :
    (takeIn setup m document d.settings).run d = .ok report d' ↔
      ∃ s, (importOf setup m d.settings document).run setup.engine d.database = (.ok report, s) ∧
        d' = { d with
          database := s
          settings := withSyncDate m.now d.settings
          phase := importPhase d.settings } := by
  rw [run_takeIn]
  rcases (importOf setup m d.settings document).run setup.engine d.database with ⟨e | report', s⟩
  · exact iff_of_false (fun h => nomatch h) fun ⟨_, h, _⟩ => nomatch (Prod.mk.inj h).1
  · constructor
    · intro h
      obtain ⟨rfl, rfl⟩ := EStateM.Result.ok.inj h
      exact ⟨s, rfl, rfl⟩
    · rintro ⟨s', h, rfl⟩
      obtain ⟨hreport, rfl⟩ := Prod.mk.inj h
      rw [Except.ok.inj hreport]

/-- The newest backup in the folder of the device, and the document that is read from it. -/
def Downloads (setup : Setup σ) (token : String) (d : Device σ) (info : FileInfo)
    (document : Document) : Prop :=
  (backups setup d.remote).head? = some info ∧ ∃ bytes,
    (d.remote.withToken token).download info.id = .ok bytes ∧ Document.ofGzip bytes = .ok document

theorem run_sync (setup : Setup σ) (m : Moment) (token : String) (d : Device σ) :
    (sync setup m token).run d =
      match (takeOver setup m token).run d with
      | .ok report d => .ok report { d with phase := .success }
      | .error e d => .error e { d with phase := .failed } := rfl

/-- What a new token, other settings, another phase and imports keep, a sync keeps. -/
theorem keeps_sync_of {I : Device σ → Prop} {setup : Setup σ} {m : Moment}
    (htoken : ∀ d token, I d → I { d with remote := d.remote.withToken token })
    (hphase : ∀ d phase, I d → I { d with phase := phase })
    (hsettings : ∀ d settings, I d → I { d with settings := settings })
    (himport : ∀ document replace,
      Keeps I (program setup (importAll setup.registry m document replace))) (token : String) :
    Keeps I (sync setup m token) := by
  have henter := keeps_enter hphase
  have hset := keeps_setSetting hsettings
  have hremember (id : String) : Keeps I (remember id) := by
    intro d h
    rw [perform_of_ok (run_remember id d)]
    exact hsettings d _ h
  have htakeOver : Keeps I (takeOver setup m token) := by
    refine keeps_bind (fun d h => htoken d token h) fun _ => ?_
    refine keeps_bind (henter _) fun _ => keeps_bind keeps_get fun d => ?_
    refine keeps_bind (keeps_settle _) fun infos => ?_
    split
    · refine keeps_bind keeps_get fun d => keeps_bind (keeps_settle _) fun bytes => ?_
      refine keeps_bind (hremember _) fun _ => keeps_bind (henter _) fun _ => ?_
      refine keeps_bind (keeps_settle _) fun document => keeps_bind keeps_get fun d => ?_
      split
      · refine keeps_bind (henter _) fun _ => keeps_bind (himport _ _) fun report => ?_
        exact keeps_bind (hset _ _) fun _ => keeps_pure _
      · refine keeps_bind (henter _) fun _ => keeps_bind (himport _ _) fun report => ?_
        exact keeps_bind (hset _ _) fun _ => keeps_pure _
    · exact keeps_throw _
  intro d h
  have hd := htakeOver d h
  rw [perform, run_sync]
  cases hrun : (takeOver setup m token).run d with
  | ok report d' =>
    rw [perform_of_ok hrun] at hd
    exact hphase d' _ hd
  | error e d' =>
    rw [perform_of_error hrun] at hd
    exact hphase d' _ hd

/-- **A sync succeeds just if it finds a backup that can be read, and the import of it succeeds.** -/
theorem sync_eq_ok_iff {setup : Setup σ} {m : Moment} {token : String} {d d' : Device σ}
    {report : ImportReport} :
    (sync setup m token).run d = .ok report d' ↔ ∃ info document s,
      Downloads setup token d info document ∧
      (importOf setup m d.settings document).run setup.engine d.database = (.ok report, s) ∧
      d' = synced d m token info.id s := by
  have hsync : (sync setup m token).run d = .ok report d' ↔
      ∃ d₁, (takeOver setup m token).run d = .ok report d₁ ∧ d' = { d₁ with phase := .success } := by
    rw [run_sync]
    cases (takeOver setup m token).run d with
    | ok r d₁ =>
      constructor
      · intro h
        obtain ⟨rfl, rfl⟩ := EStateM.Result.ok.inj h
        exact ⟨d₁, rfl, rfl⟩
      · rintro ⟨d₂, h, rfl⟩
        obtain ⟨rfl, rfl⟩ := EStateM.Result.ok.inj h
        rfl
    | error e d₁ => exact iff_of_false (fun h => nomatch h) fun ⟨_, h, _⟩ => nomatch h
  have hlist : (d.remote.withToken token).list setup.config.folder = .ok (backups setup d.remote) :=
    rfl
  simp only [hsync, Downloads, takeOver, run_useToken_bind, run_enter_bind, run_get_bind, hlist,
    run_settle_ok_bind]
  cases (backups setup d.remote).head? with
  | none =>
    exact iff_of_false (fun ⟨_, h, _⟩ => nomatch h) fun ⟨_, _, _, ⟨h, _⟩, _⟩ => nomatch h
  | some info =>
    simp only [run_settle_bind_eq_ok_iff, run_get_bind]
    constructor
    · rintro ⟨d₁, ⟨bytes, hbytes, hrest⟩, rfl⟩
      rw [bind_of_ok (run_remember info.id _), run_enter_bind, run_settle_bind_eq_ok_iff] at hrest
      obtain ⟨document, hdocument, hrest⟩ := hrest
      rw [run_get_bind] at hrest
      obtain ⟨s, hrun, rfl⟩ := run_takeIn_eq_ok_iff.1 hrest
      rw [importOf, cursor?_remembered] at hrun
      exact ⟨info, document, s, ⟨rfl, bytes, hbytes, hdocument⟩, hrun, rfl⟩
    · rintro ⟨info', document, s, ⟨hinfo, bytes, hbytes, hdocument⟩, hrun, rfl⟩
      obtain rfl := Option.some.inj hinfo
      refine ⟨{ synced d m token info.id s with phase :=
        if (cursor? (remembered info.id d.settings)).isNone then .fullImport
        else .incrementalImport }, ⟨bytes, hbytes, ?_⟩, rfl⟩
      rw [bind_of_ok (run_remember info.id _), run_enter_bind, run_settle_bind_eq_ok_iff]
      refine ⟨document, hdocument, ?_⟩
      rw [run_get_bind]
      refine run_takeIn_eq_ok_iff.2 ⟨s, ?_, rfl⟩
      rwa [importOf, cursor?_remembered]

end Sync
end Daybook
