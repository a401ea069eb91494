import Daybook.Config
import Daybook.Remote
import Daybook.Settings
import Daybook.Sync.Transfer

/-!
# Backup and sync

A device sends its records to a remote store, and takes over the records of the newest backup: all
of them the first time, later those that were changed since its last sync.

* `Device`, `Phase`;
* `backup`, `sync`: one exchange, with its effects on the device and the remote store;
* `exportFile`, `importFile`: documents in files.
-/

namespace Daybook.Sync

/-! ## Devices -/

/-- How far a sync is. -/
inductive Phase where
  | idle
  | downloading
  | decompressing
  | fullImport
  | incrementalImport
  | success
  | failed
  deriving DecidableEq, Repr, Inhabited

/-- What a device works with, and does not change. -/
structure Setup (σ : Type) where
  engine : Engine σ
  registry : Schema.Registry
  config : SyncConfig := {}

/-- A device, with the remote store and the files that it reaches. -/
structure Device (σ : Type) where
  /-- The state of the engine. -/
  database : σ
  settings : Json := Settings.defaults
  remote : RemoteStore := {}
  files : Files := {}
  phase : Phase := .idle

/-- An operation of a device: its effects before a failure stay. -/
abbrev Action (σ α : Type) := EStateM Failure (Device σ) α

namespace Action

variable {σ α : Type}

/-- An action as a function on devices. -/
def perform (a : Action σ α) (d : Device σ) : Except Failure α × Device σ :=
  match a.run d with
  | .ok x d => (.ok x, d)
  | .error e d => (.error e, d)

/-- Ends as a result says. -/
def settle : Except Failure α → Action σ α
  | .ok a => pure a
  | .error e => throw e

/-- Runs a program on the database of the device. -/
def program (setup : Setup σ) (p : Program α) : Action σ α := fun d =>
  match p.run setup.engine d.database with
  | (.ok a, s) => .ok a { d with database := s }
  | (.error e, s) => .error e { d with database := s }

/-- Enters a phase. -/
def enter (phase : Phase) : Action σ Unit := modify fun d => { d with phase := phase }

/-- Changes a setting. -/
def setSetting (path : String) (value : Json) : Action σ Unit := do
  let d ← get
  let root ← settle (Settings.set d.settings path value)
  set { d with settings := root }

/-- Gives the remote store an access token. -/
def useToken (token : String) : Action σ Unit :=
  modify fun d => { d with remote := d.remote.withToken token }

end Action

open Daybook.Sync.Action

variable {σ : Type}

/-! ## Backup -/

/-- Removes files of the remote store, one after the other. -/
def deleteFiles : List FileInfo → Action σ Unit
  | [] => pure ()
  | f :: rest => do
    let d ← get
    let remote ← settle (d.remote.delete f.id)
    set { d with remote := remote }
    deleteFiles rest

/-- Puts a fresh backup in place of those in the folder of the remote store. -/
def backup (setup : Setup σ) (m : Moment) (token : String) : Action σ FileInfo := do
  useToken token
  let old ← settle ((← get).remote.list setup.config.folder)
  deleteFiles old
  let document ← program setup (exportAll setup.registry)
  let d ← get
  let (info, remote) ← settle (d.remote.upload setup.config.fileName setup.config.mimeType
    document.toGzip setup.config.folder)
  set { d with remote := remote }
  setSetting Settings.fileIdPath (.str info.id)
  setSetting Settings.backupDatePath (.str m.now)
  pure info

/-! ## Sync -/

/-- The instant of the last sync, if the settings have one. -/
def cursor? (settings : Json) : Option Calendar.Instant :=
  (Settings.get? settings Settings.syncDatePath).bind Calendar.Instant.ofJson?

/-- Remembers the identifier of a backup, unless it is remembered already. -/
def remember (id : String) : Action σ Unit := do
  if Settings.text? (← get).settings Settings.fileIdPath ≠ some id then
    setSetting Settings.fileIdPath (.str id)

/-- Takes over the newest backup of the folder. -/
def takeOver (setup : Setup σ) (m : Moment) (token : String) : Action σ ImportReport := do
  useToken token
  enter .downloading
  let some newest := (← settle ((← get).remote.list setup.config.folder)).head?
    | throw (.remoteIo .noBackup)
  let bytes ← settle ((← get).remote.download newest.id)
  remember newest.id
  enter .decompressing
  let document ← settle (Document.ofGzip bytes)
  let report ← match cursor? (← get).settings with
    | none => do
      enter .fullImport
      program setup (importAll setup.registry m document true)
    | some cursor => do
      enter .incrementalImport
      program setup (importAll setup.registry m (document.updatedAfter cursor) false)
  setSetting Settings.syncDatePath (.str m.now)
  pure report

/-- Takes over the newest backup of the folder, and keeps whether that succeeded. -/
def sync (setup : Setup σ) (m : Moment) (token : String) : Action σ ImportReport := fun d =>
  match takeOver setup m token d with
  | .ok report d => .ok report { d with phase := .success }
  | .error e d => .error e { d with phase := .failed }

/-! ## Files -/

/-- Writes all records to a file; answers how many there are. -/
def exportFile (setup : Setup σ) (path : Path) : Action σ Nat := do
  let document ← program setup (exportAll setup.registry)
  let d ← get
  let files ← settle (d.files.write path (Bytes.ofText document.pretty))
  set { d with files := files }
  pure document.total

/-- Imports the document of a file. -/
def importFile (setup : Setup σ) (m : Moment) (path : Path) (replace : Bool) :
    Action σ ImportReport := do
  let bytes ← settle ((← get).files.readBytes path)
  let document ← settle (Document.ofBytes bytes)
  program setup (importAll setup.registry m document replace)

/-! ## Messages -/

/-- The notice of a backup. -/
def backupNotice : Except Failure FileInfo → Notice :=
  .of (fun _ => "Backup data successfully") "An error occurred when backing up data"

/-- The notice of a sync. -/
def syncNotice : Except Failure ImportReport → Notice :=
  .of (fun _ => "Sync data successfully") "An error occurred when sync data"

end Daybook.Sync
