import Daybook.CommandLine.Invocation
import Daybook.Engine.Storage
import Daybook.Filter.Reader
import Daybook.Migration.Apply
import Daybook.Schema.Models
import Daybook.Sql.Script
import Daybook.Store.Find
import Daybook.Sync.Device

/-!
# Running commands

A command is run on files: one of them holds the database, another the settings. Before any command
but `migrate`, the tables are made that are missing.

* `Printed`: what a command prints, and why it failed;
* `Command.run`: a command on an open database;
* `Invocation.run`: a command on files;
* `databaseIn`: the database of a file;
* `Outcome`: the text, the status and the files after a command.
-/

namespace Daybook.CommandLine

/-! ## What is printed -/

/-- What a command prints, and why it failed if it did. -/
structure Printed where
  output : String := ""
  errors : String := ""
  failure : Option Failure := none

namespace Printed

/-- Prints a line. -/
def line (s : String) : Printed := { output := s ++ "\n" }

/-- Prints nothing and fails. -/
def failed (e : Failure) : Printed := { failure := some e }

/-- Prints a message; that of a failure goes to the errors. -/
def ofNotice (n : Sync.Notice) : Printed :=
  match n.failure with
  | none => line n.message
  | some e => { errors := n.message ++ "\n", failure := some e }

end Printed

/-- The text of a failure in the errors; of the kinds without a text of their own, the name. -/
def failureText (e : Failure) : String :=
  match e with
  | .serialization => "Serialization error"
  | .io => "IO error"
  | e => e.message?.getD ""

/-- The line that says what was done to a table. -/
def migrationLine (r : Migration.Report) : String :=
  if r.isNoop then r.table ++ ": up to date\n"
  else
    r.table ++ ": created=" ++ (if r.created then "true" else "false") ++
      " added=" ++ Text.quoteList r.added ++ " removed=" ++ Text.quoteList r.removed ++ "\n"

/-- What is printed of a migration: all that was done, and the first failure. -/
def Printed.ofSummary (s : Migration.Summary) : Printed :=
  let output := String.join (s.reports.map migrationLine)
  match s.failures with
  | [] => { output }
  | (entity, e) :: _ =>
    { output, errors := entity ++ ": migration failed\n", failure := some e }

/-! ## Commands -/

/-- The records of an entity as a command asks for them. -/
def search (registry : Schema.Registry) (entity : String) (filter sort : Option String)
    (descending : Bool) (limit : Option Nat) : Program (List Record) := do
  let filter : Filter ← match filter with
    | none => pure {}
    | some text =>
      match Json.read? text with
      | none => .fail .serialization
      | some v => .ofExcept (Filter.ofJson v)
  let direction : Sql.Direction := if descending then .descending else .ascending
  let page : Store.Page := { sort := (sort.map fun c => (c, direction)).toList, limit }
  let schema ← .ofExcept (registry.schemaOf entity)
  Store.findPage schema filter page

/-- How many records the tables of schemas have. -/
def tallies : List Schema → Program (KeyMap Json)
  | [] => pure []
  | s :: rest => do
    let n ← Store.count s {}
    let counts ← tallies rest
    pure (KeyMap.insert counts s.table (.int n))

/-- What is known of the database and its backups. -/
def statistics (path : String) (size : Nat) (settings : Json) (counts : KeyMap Json) : Json :=
  let setting (key : String) : Json := (Settings.get? settings key).getD .null
  .obj (KeyMap.ofList [("backup_file_id", setting Settings.fileIdPath), ("db_path", .str path),
    ("db_size_bytes", .int size), ("last_backup", setting Settings.backupDatePath),
    ("last_sync", setting Settings.syncDatePath), ("tables", .obj counts)])

/-- The number of bytes of the text that an open database is kept as. -/
def keptSize (s : Storage) : Nat :=
  match s.saved with
  | .ok db => db.script.utf8ByteSize
  | .error _ => 0

/-- A device whose database is open. -/
abbrev Desk := Sync.Device Storage

/-- What commands work with. -/
def setup : Sync.Setup Storage where
  engine := Storage.engine
  registry := Schema.Registry.withModels {}

/-- Makes the tables that are missing; the first failure ends it. -/
def prepare : Sync.Action Storage Unit := do
  let summary ← Sync.Action.program setup (Migration.migrateAll setup.registry false)
  match summary.failures with
  | [] => pure ()
  | (_, e) :: _ => throw e

/-- An action whose result is a value to go on with. -/
def outcomeOf {α : Type} (a : Sync.Action Storage α) : Sync.Action Storage (Except Failure α) :=
  fun d =>
    match a.perform d with
    | (r, d) => .ok r d

/-- Runs a command. -/
def Command.run (databasePath : String) (m : Moment) : Command → Sync.Action Storage Printed
  | .migrate checkColumns => do
    let summary ← Sync.Action.program setup (Migration.migrateAll setup.registry checkColumns)
    pure (.ofSummary summary)
  | .save path => do
    prepare
    let result ← outcomeOf (Sync.exportFile setup (Path.ofText path))
    pure (.ofNotice (Sync.exportNotice result))
  | .load path replace => do
    prepare
    let result ← outcomeOf (Sync.importFile setup m (Path.ofText path) replace)
    pure (.ofNotice (Sync.importNotice result))
  | .find entity filter sort descending limit => do
    prepare
    let records ← Sync.Action.program setup
      (search setup.registry entity filter sort descending limit)
    pure (.line (Json.arr (records.map .obj)).pretty)
  | .stats => do
    prepare
    let counts ← Sync.Action.program setup (tallies setup.registry.schemas)
    let d ← get
    pure (.line (statistics databasePath (keptSize d.database) d.settings counts).pretty)

/-! ## Files -/

/-- The text, the status and the files after a command. -/
structure Outcome where
  status : Nat := 0
  output : String := ""
  errors : String := ""
  files : Files

/-- The outcome of what was printed. -/
def Printed.outcome (p : Printed) (files : Files) : Outcome :=
  match p.failure with
  | none => ⟨0, p.output, p.errors, files⟩
  | some e => ⟨e.code, p.output, p.errors ++ "Error: " ++ failureText e ++ "\n", files⟩

/-- The database of the bytes of a file: an empty file is the empty database, others are scripts. -/
def databaseOf (b : Bytes) : Except Sql.Fault Sql.Database :=
  if b.isEmpty then .ok {}
  else if !(Bytes.ofText Sql.Database.scriptHeading).isPrefixOf b then .error .notADatabase
  else
    match (Bytes.toText? b).map Sql.Database.ofScript? with
    | some (.ok db) => .ok db
    | _ => .error .notADatabase

/-- The database that a file holds; a missing one holds the empty database. -/
def databaseIn (files : Files) (path : Path) : Except Sql.Fault Sql.Database :=
  match files.lookup? path with
  | some (.database db) => .ok db
  | some content =>
    match content.bytes? with
    | some b => databaseOf b
    | none => .error (.code 14 (some "unable to open database file"))
  | none => .ok {}

/-- The paths that a command reads or writes, as texts. -/
def Invocation.paths (i : Invocation) : List String :=
  [i.databasePath, i.settingsPath] ++
    match i.command with
    | .save path | .load path _ => [path]
    | _ => []

/-- Opens the database and the settings. -/
def Invocation.open? (i : Invocation) (files : Files) : Except Failure Desk := do
  let mode ← StorageMode.ofName i.mode
  let path := Path.ofText i.databasePath
  let storage : Storage :=
    { config := ⟨i.databasePath, mode, 30000⟩, saved := databaseIn files path }
  let storage ← storage.open?
  let settings ← SettingsFile.openWith files (Path.ofText i.settingsPath) Settings.defaults
  pure { database := storage, settings := settings.root, files := settings.files }

/-- The files after a command: the database is written to its file if it has changed. -/
def keptFiles (before after : Desk) : Files :=
  match after.database.saved with
  | .ok db =>
    if after.database.config.isInMemory || before.database.saved.toOption = some db then after.files
    else after.files.put (Path.ofText after.database.config.path) (.database db)
  | .error _ => after.files

/-- Runs a command on files. -/
def Invocation.run (i : Invocation) (m : Moment) (files : Files) : Outcome :=
  match i.open? files with
  | .error e => (Printed.failed e).outcome files
  | .ok before =>
    match (i.command.run i.databasePath m).perform before with
    | (.ok printed, after) => printed.outcome (keptFiles before after)
    | (.error e, after) => (Printed.failed e).outcome (keptFiles before after)

end Daybook.CommandLine
