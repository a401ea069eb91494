import Daybook.Failure
import Daybook.Json.Fields

/-!
# Configurations

Where the database is kept and how, and where a backup goes.

* `StorageMode`, `StorageConfig`, `SyncConfig`;
* `StorageConfig.ofJson`, `SyncConfig.ofJson`: configurations as JSON values.
-/

namespace Daybook

/-- The version of the library. -/
def version : String := "0.4.0"

/-! ## Storage -/

/-- How a database file is kept. -/
inductive StorageMode where
  /-- A log of changes is kept beside the file. -/
  | logged
  /-- All is in the one file, so that it can be copied. -/
  | singleFile
  deriving DecidableEq, Repr, Inhabited

namespace StorageMode

/-- The word of a mode. -/
def name : StorageMode → String
  | .logged => "local"
  | .singleFile => "cloud-safe"

/-- The mode of a word; an underscore may stand for the hyphen. -/
def ofName (s : String) : Except Failure StorageMode :=
  if s = "local" then .ok .logged
  else if s = "cloud-safe" || s = "cloud_safe" then .ok .singleFile
  else .error (.unknownMode s)

/-- The mode of a word in a configuration. -/
def ofJson? (v : Json) : Option StorageMode :=
  v.choice?.bind fun s => [StorageMode.logged, .singleFile].find? fun m => m.name = s

end StorageMode

/-- Where a database is kept, and how. -/
structure StorageConfig where
  path : String
  mode : StorageMode := .logged
  /-- How long to wait for a database that is in use, in milliseconds. -/
  timeout : Nat := 30000
  deriving DecidableEq, Inhabited

namespace StorageConfig

/-- The path that stands for a database in memory. -/
def memoryPath : String := ":memory:"

/-- The database is in memory, and is lost when it is closed. -/
def isInMemory (c : StorageConfig) : Bool := c.path = memoryPath

/-- The configuration of a JSON value. -/
def ofJson? (v : Json) : Option StorageConfig := do
  let field ← v.fields? ["db_path", "storage_mode", "busy_timeout_ms"]
  let path ← Json.required? (field "db_path") Json.str?
  let mode ← Json.optional? (field "storage_mode") .logged StorageMode.ofJson?
  let timeout ← Json.optional? (field "busy_timeout_ms") 30000 Json.nat64?
  pure ⟨path, mode, timeout⟩

/-- The configuration of a JSON value, which has to be one. -/
def ofJson (v : Json) : Except Failure StorageConfig :=
  match ofJson? v with
  | some c => .ok c
  | none => .error .serialization

/-- The configuration as a JSON value. -/
def toJson (c : StorageConfig) : Json :=
  .obj [("busy_timeout_ms", .int c.timeout), ("db_path", .str c.path),
    ("storage_mode", .str c.mode.name)]

end StorageConfig

/-! ## Backups -/

/-- Where a backup goes. -/
structure SyncConfig where
  /-- The folder of the remote store. -/
  folder : String := "appDataFolder"
  fileName : String := "SpendWise.json.gz"
  mimeType : String := "application/gzip"
  deriving DecidableEq, Inhabited

namespace SyncConfig

/-- The configuration of a JSON value. -/
def ofJson? (v : Json) : Option SyncConfig := do
  let field ← v.fields? ["folder_scope", "file_name", "mime_type"]
  let usual : SyncConfig := {}
  let folder ← Json.optional? (field "folder_scope") usual.folder Json.str?
  let fileName ← Json.optional? (field "file_name") usual.fileName Json.str?
  let mimeType ← Json.optional? (field "mime_type") usual.mimeType Json.str?
  pure ⟨folder, fileName, mimeType⟩

/-- The configuration of a JSON value, which has to be one. -/
def ofJson (v : Json) : Except Failure SyncConfig :=
  match ofJson? v with
  | some c => .ok c
  | none => .error .serialization

/-- The configuration as a JSON value. -/
def toJson (c : SyncConfig) : Json :=
  .obj [("file_name", .str c.fileName), ("folder_scope", .str c.folder),
    ("mime_type", .str c.mimeType)]

end SyncConfig
end Daybook
