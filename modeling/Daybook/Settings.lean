import Daybook.Files
import Daybook.Json.Reader

/-!
# Settings

Settings are one JSON value, and a setting is addressed by a path of keys with dots between them.
Settings that were kept are brought in line with defaults when they are opened again.

* `Settings.get?`, `Settings.text?`, `Settings.set`, `Settings.change`;
* `Settings.merge`, `Settings.prune`, `Settings.opened`: kept settings with defaults;
* `SettingsFile`: settings that are written to a file with every change.
-/

namespace Daybook.Settings

/-! ## Paths -/

/-- The keys of a path. -/
def keysOf (path : String) : List String := (splitWhere (· = '.') path.toList).map String.ofList

/-- The value that keys lead to. -/
def getAt : List String → Json → Option Json
  | [], v => some v
  | key :: rest, v => (v.get? key).bind (getAt rest)

/-- The members of an object; none for other values. -/
def membersOf : Json → KeyMap Json
  | .obj members => members
  | _ => []

/-- The value with another where keys lead to; what is no object on the way becomes one. -/
def setAt (value : Json) : List String → Json → Json
  | [], _ => value
  | key :: rest, v =>
    let members := membersOf v
    .obj (members.insert key (setAt value rest ((members.get? key).getD .null)))

/-- The setting of a path. -/
def get? (root : Json) (path : String) : Option Json := getAt (keysOf path) root

/-- The setting of a path, if it is a text that is not empty. -/
def text? (root : Json) (path : String) : Option String :=
  match get? root path with
  | some (.str s) => if s.isEmpty then none else some s
  | _ => none

/-- The settings with another value for a path; no key of the path is empty. -/
def set (root : Json) (path : String) (value : Json) : Except Failure Json :=
  let keys := keysOf path
  if keys.any String.isEmpty then .error (.invalidInput (.settingsPath path))
  else .ok (setAt value keys root)

/-- Changes a setting; where the path has an empty key, the settings stay as they are. -/
def change (root : Json) (path : String) (value : Json) : Except Failure Unit × Json :=
  match set root path value with
  | .ok root => (.ok (), root)
  | .error e => (.error e, root)

/-! ## Defaults -/

/-- The identifier of the last backup. -/
def fileIdPath : String := "data.fileId"

/-- When the last backup was made. -/
def backupDatePath : String := "data.dateBackup"

/-- When the last sync was made. -/
def syncDatePath : String := "data.dateSync"

/-- The version of the settings; settings of another version are given up. -/
def version : Int := 1

/-- The settings before any change. -/
def defaults : Json :=
  .obj [("data", .obj [("dateBackup", .str ""), ("dateSync", .str ""), ("fileId", .str "")]),
    ("version", .int version)]

mutual

/-- Kept settings with what they lack taken from defaults. -/
def merge : (defaults kept : Json) → Json
  | .obj own, .obj members => .obj (mergeMembers own members)
  | _, kept => kept
termination_by structural d => d

/-- Kept members with what they lack taken from the members of defaults, one after the other. -/
def mergeMembers : (own : List (String × Json)) → (kept : KeyMap Json) → KeyMap Json
  | [], kept => kept
  | p :: rest, kept => mergeMembers rest (kept.insert p.1 (mergeMember p (kept.get? p.1)))
termination_by structural own => own

/-- One member of defaults, with what was kept for it. -/
def mergeMember : (member : String × Json) → (kept : Option Json) → Json
  | (_, d), some v => merge d v
  | (_, d), none => d
termination_by structural m => m

end

mutual

/-- Kept settings without the keys that defaults do not have. -/
def prune : (kept defaults : Json) → Json
  | .obj members, .obj own => .obj (pruneMembers members own)
  | kept, _ => kept
termination_by structural v => v

/-- Kept members without those that defaults do not have. -/
def pruneMembers : (members : List (String × Json)) → (own : KeyMap Json) → KeyMap Json
  | [], _ => []
  | p :: rest, own =>
    match own.get? p.1 with
    | some d => pruneMember p d :: pruneMembers rest own
    | none => pruneMembers rest own
termination_by structural ms => ms

/-- One kept member, beside its default. -/
def pruneMember : (member : String × Json) → (defaults : Json) → String × Json
  | (key, v), d => (key, prune v d)
termination_by structural m => m

end

/-- Kept settings brought in line with defaults: the keys are those of the defaults, the values
those that were kept, as far as there are any. -/
def lineUp (defaults kept : Json) : Json := prune (merge defaults kept) defaults

/-- The settings are of one version, or neither has any. -/
def sameVersion (own members : KeyMap Json) : Bool :=
  match own.get? "version", members.get? "version" with
  | none, none => true
  | some v, some w => v.same w
  | _, _ => false

/-- The settings after opening: kept settings of the same version in line with the defaults, else
the defaults. -/
def opened (defaults : Json) (kept : Option Json) : Json :=
  match kept, defaults with
  | some (.obj members), .obj own =>
    if sameVersion own members then lineUp (.obj own) (.obj members) else defaults
  | _, _ => defaults

end Settings

/-! ## Settings in a file -/

/-- Settings with the file that they are kept in. -/
structure SettingsFile where
  path : Path
  root : Json
  files : Files

namespace SettingsFile

/-- Writes the settings to their file. -/
def persist (s : SettingsFile) : Except Failure Unit × SettingsFile :=
  match s.files.write s.path (Bytes.ofText s.root.pretty) with
  | .ok files => (.ok (), { s with files := files })
  | .error e => (.error e, s)

/-- What a file keeps: nothing if it is missing, or no JSON text. -/
def kept (files : Files) (path : Path) : Except Failure (Option Json) :=
  match files.read path with
  | .ok b =>
    match Bytes.toText? b with
    | some text => .ok (Json.read? text)
    | none => .error .io
  | .error .missing => .ok none
  | .error .unreadable => .error .io

/-- Opens the settings in a file, and writes them back as they are after opening. -/
def openWith (files : Files) (path : Path) (defaults : Json) :
    Except Failure SettingsFile := do
  let kept ← kept files path
  match persist ⟨path, Settings.opened defaults kept, files⟩ with
  | (.ok _, s) => pure s
  | (.error e, _) => throw e

/-- Changes a setting and writes the settings; where writing fails, the change is made all the
same. -/
def set (s : SettingsFile) (path : String) (value : Json) : Except Failure Unit × SettingsFile :=
  match Settings.change s.root path value with
  | (.ok _, root) => persist { s with root := root }
  | (.error e, root) => (.error e, { s with root := root })

end SettingsFile
end Daybook
