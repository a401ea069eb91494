import Daybook.Failure
import Daybook.Json.Fields

/-!
# Remote stores

A remote store keeps files in folders, newest first. Without an access token it refuses every
request.

* `RemoteFile`, `RemoteStore`;
* `RemoteStore.list`, `RemoteStore.upload`, `RemoteStore.download`, `RemoteStore.delete`.
-/

namespace Daybook

/-- What a remote store tells of a file. -/
structure FileInfo where
  id : String
  name : String
  mimeType : Option String
  deriving DecidableEq, Inhabited

namespace FileInfo

/-- The information of a JSON value. -/
def ofJson? (v : Json) : Option FileInfo := do
  let field ← v.fields? ["id", "name", "mimeType"]
  let id ← Json.required? (field "id") Json.str?
  let name ← Json.required? (field "name") Json.str?
  let mimeType ← Json.optional? (field "mimeType") none (Json.nullable? Json.str?)
  pure ⟨id, name, mimeType⟩

/-- The information of a JSON value, which has to be one. -/
def ofJson (v : Json) : Except Failure FileInfo :=
  match ofJson? v with
  | some f => .ok f
  | none => .error .serialization

/-- The information as a JSON value. -/
def toJson (f : FileInfo) : Json :=
  .obj [("id", .str f.id), ("mimeType", (f.mimeType.map .str).getD .null), ("name", .str f.name)]

end FileInfo

/-- A file of a remote store. -/
structure RemoteFile where
  info : FileInfo
  folder : String
  bytes : Bytes
  deriving DecidableEq

/-- A remote store. -/
structure RemoteStore where
  token : Option String := none
  /-- The files, newest first. -/
  files : List RemoteFile := []
  /-- How many files were ever uploaded. -/
  uploads : Nat := 0

namespace RemoteStore

/-- The store with an access token. -/
def withToken (r : RemoteStore) (token : String) : RemoteStore := { r with token := some token }

/-- The failure of a request. -/
def failure {α : Type} (fault : RemoteFault) : Except Failure α := .error (.remoteIo fault)

/-- A request, which needs an access token. -/
def authorized {α : Type} (r : RemoteStore) (request : Except Failure α) : Except Failure α :=
  if r.token.isNone then failure .noToken else request

/-- The file of an identifier. -/
def find? (r : RemoteStore) (id : String) : Option RemoteFile :=
  r.files.find? fun f => f.info.id = id

/-- The files of a folder, newest first. -/
def list (r : RemoteStore) (folder : String) : Except Failure (List FileInfo) :=
  r.authorized (.ok ((r.files.filter fun f => f.folder = folder).map RemoteFile.info))

/-- The identifier of the `n`-th upload. -/
def idOf (n : Nat) : String := "mem-" ++ String.ofList (Nat.toDigits 10 n)

/-- Adds a file. -/
def upload (r : RemoteStore) (name mimeType : String) (bytes : Bytes) (folder : String) :
    Except Failure (FileInfo × RemoteStore) :=
  let n := r.uploads + 1
  let info : FileInfo := ⟨idOf n, name, some mimeType⟩
  r.authorized (.ok (info, { r with files := ⟨info, folder, bytes⟩ :: r.files, uploads := n }))

/-- The bytes of a file. -/
def download (r : RemoteStore) (id : String) : Except Failure Bytes :=
  r.authorized (match r.find? id with
    | some f => .ok f.bytes
    | none => failure (.noFile id))

/-- Removes a file. -/
def delete (r : RemoteStore) (id : String) : Except Failure RemoteStore :=
  r.authorized (match r.find? id with
    | some _ => .ok { r with files := r.files.filter fun f => f.info.id ≠ id }
    | none => failure (.noFile id))

end RemoteStore
end Daybook
