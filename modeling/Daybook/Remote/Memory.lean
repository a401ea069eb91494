import Daybook.KeyMap
import Daybook.Remote

/-!
# Remote stores in memory

A store in memory keeps its files by the texts of their identifiers, so the tenth file stands before
the second. The number of an upload tells how new a file is; when a folder is listed, its files are
sorted by their numbers.

* `MemoryFile`, `MemoryStore`: what is kept;
* `MemoryStore.list`, `MemoryStore.upload`, `MemoryStore.download`, `MemoryStore.delete`: what a
  request is answered, and the store after it;
* `RemoteRequest`, `RemoteAnswer`, `RemoteStore.perform`, `MemoryStore.perform`: requests of all
  kinds.
-/

namespace Daybook

/-- A file with the number of its upload. -/
structure MemoryFile extends RemoteFile where
  number : UInt64

/-- A remote store in memory. -/
structure MemoryStore where
  token : Option String := none
  /-- The files by their identifiers. -/
  files : KeyMap MemoryFile := []
  /-- The number of the last upload. -/
  counter : UInt64 := 0

namespace MemoryStore

/-- The store with an access token. -/
def withToken (m : MemoryStore) (token : String) : MemoryStore := { m with token := some token }

/-- An answer and the store after it; without an access token, the request is refused. -/
def authorized {α : Type} (m : MemoryStore) (reply : Except Failure α × MemoryStore) :
    Except Failure α × MemoryStore :=
  if m.token.isNone then (RemoteStore.failure .noToken, m) else reply

/-- The files, those of later uploads first. -/
def newestFirst (files : List MemoryFile) : List MemoryFile :=
  files.mergeSort fun f g => g.number ≤ f.number

/-- The files of a folder, newest first. -/
def list (m : MemoryStore) (folder : String) : Except Failure (List FileInfo) × MemoryStore :=
  let matching := m.files.values.filter fun f => f.folder = folder
  m.authorized (.ok ((newestFirst matching).map fun f => f.info), m)

/-- Adds a file. -/
def upload (m : MemoryStore) (name mimeType : String) (bytes : Bytes) (folder : String) :
    Except Failure FileInfo × MemoryStore :=
  let number := m.counter + 1
  let info : FileInfo := ⟨RemoteStore.idOf number.toNat, name, some mimeType⟩
  let files := m.files.insert info.id ⟨⟨info, folder, bytes⟩, number⟩
  m.authorized (.ok info, { m with files, counter := number })

/-- The file of an identifier, which a request needs. -/
def file (m : MemoryStore) (id : String) : Except Failure MemoryFile :=
  match m.files.get? id with
  | some f => .ok f
  | none => RemoteStore.failure (.noFile id)

/-- The bytes of a file. -/
def download (m : MemoryStore) (id : String) : Except Failure Bytes × MemoryStore :=
  m.authorized ((m.file id).map fun f => f.bytes, m)

/-- Removes a file. -/
def delete (m : MemoryStore) (id : String) : Except Failure Unit × MemoryStore :=
  m.authorized ((m.file id).map fun _ => (), { m with files := m.files.erase id })

end MemoryStore

/-! ## Requests -/

/-- What may be asked of a remote store. -/
inductive RemoteRequest where
  | setToken (token : String)
  | list (folder : String)
  | upload (name mimeType : String) (bytes : Bytes) (folder : String)
  | download (id : String)
  | delete (id : String)

/-- What a remote store answers to a request that it grants. -/
inductive RemoteAnswer where
  | done
  | infos (infos : List FileInfo)
  | info (info : FileInfo)
  | bytes (bytes : Bytes)

/-- What a request is answered, and the store after it. -/
def RemoteStore.perform (r : RemoteStore) :
    RemoteRequest → Except Failure RemoteAnswer × RemoteStore
  | .setToken token => (.ok .done, r.withToken token)
  | .list folder => ((r.list folder).map .infos, r)
  | .upload name mimeType bytes folder =>
    match r.upload name mimeType bytes folder with
    | .ok (info, r') => (.ok (.info info), r')
    | .error e => (.error e, r)
  | .download id => ((r.download id).map .bytes, r)
  | .delete id =>
    match r.delete id with
    | .ok r' => (.ok .done, r')
    | .error e => (.error e, r)

/-- A reply to a request of one kind, as one to any request. -/
def MemoryStore.replied {α : Type} (answer : α → RemoteAnswer)
    (reply : Except Failure α × MemoryStore) : Except Failure RemoteAnswer × MemoryStore :=
  (reply.1.map answer, reply.2)

/-- What a request is answered, and the store after it. -/
def MemoryStore.perform (m : MemoryStore) :
    RemoteRequest → Except Failure RemoteAnswer × MemoryStore
  | .setToken token => (.ok .done, m.withToken token)
  | .list folder => replied .infos (m.list folder)
  | .upload name mimeType bytes folder => replied .info (m.upload name mimeType bytes folder)
  | .download id => replied .bytes (m.download id)
  | .delete id => replied (fun _ => .done) (m.delete id)

end Daybook
