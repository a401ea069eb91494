import Daybook.Bytes.Basic
import Daybook.Failure
import Daybook.Json.Reader
import Daybook.Sql.Script

/-!
# File trees

The files that the library reads and writes, by their paths. A path leads through directories; the
directories of a file that is written are made where they are missing.

* `Files`, `Path`, `Content`;
* `Files.read`, `Files.write`;
* `lookup_put_self`, `lookup_put_of_ne`: what writing changes.
-/

namespace Daybook

/-- A path: the names on the way from the root. -/
abbrev Path := List String

/-- The parts of a list between the elements that satisfy a test. -/
def splitWhere {α : Type} (test : α → Bool) : List α → List (List α)
  | [] => [[]]
  | c :: rest =>
    if test c then [] :: splitWhere test rest
    else
      match splitWhere test rest with
      | part :: parts => (c :: part) :: parts
      | [] => [[c]]

namespace Path

/-- The name that a path from the root begins with. -/
def root : String := "/"

/-- The name that a path ends with if it can only lead to a directory. -/
def itself : String := "."

/-- The path with one more name; two dots lead back. -/
def step (path : Path) (name : String) : Path :=
  if name = "" || name = itself then path
  else if name = ".." then
    match path.getLast? with
    | none => [name]
    | some last => if last = ".." then path ++ [name] else if last = root then path else path.dropLast
  else path ++ [name]

/-- The path of a text, in which slashes stand between names. -/
def ofText (s : String) : Path :=
  let names := (splitWhere (· = '/') s.toList).map String.ofList
  let start : Path := if "/".toList.isPrefixOf s.toList then [root] else []
  let path := names.foldl step start
  if names.length > 1 && (names.getLast? = some "" || names.getLast? = some itself) then
    path ++ [itself]
  else path

/-- The text of a path. -/
def text (path : Path) : String :=
  match path with
  | [] => itself
  | name :: rest =>
    if name = root then root ++ "/".intercalate rest else "/".intercalate (name :: rest)

/-- The directory of what a path leads to. -/
def parent (path : Path) : Path := path.dropLast

/-- The path can only lead to a directory. -/
def isDirectoryOnly (path : Path) : Bool :=
  match path.getLast? with
  | none => true
  | some name => name = root || name = itself || name = ".."

end Path

/-- What a path leads to. -/
inductive Content where
  | bytes (b : Bytes)
  /-- A file that holds a database, as the script that builds it. -/
  | database (db : Sql.Database)
  | directory
  /-- A file of the system, which holds a small number and takes nothing else. -/
  | number (n : Int)
  deriving DecidableEq, Inhabited

namespace Content

/-- The bytes of a file. -/
def bytes? : Content → Option Bytes
  | .bytes b => some b
  | .database db => some (Bytes.ofText db.script)
  | .directory => none
  | .number n => some (Bytes.ofText (String.ofList (Json.writeInt n) ++ "\n"))

/-- The largest number that a file of the system takes, with either sign. -/
def maxNumber : Int := 1000

/-- What a file holds after bytes are written to it, if it takes them. -/
def written? (b : Bytes) : Content → Option Content
  | .bytes _ | .database _ => some (.bytes b)
  | .directory => none
  | .number _ =>
    match Json.readBytes? b with
    | some (.int n) => if -maxNumber ≤ n ∧ n ≤ maxNumber then some (.number n) else none
    | _ => none

end Content

/-- Files by their paths. -/
structure Files where
  entries : List (Path × Content) := []
  deriving DecidableEq, Inhabited

namespace Files

/-- Why a file cannot be read. -/
inductive ReadFault where
  | missing
  | unreadable
  deriving DecidableEq, Repr

/-- What a path leads to by itself. -/
def lookup? (f : Files) (path : Path) : Option Content := f.entries.lookup path

/-- The path leads to a directory: it was made one, or it leads to something further. -/
def isDirectory (f : Files) (path : Path) : Bool :=
  f.lookup? path = some .directory ||
    f.entries.any fun e => path.isPrefixOf e.1 && decide (path.length < e.1.length)

/-- The path leads to a file. -/
def isFile (f : Files) (path : Path) : Bool :=
  match f.lookup? path with
  | some .directory | none => false
  | some _ => true

/-- A file stands on the way to a path. -/
def isBlocked (f : Files) (path : Path) : Bool :=
  (List.range path.length).any fun n => f.isFile (path.take n)

/-- The bytes of the file that a path leads to. -/
def read (f : Files) (path : Path) : Except ReadFault Bytes :=
  match f.lookup? path with
  | some content =>
    match content.bytes? with
    | some b => .ok b
    | none => .error .unreadable
  | none =>
    if f.isDirectory path || f.isBlocked path then .error .unreadable
    else .error .missing

/-- The bytes of a file, which have to be readable. -/
def readBytes (f : Files) (path : Path) : Except Failure Bytes :=
  match f.read path with
  | .ok b => .ok b
  | .error _ => .error .io

/-- The files with one more, in place of the one of its path. -/
def put (f : Files) (path : Path) (content : Content) : Files :=
  ⟨(path, content) :: f.entries.filter fun e => e.1 ≠ path⟩

/-- Writes a file, and makes the directories on the way to it. -/
def write (f : Files) (path : Path) (b : Bytes) : Except Failure Files :=
  if path.isDirectoryOnly || f.isDirectory path then .error .io
  else if f.isBlocked path then .error .io
  else
    match ((f.lookup? path).getD (.bytes [])).written? b with
    | some content => .ok (f.put path content)
    | none => .error .io

/-- The files that a system has by itself: the number by which it ranks a process where memory runs
out. -/
def system : Files := ⟨[(Path.ofText "/proc/self/oom_score_adj", .number 0)]⟩

/-! ## Looking up after writing -/

@[simp] theorem lookup_put_self (f : Files) (path : Path) (content : Content) :
    (f.put path content).lookup? path = some content := by
  simp [lookup?, put]

theorem lookup_filter_of_ne {path other : Path} (h : other ≠ path) (l : List (Path × Content)) :
    (l.filter fun e => e.1 ≠ path).lookup other = l.lookup other := by
  induction l with
  | nil => rfl
  | cons e rest ih =>
    obtain ⟨p, c⟩ := e
    by_cases hp : p = path
    · subst hp
      have : (other == p) = false := by simp [h]
      simp only [ne_eq, decide_not] at ih
      simp [List.lookup_cons, this, ih]
    · simp only [ne_eq, decide_not] at ih
      simp [hp, List.lookup_cons, ih]

theorem lookup_put_of_ne (f : Files) {path other : Path} (content : Content) (h : other ≠ path) :
    (f.put path content).lookup? other = f.lookup? other := by
  have hb : (other == path) = false := by simp [h]
  simp only [lookup?, put, List.lookup_cons, hb]
  exact lookup_filter_of_ne h f.entries

end Files
end Daybook
