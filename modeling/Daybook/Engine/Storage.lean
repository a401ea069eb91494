import Daybook.Config
import Daybook.Engine.Program
import Daybook.Sql.Reader

/-!
# The engine of a database

A database is opened when it is first needed, and again after it was closed. In memory, closing
loses what it holds; in a file, everything that was done is kept.

* `Connection`, `Connection.step?`: an open database;
* `Storage`, `Storage.opened`, `Storage.close`;
* `Storage.engine`: replies to calls.
-/

namespace Daybook

open Sql

/-! ## Open databases -/

/-- An open database, with what it remembers of the last changes. -/
structure Connection where
  database : Database := {}
  /-- How many rows the last change changed. -/
  changes : Nat := 0
  /-- The number of the last row that was added. -/
  lastRow : Int := 0
  deriving Inhabited

/-- The statement of a request. A text needs as many values as it has marks; that is looked at
after its words and names. -/
def Request.statement? (db : Database) : Request → Except Fault Statement
  | .statement s => .ok s
  | .text sql values =>
    match readStatement? sql values with
    | .error fault => .error fault
    | .ok none => .error .blank
    | .ok (some s) =>
      if s.params.length = values.length then .ok s
      else
        let wrong : Fault := .wrongParameterCount values.length s.params.length
        match db.run? s with
        | .error fault => .error (if fault.isAboutText then fault else wrong)
        | .ok _ => .error wrong

/-- The statements of a request that may hold several. -/
def Request.script : Request → List (Except Fault Statement)
  | .statement s => [.ok s]
  | .text sql _ => readScript sql

namespace Connection

/-- Runs a statement. -/
def step? (c : Connection) (s : Statement) : Except Fault (Connection × Outcome) :=
  match c.database.run? s with
  | .error fault => .error fault
  | .ok (db, .changed n last) =>
    .ok (⟨db, n, last.getD c.lastRow⟩, .changed n last)
  | .ok (db, outcome) => .ok ({ c with database := db }, outcome)

/-- Runs statements until one fails; those before it stay done. -/
def runScript (c : Connection) : List (Except Fault Statement) → Except Fault Unit × Connection
  | [] => (.ok (), c)
  | .error fault :: _ => (.error fault, c)
  | .ok s :: rest =>
    match c.step? s with
    | .error fault => (.error fault, c)
    | .ok (c, _) => c.runScript rest

/-- The name of the way in which changes are kept, as a row. -/
def journalRow (config : StorageConfig) : Record :=
  let name :=
    if config.isInMemory then "memory"
    else match config.mode with
      | .logged => "wal"
      | .singleFile => "delete"
  [("journal_mode", .str name)]

/-- Runs a query; a change answers no rows. -/
def query? (c : Connection) (config : StorageConfig) (r : Request) :
    Except Fault (List Record × Connection) := do
  let s ← r.statement? c.database
  let (c, outcome) ← c.step? s
  match s, outcome with
  | .journalMode, _ => pure ([journalRow config], c)
  | _, .rows records => pure (records, c)
  | _, _ => pure ([], c)

/-- Runs a change; a query may only be run so if it answers no row. -/
def change? (c : Connection) (r : Request) : Except Fault Connection := do
  let s ← r.statement? c.database
  let (c, outcome) ← c.step? s
  match s, outcome with
  | .journalMode, _ => throw .returnsRows
  | _, .rows (_ :: _) => throw .returnsRows
  | _, _ => pure c

/-- Runs changes one after the other, and adds up how many rows they changed. -/
def changeAll? (c : Connection) (total : Nat) : List Request → Except Fault (Connection × Nat)
  | [] => .ok (c, total)
  | r :: rest => do
    if let .ok .vacuum := r.statement? c.database then throw .insideTransaction
    let c ← c.change? r
    c.changeAll? (total + c.changes) rest

/-- Looks at the database through a function that answers tables, which a table of its name
hides. -/
def look? {α : Type} (c : Connection) (function : String) (answer : Database → α) :
    Except Fault (α × Connection) :=
  match c.database.table? function with
  | some _ => .error (.notFunction function)
  | none => .ok (answer c.database, c)

end Connection

/-! ## Storage -/

/-- A database with the place where it is kept. -/
structure Storage where
  config : StorageConfig
  /-- What the place holds: a database, or something that is none. -/
  saved : Except Fault Database := .ok {}
  connection : Option Connection := none
  deriving Inhabited

namespace Storage

/-- The database is open. -/
def isOpen (s : Storage) : Bool := s.connection.isSome

/-- The connection, opened if it is not open. -/
def opened (s : Storage) : Except Fault Connection :=
  match s.connection with
  | some c => .ok c
  | none => (if s.config.isInMemory then .ok {} else s.saved).map fun db => { database := db }

/-- The storage with a connection, what it holds being kept. -/
def keep (s : Storage) (c : Connection) : Storage :=
  { s with saved := .ok c.database, connection := some c }

/-- The storage, opened. -/
def open? (s : Storage) : Except Failure Storage :=
  match s.opened with
  | .ok c => .ok (s.keep c)
  | .error fault => .error (.storage fault)

/-- The storage, closed. -/
def close (s : Storage) : Storage := { s with connection := none }

/-- Does something with the open database; a fault leaves it as it was. -/
def on {α : Type} (s : Storage) (f : Connection → Except Fault (α × Connection)) :
    Except Failure α × Storage :=
  match s.opened with
  | .error fault => (.error (.storage fault), s)
  | .ok c =>
    match f c with
    | .ok (a, c) => (.ok a, s.keep c)
    | .error fault => (.error (.storage fault), s.keep c)

/-- Runs a script; the statements before one that fails stay done. -/
def onScript (s : Storage) (r : Request) : Except Failure Unit × Storage :=
  match s.opened with
  | .error fault => (.error (.storage fault), s)
  | .ok c =>
    match c.runScript r.script with
    | (.ok _, c) => (.ok (), s.keep c)
    | (.error fault, c) => (.error (.storage fault), s.keep c)

/-- The engine of a database. -/
def engine : Engine Storage where
  reply
    | .execute r, s => s.onScript r
    | .query r, s => s.on fun c => c.query? s.config r
    | .change r _, s => s.on fun c => (c.change? r).map fun c => (c.changes, c)
    | .insert r, s => s.on fun c => (c.change? r).map fun c => (c.lastRow, c)
    | .transaction rs, s => s.on fun c => (c.changeAll? 0 rs).map fun (c, n) => (n, c)
    | .columns table, s => s.on fun c => c.look? "pragma_table_info" fun db => db.liveColumns table
    | .hasTable table, s => s.on fun c => .ok (c.database.hasTable table, c)
    | .indexes table, s => s.on fun c => c.look? "pragma_index_list" fun db => db.indexNames table
    | .close, s => (.ok (), s.close)

end Storage
end Daybook
