import Daybook.Sql.Statement

/-!
# Faults of a database

Why a database refuses a statement, as causes, and the text of each.

* `Fault`, `Fault.message`;
* `Fault.isBusy`: trying again later may help;
* `describeCode`: what a bare result code means.
-/

namespace Daybook.Sql

/-- Why a database refuses a statement. -/
inductive Fault where
  /-- The text of the statement breaks off the grammar at a word. -/
  | unexpected (word : String)
  /-- The text of the statement has characters that are no word. -/
  | unrecognized (text : String)
  /-- The text of the statement ends too early. -/
  | incomplete
  /-- The statement has no text at all. -/
  | blank
  | tooManyMarks
  | tooManyColumns (table : String)
  | tooDeep
  | wrongParameterCount (given needed : Nat)
  | returnsRows
  | noSuchTable (table : String)
  | noSuchColumn (column : String)
  | tableLacks (table column : String)
  | wrongValueCount (values columns : Nat)
  | wrongRowWidth (table : String) (columns values : Nat)
  | tableExists (table : String)
  | indexExists (index : String)
  /-- An index would have the name of a table. -/
  | namedLikeTable (name : String)
  /-- A table would have the name of an index. -/
  | namedLikeIndex (name : String)
  | nameReserved (name : String)
  | notModifiable (table : String)
  | notIndexable (table : String)
  /-- An index would be of a value that changes with time. -/
  | changingIndex
  /-- A table has the name of a function that answers tables. -/
  | notFunction (name : String)
  | duplicateColumn (column : String)
  | addedNotNull
  | dropsKey (column : String)
  | dropsLast (column : String)
  /-- An index still needs the column that was dropped. -/
  | indexNeeds (index column : String)
  | noSuchIndex (index : String)
  | indexKept
  | notNull (table column : String)
  | check (condition : String)
  | unique (table : String) (columns : List String)
  | mismatch
  | patternTooLong
  | insideTransaction
  | notADatabase
  /-- A failure that is known by its result code, and perhaps a text. -/
  | code (n : Int) (text : Option String)
  deriving DecidableEq, Inhabited

/-- What a result code means. -/
def describeCode (n : Int) : String :=
  ((table.find? fun p => p.1 = n).map Prod.snd).getD "Unknown error code"
where
  /-- The meanings of the codes. -/
  table : List (Int × String) :=
    [(0, "Successful result"), (1, "SQL logic error"), (2, "Internal logic error in SQLite"),
      (3, "Access permission denied"), (4, "Callback routine requested an abort"),
      (5, "The database file is locked"), (6, "A table in the database is locked"),
      (7, "A malloc() failed"), (8, "Attempt to write a readonly database"),
      (9, "Operation terminated by sqlite3_interrupt()"),
      (10, "Some kind of disk I/O error occurred"), (11, "The database disk image is malformed"),
      (12, "Unknown opcode in sqlite3_file_control()"),
      (13, "Insertion failed because database is full"), (14, "Unable to open the database file"),
      (15, "Database lock protocol error"), (16, "Database is empty"),
      (17, "The database schema changed"), (18, "String or BLOB exceeds size limit"),
      (19, "Abort due to constraint violation"), (20, "Data type mismatch"),
      (21, "Library used incorrectly"), (22, "Uses OS features not supported on host"),
      (23, "Authorization denied"), (24, "Auxiliary database format error"),
      (25, "2nd parameter to sqlite3_bind out of range"),
      (26, "File opened that is not a database file"), (27, "Notifications from sqlite3_log()"),
      (28, "Warnings from sqlite3_log()"), (100, "sqlite3_step() has another row ready"),
      (101, "sqlite3_step() has finished executing"),
      (257, "SQLITE_ERROR_MISSING_COLLSEQ"), (513, "SQLITE_ERROR_RETRY"),
      (769, "SQLITE_ERROR_SNAPSHOT"), (266, "Error reading from disk"),
      (522, "Unable to obtain number of requested bytes (file truncated?)"),
      (778, "Error writing to disk"),
      (1034, "Error flushing data to persistent storage (fsync)"),
      (262, "Locking conflict due to another connection with a shared cache"),
      (261, "Another process is recovering a WAL mode database file"),
      (517, "Cannot promote read transaction to write transaction because of writes by " ++
        "another connection"),
      (526, "Attempted to open directory as file"), (275, "A CHECK constraint failed"),
      (531, "Commit hook caused rollback"), (787, "Foreign key constraint failed"),
      (1043, "Error returned from extension function"), (1299, "A NOT NULL constraint failed"),
      (1555, "A PRIMARY KEY constraint failed"), (1811, "A RAISE function within a trigger fired"),
      (2067, "A UNIQUE constraint failed"),
      (2323, "An application-defined virtual table error occurred"),
      (2579, "A non-unique rowid occurred")]

namespace Fault

/-- The text of a fault. -/
def message : Fault → String
  | unexpected word => "near \"" ++ word ++ "\": syntax error"
  | unrecognized text => "unrecognized token: \"" ++ text ++ "\""
  | incomplete => "incomplete input"
  | blank => "not an error"
  | tooManyMarks => "too many SQL variables"
  | tooManyColumns table => "too many columns on " ++ table
  | tooDeep => "Expression tree is too large (maximum depth 1000)"
  | wrongParameterCount given needed =>
    s!"Wrong number of parameters passed to query. Got {given}, needed {needed}"
  | returnsRows => "Execute returned results - did you mean to call query?"
  | noSuchTable table => "no such table: " ++ table
  | noSuchColumn column => "no such column: " ++ column
  | tableLacks table column => "table " ++ table ++ " has no column named " ++ column
  | wrongValueCount values columns => s!"{values} values for {columns} columns"
  | wrongRowWidth table columns values =>
    s!"table {table} has {columns} columns but {values} values were supplied"
  | tableExists table => "table " ++ table ++ " already exists"
  | indexExists index => "index " ++ index ++ " already exists"
  | namedLikeTable name => "there is already a table named " ++ name
  | namedLikeIndex name => "there is already an index named " ++ name
  | nameReserved name => "object name reserved for internal use: " ++ name
  | notModifiable table => "table " ++ table ++ " may not be modified"
  | notIndexable table => "table " ++ table ++ " may not be indexed"
  | changingIndex => "non-deterministic functions prohibited in index expressions"
  | notFunction name => "'" ++ name ++ "' is not a function"
  | duplicateColumn column => "duplicate column name: " ++ column
  | addedNotNull => "Cannot add a NOT NULL column with default value NULL"
  | dropsKey column => "cannot drop PRIMARY KEY column: \"" ++ column ++ "\""
  | dropsLast column => "cannot drop column \"" ++ column ++ "\": no other columns exist"
  | indexNeeds index column =>
    "error in index " ++ index ++ " after drop column: no such column: " ++ column
  | noSuchIndex index => "no such index: " ++ index
  | indexKept => "index associated with UNIQUE or PRIMARY KEY constraint cannot be dropped"
  | notNull table column => "NOT NULL constraint failed: " ++ table ++ "." ++ column
  | check condition => "CHECK constraint failed: " ++ condition
  | unique table columns =>
    "UNIQUE constraint failed: " ++ commaList (columns.map fun c => table ++ "." ++ c)
  | mismatch => "datatype mismatch"
  | patternTooLong => "LIKE or GLOB pattern too complex"
  | insideTransaction => "cannot VACUUM from within a transaction"
  | notADatabase => "file is not a database"
  | code n text => text.getD s!"Error code {n}: {describeCode n}"

/-- The fault is in the words or names of a statement, not in what it does. -/
def isAboutText : Fault → Bool
  | unexpected _ | unrecognized _ | incomplete | blank | tooManyMarks | tooDeep => true
  | tooManyColumns _ | changingIndex | notFunction _ => true
  | noSuchTable _ | noSuchColumn _ | tableLacks _ _ | wrongValueCount _ _ => true
  | wrongRowWidth _ _ _ | tableExists _ | indexExists _ | namedLikeTable _ | namedLikeIndex _ => true
  | nameReserved _ | notModifiable _ | notIndexable _ | duplicateColumn _ | noSuchIndex _ => true
  | _ => false

/-- The database or a table of it is in use by another; trying again later may help. -/
def isBusy : Fault → Bool
  | code n _ => n % 256 = 5 || n % 256 = 6
  | _ => false

end Fault
end Daybook.Sql
