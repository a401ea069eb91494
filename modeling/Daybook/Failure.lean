import Daybook.Sql.Fault
import Daybook.Text.Quoted

/-!
# Failures

Why an operation of the library fails, as causes, with the text, the number and the name of each.

* `Failure`, `InputFault`, `SchemaFault`, `RemoteFault`;
* `Failure.message?`: the text of a failure; what a reader of JSON or the file system says is not
  part of the library, so those two kinds have none;
* `Failure.code`: the number of a kind; `Failure.isRetryable`.
-/

namespace Daybook

/-! ## Causes -/

/-- Why an input is refused. -/
inductive InputFault where
  /-- A filter names a field that is no identifier. -/
  | fieldName (field : String)
  /-- A filter is no object. -/
  | filterShape (value : Json)
  /-- An operator of a filter needs a list. -/
  | needsList (operator : String) (value : Json)
  /-- An operator of a filter needs a text. -/
  | needsText (operator : String) (value : Json)
  | unknownOperator (operator : String)
  /-- Records cannot be sorted by a column that is not declared. -/
  | undeclaredSort (entity column : String)
  /-- The text for a byte string is no base64. -/
  | bytes (fault : Base64.Fault)
  /-- A backup document is no object. -/
  | documentShape (value : Json)
  /-- A table of a backup document has a record that is no object. -/
  | recordShape (table : String) (value : Json)
  /-- A path of settings has an empty part. -/
  | settingsPath (path : String)
  deriving DecidableEq

/-- Why a schema is refused. -/
inductive SchemaFault where
  | emptyEntity
  | tableName (table : String)
  | noColumns (entity : String)
  | columnName (column entity : String)
  | declaredTwice (column entity : String)
  | defaultNotAllowed (value entity column : String) (allowed : List String)
  | severalKeys (entity : String) (keys : List String)
  | noKey (entity : String)
  deriving DecidableEq

/-- Why a remote store refuses a request. -/
inductive RemoteFault where
  | noToken
  | noFile (id : String)
  | noBackup
  deriving DecidableEq

/-- Why an operation fails. -/
inductive Failure where
  | schemaNotFound (entity : String)
  | invalidSchema (fault : SchemaFault)
  | missingArgument (name : String)
  /-- A key column cannot be added to a table that exists. -/
  | unsupportedMigration (table column : String)
  | storage (fault : Sql.Fault)
  /-- A date of a record cannot be read, or is missing. -/
  | dateNormalization (table column : String) (key value : Option Json)
  | remoteIo (fault : RemoteFault)
  | invalidInput (fault : InputFault)
  | serialization
  | io
  /-- No storage mode has the name. -/
  | unknownMode (name : String)
  deriving DecidableEq

/-! ## Texts -/

/-- The kind of a value, with its article. -/
def Json.kindName : Json → String
  | .null => "null"
  | .bool _ => "a boolean"
  | .int _ | .real _ => "a number"
  | .str _ => "a string"
  | .arr _ => "an array"
  | .obj _ => "an object"

/-- The text of a refused input. -/
def InputFault.message : InputFault → String
  | .fieldName field => "Invalid field name '" ++ field ++ "' in filter"
  | .filterShape value => "Filter must be a JSON object, got " ++ value.compact
  | .needsList operator value => "'" ++ operator ++ "' requires an array, got " ++ value.compact
  | .needsText operator value =>
    "'" ++ operator ++ "' requires a string pattern, got " ++ value.compact
  | .unknownOperator operator => "Unknown filter operator '" ++ operator ++ "'"
  | .undeclaredSort entity column =>
    "Cannot sort " ++ entity ++ " by undeclared column '" ++ column ++ "'"
  | .bytes fault => "invalid base64 blob: " ++ fault.message
  | .documentShape value => "Backup document must be a JSON object, got " ++ value.kindName
  | .recordShape table value =>
    "Table '" ++ table ++ "' contains a non-object record: " ++ value.compact
  | .settingsPath path => "Invalid settings path '" ++ path ++ "'"

/-- The text of a refused schema. -/
def SchemaFault.message : SchemaFault → String
  | .emptyEntity => "entity type cannot be empty"
  | .tableName table => "table name '" ++ table ++ "' is not a valid identifier"
  | .noColumns entity => entity ++ " declares no columns"
  | .columnName column entity =>
    "column name '" ++ column ++ "' in " ++ entity ++ " is not a valid identifier"
  | .declaredTwice column entity => "column '" ++ column ++ "' declared twice in " ++ entity
  | .defaultNotAllowed value entity column allowed =>
    "default '" ++ value ++ "' of " ++ entity ++ "." ++ column ++ " is not one of " ++
      Text.quoteList allowed
  | .severalKeys entity keys =>
    entity ++ " declares more than one primary key: " ++ ", ".intercalate keys
  | .noKey entity => entity ++ " has no primary key column"

/-- The text of a refused request. -/
def RemoteFault.message : RemoteFault → String
  | .noToken => "no access token set"
  | .noFile id => "file " ++ id ++ " not found"
  | .noBackup => "no backup found"

namespace Failure

/-- The text of a failure, if it has one of its own. -/
def message? : Failure → Option String
  | .schemaNotFound entity => some ("Schema not found for entity: " ++ entity)
  | .invalidSchema fault => some ("Invalid schema: " ++ fault.message)
  | .missingArgument name => some ("Missing argument: " ++ name ++ " is required")
  | .unsupportedMigration table column =>
    some ("Unsupported migration: cannot add primary key column " ++ table ++ "." ++ column ++
      " to an existing table")
  | .storage fault => some ("Storage error: " ++ fault.message)
  | .dateNormalization table column key value =>
    some ("Date normalization error: " ++ table ++ "." ++ column ++ " on record " ++
      (key.map Json.compact).getD "?" ++ ": " ++ (value.map Json.compact).getD "")
  | .remoteIo fault => some ("Remote I/O error: " ++ fault.message)
  | .invalidInput fault => some ("Invalid input: " ++ fault.message)
  | .serialization => none
  | .io => none
  | .unknownMode name =>
    some ("Configuration error: Unknown storage mode '" ++ name ++
      "'. Valid modes: local, cloud-safe")

/-- The number of a kind of failure. -/
def code : Failure → Nat
  | .schemaNotFound _ => 10
  | .invalidSchema _ => 11
  | .missingArgument _ => 12
  | .unsupportedMigration _ _ => 13
  | .storage _ => 20
  | .dateNormalization _ _ _ _ => 30
  | .remoteIo _ => 40
  | .invalidInput _ => 2
  | .serialization | .io | .unknownMode _ => 1

/-- The same operation may succeed later. -/
def isRetryable : Failure → Bool
  | .remoteIo _ => true
  | .storage fault => fault.isBusy
  | _ => false

end Failure
end Daybook
