import Daybook.Schema.Column

/-!
# Schemas

A schema names an entity and its table, and declares the columns of the table.

* `Schema`, `Schema.fault?`: the first rule that a schema breaks;
* `Schema.make`: a schema that breaks none;
* `Schema.versionColumn`, `Schema.createdColumn`, `Schema.updatedColumn`: columns that are kept up
  to date by the library where a schema declares them.
-/

namespace Daybook

/-- The table of an entity, with its columns. -/
structure Schema where
  entity : String
  table : String
  columns : List Column
  deriving DecidableEq, Inhabited

namespace Schema

/-- The column that counts the changes of a row. -/
def versionColumn : String := "_v"

/-- The column that says when a row was made. -/
def createdColumn : String := "createdAt"

/-- The column that says when a row was last changed. -/
def updatedColumn : String := "updatedAt"

/-- The declared column of a name. -/
def column? (s : Schema) (name : String) : Option Column := s.columns.find? fun c => c.name = name

/-- A column of the name is declared. -/
def hasColumn (s : Schema) (name : String) : Bool := (s.column? name).isSome

/-- The primary key. -/
def key? (s : Schema) : Option Column := s.columns.find? Column.primaryKey

/-- The names of the columns. -/
def columnNames (s : Schema) : List String := s.columns.map Column.name

/-- Changes of rows are counted. -/
def tracksVersion (s : Schema) : Bool := s.hasColumn versionColumn

/-- The time at which rows are made is kept. -/
def tracksCreated (s : Schema) : Bool := s.hasColumn createdColumn

/-- The time at which rows are changed is kept. -/
def tracksUpdated (s : Schema) : Bool := s.hasColumn updatedColumn

/-- The columns that hold dates. -/
def dateColumns (s : Schema) : List Column := s.columns.filter Column.isDate

/-! ## Rules -/

/-- The rule that a column breaks, after the columns of the given names. -/
def columnFault? (entity : String) (before : List String) (c : Column) : Option SchemaFault :=
  if !isIdentifier c.name then some (.columnName c.name entity)
  else if before.contains c.name then some (.declaredTwice c.name entity)
  else
    match c.default, c.allowed with
    | some value, some allowed =>
      if allowed.contains value then none
      else some (.defaultNotAllowed value entity c.name allowed)
    | _, _ => none

/-- The first rule that a list of columns breaks, after the columns of the given names. -/
def columnsFault? (entity : String) (before : List String) : List Column → Option SchemaFault
  | [] => none
  | c :: rest => (columnFault? entity before c).or (columnsFault? entity (c.name :: before) rest)

/-- The first rule that a schema breaks. -/
def fault? (s : Schema) : Option SchemaFault :=
  if s.entity.isEmpty then some .emptyEntity
  else if !isIdentifier s.table then some (.tableName s.table)
  else if s.columns.isEmpty then some (.noColumns s.entity)
  else
    match columnsFault? s.entity [] s.columns with
    | some fault => some fault
    | none =>
      let keys := (s.columns.filter Column.primaryKey).map Column.name
      if 1 < keys.length then some (.severalKeys s.entity keys) else none

/-- The schema, if it breaks no rule. -/
def validate (s : Schema) : Except Failure Schema :=
  match s.fault? with
  | some fault => .error (.invalidSchema fault)
  | none => .ok s

/-- A schema that breaks no rule. -/
def make (entity table : String) (columns : List Column) : Except Failure Schema :=
  validate ⟨entity, table, columns⟩

/-- The primary key, which an operation needs. -/
def requiredKey (s : Schema) : Except Failure Column :=
  match s.key? with
  | some c => .ok c
  | none => .error (.invalidSchema (.noKey s.entity))

end Schema
end Daybook
