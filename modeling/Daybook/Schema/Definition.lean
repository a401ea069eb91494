import Daybook.Schema.Basic

/-!
# The statements that make tables

Statements for the table and the indexes of a schema, and for single columns of a table that
exists.

* `Schema.createTable`, `Schema.createIndexes`;
* `Schema.dropIndexes`, `Schema.addColumn`, `Schema.dropColumn`.
-/

namespace Daybook.Schema

open Sql

/-- The statement that makes the table, unless there is one of its name. -/
def createTable (s : Schema) : Statement := .createTable true s.table (s.columns.map Column.toDef)

/-- The name of the index of a column. -/
def indexName (table column : String) : String := "idx_" ++ table ++ "_" ++ column

/-- A column that gets an index of its own; a primary key has one already. -/
def needsIndex (c : Column) : Bool := (c.indexed || c.unique) && !c.primaryKey

/-- The statement that makes the index of a column, unless there is one of its name. -/
def createIndex (s : Schema) (c : Column) : Statement :=
  .createIndex c.unique true (indexName s.table c.name) s.table [c.name]

/-- The statements that make the indexes, in the order of the columns. -/
def createIndexes (s : Schema) : List Statement := (s.columns.filter needsIndex).map s.createIndex

/-- Indexes whose names begin so belong to the database. -/
def ownIndexStart : String := "sqlite_autoindex"

/-- The statements that remove indexes, but not those that belong to the database. -/
def dropIndexes (names : List String) : List Statement :=
  (names.filter fun n => !ownIndexStart.toList.isPrefixOf n.toList).map (.dropIndex true)

/-- The statement that adds a column to the table; a primary key cannot be added. -/
def addColumn (s : Schema) (c : Column) : Except Failure Statement :=
  if c.primaryKey then .error (.unsupportedMigration s.table c.name)
  else .ok (.addColumn s.table c.toDef)

/-- The statement that removes a column from a table. -/
def dropColumn (table column : String) : Statement := .dropColumn table column

end Daybook.Schema
