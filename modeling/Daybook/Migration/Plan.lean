import Daybook.Schema.Definition
import Daybook.Sql.LiveColumn

/-!
# Plans

A plan is the list of statements that bring a table in line with its schema. It is worked out from
the columns that the table has: missing columns are added, and where none is missing, columns that
are not declared are removed. So one pass adds or removes, never both.

* `Report`;
* `Report.plan`: the plan for a table;
* `Report.isNoop`: nothing has to be done.
-/

namespace Daybook.Migration

open Sql (LiveColumn)

/-- What is done to a table. -/
structure Report where
  table : String
  /-- The table did not exist. -/
  created : Bool := false
  added : List String := []
  removed : List String := []
  statements : List Sql.Statement := []
  deriving Inhabited

namespace Report

/-- Nothing has to be done. -/
def isNoop (r : Report) : Bool := r.statements.isEmpty

/-- The plan for a table that does not exist. -/
def create (s : Schema) : Report where
  table := s.table
  created := true
  statements := s.createTable :: s.createIndexes

/-- The declared columns that a table lacks. -/
def missing (s : Schema) (live : List LiveColumn) : List Column :=
  s.columns.filter fun c => !(live.map LiveColumn.name).contains c.name

/-- The columns of a table that are not declared. -/
def undeclared (s : Schema) (live : List LiveColumn) : List String :=
  (live.map LiveColumn.name).filter fun n => !s.columnNames.contains n

/-- The plan for a table that has the given columns and indexes; without columns it does not
exist. Indexes are removed first, since a column with an index cannot be, and made again last. -/
def plan (s : Schema) (live : List LiveColumn) (indexes : List String) : Except Failure Report :=
  if live.isEmpty then .ok (create s)
  else
    let missing := missing s live
    let undeclared := undeclared s live
    if missing.isEmpty && undeclared.isEmpty then .ok { table := s.table }
    else
      (missing.mapM s.addColumn).map fun additions =>
        if missing.isEmpty then
          { table := s.table
            removed := undeclared
            statements := Schema.dropIndexes indexes ++
              undeclared.map (Schema.dropColumn s.table) ++ s.createIndexes }
        else
          { table := s.table
            added := missing.map Column.name
            statements := Schema.dropIndexes indexes ++ additions ++ s.createIndexes }

end Report
end Daybook.Migration
