import Daybook.Engine.Program
import Daybook.Migration.Plan
import Daybook.Schema.Registry

/-!
# Migrations

Tables are looked at, and plans carried out, each in one transaction.

* `reconcile`: carries out the plan for a table with known columns;
* `migrate`: looks at the table first;
* `ensureTable`: only makes what is missing;
* `migrateAll`: every schema of a registry; one that fails does not stop the others.
-/

namespace Daybook.Migration

open Sql (LiveColumn)

/-- Carries out the statements of a plan, all or none. -/
def apply (r : Report) : Program Report :=
  if r.isNoop then pure r
  else do
    let _ ← Program.ask (.transaction (r.statements.map .statement))
    pure r

/-- Carries out the plan for a table that has the given columns. -/
def reconcile (s : Schema) (live : List LiveColumn) : Program Report := do
  let indexes : List String ← if live.isEmpty then pure [] else Program.ask (.indexes s.table)
  let r ← .ofExcept (Report.plan s live indexes)
  apply r

/-- Brings the table in line with its schema. -/
def migrate (s : Schema) : Program Report := do
  let found : Bool ← Program.ask (.hasTable s.table)
  if found then
    let live : List LiveColumn ← Program.ask (.columns s.table)
    reconcile s live
  else reconcile s []

/-- Makes the table and its indexes where they are missing. -/
def ensureTable (s : Schema) : Program Report := do
  let found : Bool ← Program.ask (.hasTable s.table)
  apply { Report.create s with created := !found }

/-- What came of the migration of a registry. -/
structure Summary where
  reports : List Report := []
  /-- The entities whose migration failed. -/
  failures : List (String × Failure) := []

namespace Summary

/-- No migration failed. -/
def isSuccess (s : Summary) : Bool := s.failures.isEmpty

/-- The summary with the result for one more entity in front. -/
def add (entity : String) (result : Except Failure Report) (s : Summary) : Summary :=
  match result with
  | .ok r => { s with reports := r :: s.reports }
  | .error e => { s with failures := (entity, e) :: s.failures }

end Summary

/-- Migrates schemas one after the other. -/
def migrateEach (one : Schema → Program Report) : List Schema → Program Summary
  | [] => pure {}
  | s :: rest => do
    let result ← (one s).attempt
    let summary ← migrateEach one rest
    pure (summary.add s.entity result)

/-- Migrates every schema of a registry, or only makes what is missing. -/
def migrateAll (r : Schema.Registry) (checkColumns : Bool) : Program Summary :=
  migrateEach (if checkColumns then migrate else ensureTable) r.schemas

end Daybook.Migration
