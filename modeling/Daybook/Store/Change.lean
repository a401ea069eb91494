import Daybook.Moment
import Daybook.Store.Find

/-!
# Changing and removing records

A patch sets the declared columns that it names. The count of changes goes up by one and the time
of the last change is set, whatever the patch says of them. A filter that asks for every row is
refused; only `deleteAll` removes all records.

* `assignments`: what a patch changes;
* `updateOne`, `updateById`, `updateMany`;
* `deleteOne`, `deleteById`, `deleteMany`, `deleteAll`.
-/

namespace Daybook.Store

open Sql

/-! ## Patches -/

/-- The library sets the column itself. -/
def isKept (c : Column) : Bool :=
  c.name = Schema.versionColumn || c.name = Schema.updatedColumn

/-- The assignments of the declared columns that a patch names. -/
def patchAssignments (patch : Record) : List Column → Except Failure (List Assignment)
  | [] => .ok []
  | c :: rest =>
    match if isKept c then none else patch.get? c.name with
    | none => patchAssignments patch rest
    | some v => do
      let cell ← c.cell v
      let assignments ← patchAssignments patch rest
      pure (.set c.name (.bound cell) :: assignments)

/-- The assignments of the columns that the library sets itself. -/
def keptAssignments (s : Schema) (now : String) : List Assignment :=
  (if s.tracksUpdated then [.set Schema.updatedColumn (.bound (.text now))] else []) ++
    if s.tracksVersion then [.increment Schema.versionColumn] else []

/-- What a patch changes; it has to change something. -/
def assignments (s : Schema) (m : Moment) (patch : Record) : Except Failure (List Assignment) :=
  if patch.isEmpty then .error (.missingArgument "patch")
  else
    match patchAssignments patch s.columns with
    | .error e => .error e
    | .ok [] => .error (.missingArgument "patch")
    | .ok own => .ok (own ++ keptAssignments s m.now)

/-- The conditions of a filter that does not ask for every row. -/
def requiredConditions (f : Filter) : Except Failure (List Condition) :=
  if f.isEmpty then .error (.missingArgument "filter") else f.compile

/-- The condition that the key has the text of an identifier. -/
def idCondition (key : Column) (id : String) : Condition :=
  .compare key.name .eq (.bound (.text id))

/-! ## Updates -/

/-- Changes the first record that a filter asks for. -/
def updateOne (s : Schema) (m : Moment) (f : Filter) (patch : Record) : Program Nat := do
  let conditions ← .ofExcept (requiredConditions f)
  let set ← .ofExcept (assignments s m patch)
  change (.update s.table set (.first conditions))

/-- Changes the record of an identifier. -/
def updateById (s : Schema) (m : Moment) (id : String) (patch : Record) : Program Nat :=
  if id.isEmpty then .fail (.missingArgument "id")
  else do
    let key ← .ofExcept s.requiredKey
    let set ← .ofExcept (assignments s m patch)
    change (.update s.table set (.every [idCondition key id]))

/-- Changes all records that a filter asks for. -/
def updateMany (s : Schema) (m : Moment) (f : Filter) (patch : Record) : Program Nat := do
  let conditions ← .ofExcept (requiredConditions f)
  let set ← .ofExcept (assignments s m patch)
  change (.update s.table set (.every conditions))

/-! ## Deletions -/

/-- Removes the first record that a filter asks for. -/
def deleteOne (s : Schema) (f : Filter) : Program Nat := do
  let conditions ← .ofExcept (requiredConditions f)
  change (.delete s.table (.first conditions))

/-- Removes the record of an identifier. -/
def deleteById (s : Schema) (id : String) : Program Nat :=
  if id.isEmpty then .fail (.missingArgument "id")
  else do
    let key ← .ofExcept s.requiredKey
    change (.delete s.table (.first [idCondition key id]))

/-- Removes all records that a filter asks for. -/
def deleteMany (s : Schema) (f : Filter) : Program Nat := do
  let conditions ← .ofExcept (requiredConditions f)
  change (.delete s.table (.every conditions))

/-- Removes all records. -/
def deleteAll (s : Schema) : Program Nat := change (.delete s.table (.every []))

end Daybook.Store
