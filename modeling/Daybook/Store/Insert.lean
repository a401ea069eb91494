import Daybook.Moment
import Daybook.Store.Find

/-!
# Adding records

Only declared columns are written. What the library keeps up to date is filled in: a missing key,
the count of changes, and the times at which a record was made and changed.

* `withDefaults`: a record with what is filled in;
* `insertOne`: adds a record, and answers it as it is stored;
* `insertMany`, `upsertMany`: add many records, all or none;
* `flatten_chunks`: the parts of a list make up the list.
-/

namespace Daybook.Store

open Sql

/-! ## What is filled in -/

/-- The value says nothing as a key. -/
def isMissingKey : Option Json → Bool
  | none | some .null => true
  | some (.str s) => s.isEmpty
  | some _ => false

/-- The record with a key: a fresh identifier, but none where the database numbers the rows. -/
def withKey (s : Schema) (fresh : String) (record : Record) : Record :=
  match s.key? with
  | none => record
  | some key =>
    if isMissingKey (record.get? key.name) then
      match key.type with
      | .integer => record.erase key.name
      | _ => record.insert key.name (.str fresh)
    else record

/-- The record with a value for a declared column, unless it has one. -/
def withMissing (s : Schema) (column : String) (value : Json) (record : Record) : Record :=
  if s.hasColumn column && !record.contains column then record.insert column value else record

/-- The record with what is filled in. -/
def withDefaults (s : Schema) (now fresh : String) (record : Record) : Record :=
  withMissing s Schema.updatedColumn (.str now)
    (withMissing s Schema.createdColumn (.str now)
      (withMissing s Schema.versionColumn (.int 0) (withKey s fresh record)))

/-! ## One record -/

/-- The declared columns that one of the records has, in the order of the schema. -/
def presentColumns (s : Schema) (records : List Record) : List Column :=
  s.columns.filter fun c => records.any fun r => r.contains c.name

/-- The values of a record for some columns, null where it has none. -/
def rowOf (columns : List Column) (record : Record) : Except Failure (List Operand) :=
  columns.mapM fun c =>
    match record.get? c.name with
    | some v => (c.cell v).map .bound
    | none => .ok (.bound .null)

/-- Adds a record and answers it as it is stored: read back by its key, if there is one. -/
def insertOne (s : Schema) (m : Moment) (record : Record) : Program Record :=
  if record.isEmpty then .fail (.missingArgument "record")
  else do
    let record := withDefaults s m.now (m.freshId 0) record
    let columns := presentColumns s [record]
    if columns.isEmpty then .fail (.missingArgument "declared column")
    else
      let row ← .ofExcept (rowOf columns record)
      let number : Int ← .ask (.insert (.statement
        (.insert false s.table (columns.map Column.name) [row])))
      match s.key? with
      | none => pure record
      | some key =>
        let found ← findByKey s ((record.get? key.name).getD (.int number))
        pure (found.getD record)

/-! ## Many records -/

/-- The list in parts of `size` items, the last part perhaps shorter. -/
def chunks {α : Type} (size : Nat) (xs : List α) : List (List α) :=
  if xs.isEmpty || size = 0 then []
  else xs.take size :: chunks size (xs.drop size)
termination_by xs.length
decreasing_by
  rename_i h
  simp only [Bool.or_eq_true, List.isEmpty_iff, decide_eq_true_eq, not_or] at h
  have := List.length_pos_iff.2 h.1
  simp only [List.length_drop]
  omega

/-- The parts of a list make up the list. -/
theorem flatten_chunks {α : Type} {size : Nat} (h : size ≠ 0) (xs : List α) :
    (chunks size xs).flatten = xs := by
  fun_induction chunks size xs with
  | case1 xs hx =>
    simp only [Bool.or_eq_true, List.isEmpty_iff, decide_eq_true_eq] at hx
    simp [hx.resolve_right h]
  | case2 xs hx ih => simp [ih]

/-- No part is empty or longer than the size. -/
theorem length_of_mem_chunks {α : Type} {size : Nat} {xs part : List α}
    (h : part ∈ chunks size xs) : part ≠ [] ∧ part.length ≤ size := by
  fun_induction chunks size xs with
  | case1 xs hx => simp at h
  | case2 xs hx ih =>
    simp only [Bool.or_eq_true, List.isEmpty_iff, decide_eq_true_eq, not_or] at hx
    rcases List.mem_cons.1 h with rfl | h
    · refine ⟨?_, List.length_take_le _ _⟩
      simp only [ne_eq, List.take_eq_nil_iff, not_or]
      exact ⟨hx.2, hx.1⟩
    · exact ih h

/-- The most values that one statement binds. -/
def maxBound : Nat := 999

/-- How many rows of a width one statement has. -/
def rowsPerStatement (width : Nat) : Nat := max 1 (maxBound / width)

/-- The records with what is filled in, each with an identifier of its own. -/
def allWithDefaults (s : Schema) (m : Moment) (records : List Record) : List Record :=
  records.zipIdx.map fun (r, i) => withDefaults s m.now (m.freshId i) r

/-- The statements that write records: rows over the declared columns that any of them has. -/
def writeStatements (s : Schema) (replace : Bool) (records : List Record) :
    Except Failure (List Statement) :=
  let columns := presentColumns s records
  if columns.isEmpty then .error (.missingArgument "declared column")
  else
    (records.mapM (rowOf columns)).map fun rows =>
      (chunks (rowsPerStatement columns.length) rows).map fun part =>
        .insert replace s.table (columns.map Column.name) part

/-- Writes records, all or none; answers how many there are. -/
def writeMany (s : Schema) (m : Moment) (replace : Bool) (records : List Record) : Program Nat :=
  if records.isEmpty then .fail (.missingArgument "records")
  else do
    let statements ← .ofExcept (writeStatements s replace (allWithDefaults s m records))
    let _ ← Program.ask (.transaction (statements.map .statement))
    pure records.length

/-- Adds records, all or none. -/
def insertMany (s : Schema) (m : Moment) (records : List Record) : Program Nat :=
  writeMany s m false records

/-- Adds records, all or none; they replace the rows with which they cannot stand together. -/
def upsertMany (s : Schema) (m : Moment) (records : List Record) : Program Nat :=
  writeMany s m true records

end Daybook.Store
