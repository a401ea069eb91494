import Daybook.Proofs.Engine.Sent
import Daybook.Proofs.Store.Batch
import Daybook.Proofs.Store.Texts
import Daybook.Proofs.Store.Upsert

/-!
# Batches in statements

A batch is sent to an engine in the statements of one transaction. In their order these bind the
values of the records in the order of the batch, so that no record is lost, doubled or moved; no
statement is without rows, and none binds more values than it may, as far as one row is not too
wide itself. A storage takes all rows of the batch or none (**`writeMany_whole`**).

* `Binds`, **`exists_binds`**: what the statements of a batch bind;
* `sent_writeMany`: what is sent;
* `Grows`, **`grows_insertMany`**: what a batch adds to a table.
-/

namespace Daybook.Store

open Sql Sql.Table

variable {s : Schema} {replace : Bool} {batch records : List Record} {columns : List Column}
  {m : Moment}

/-! ## Rows in statements -/

/-- Rows that are as many as a statement has are not too many. -/
theorem rowsPerStatement_mul_le {width : Nat} (h : width ≤ maxBound) :
    rowsPerStatement width * width ≤ maxBound := by
  rcases Nat.le_or_le 1 (maxBound / width) with hle | hle
  · rw [rowsPerStatement, Nat.max_eq_right hle]
    exact Nat.div_mul_le_self maxBound width
  · -- not even two rows fit, so there is one
    rw [rowsPerStatement, Nat.max_eq_left hle, Nat.one_mul]
    exact h

/-- A statement writes rows of values and binds the values one after the other. -/
structure Binds (s : Schema) (replace : Bool) (columns : List Column) (statement : Statement)
    (part : List (List Cell)) : Prop where
  writes : statement =
    .insert replace s.table (columns.map Column.name) (part.map (·.map .bound))
  rows : part ≠ []
  width : ∀ values ∈ part, values.length = columns.length
  params : statement.params = part.flatten
  length_params : statement.params.length = part.length * columns.length
  marks : statement.text.toList.count '?' = part.length * columns.length
  bounded : columns.length ≤ maxBound → statement.params.length ≤ maxBound

/-- A part that is not empty or too long is bound by its statement. -/
theorem binds_insert (hs : s.KeepsRules) (hcolumns : ∀ c ∈ columns, c ∈ s.columns)
    {part : List (List Cell)} (hrows : part ≠ [])
    (hlength : part.length ≤ rowsPerStatement columns.length)
    (hwidth : ∀ values ∈ part, values.length = columns.length) :
    Binds s replace columns (.insert replace s.table (columns.map Column.name)
      (part.map (·.map .bound))) part := by
  have hparams := params_insert replace s.table (columns.map Column.name) part
  have hcount := (congrArg List.length hparams).trans (length_flatten_of_width hwidth)
  refine ⟨rfl, hrows, hwidth, hparams, hcount, ?_, fun hbound => ?_⟩
  · rw [← hcount]
    refine isMarked_insertion hs hcolumns replace fun row hrow => ?_
    obtain ⟨values, -, rfl⟩ := List.mem_map.1 hrow
    exact allBound_map values
  · rw [hcount]
    exact (Nat.mul_le_mul_right _ hlength).trans (rowsPerStatement_mul_le hbound)

/-- **What the statements of a batch bind**: the values of its records, in their order. -/
theorem exists_binds (hs : s.KeepsRules) {statements : List Statement}
    (h : writeStatements s replace batch = .ok statements) :
    ∃ parts, List.Forall₂ (Binds s replace (presentColumns s batch)) statements parts ∧
      List.Forall₂ (Values (presentColumns s batch)) batch parts.flatten := by
  obtain ⟨-, rows, hrows, rfl⟩ := writeStatements_eq_ok_iff.1 h
  have hflatten := flatten_chunks (rowsPerStatement_ne_zero (presentColumns s batch).length) rows
  refine ⟨_, ?_, hflatten.symm ▸ hrows⟩
  rw [List.forall₂_map_left_iff, List.forall₂_same]
  intro part hpart
  obtain ⟨hlength, hwidth⟩ := fits_of_mem_chunks hrows hpart
  exact binds_insert hs subset_presentColumns (length_of_mem_chunks hpart).1 hlength hwidth

/-- When there are statements for a batch: some declared column is present, and the values of all
records for these columns are such as can be stored. -/
theorem exists_writeStatements_iff :
    (∃ statements, writeStatements s replace batch = .ok statements) ↔
      presentColumns s batch ≠ [] ∧
      ∀ record ∈ batch, ∀ c ∈ presentColumns s batch, ∃ v, valueOf c record = .ok v := by
  have hrows : (∃ rows, List.Forall₂ (Values (presentColumns s batch)) batch rows) ↔
      ∀ record ∈ batch, ∀ c ∈ presentColumns s batch, ∃ v, valueOf c record = .ok v := by
    rw [Result.exists_forall₂_iff]
    exact forall₂_congr fun record _ => Result.exists_forall₂_iff
  rw [← hrows]
  constructor
  · rintro ⟨statements, h⟩
    obtain ⟨hcolumns, rows, hrows, -⟩ := writeStatements_eq_ok_iff.1 h
    exact ⟨hcolumns, rows, hrows⟩
  · rintro ⟨hcolumns, rows, hrows⟩
    exact ⟨_, writeStatements_eq_ok_iff.2 ⟨hcolumns, rows, hrows, rfl⟩⟩

/-- **What is sent for a batch**: its statements, in one transaction. -/
theorem sent_writeMany {statements : List Statement} (hne : records ≠ [])
    (h : writeStatements s replace (allWithDefaults s m records) = .ok statements) {σ : Type}
    (engine : Engine σ) (st : σ) :
    (writeMany s m replace records).sent engine st = statements.map .statement := by
  have hempty : records.isEmpty = false := by simpa using hne
  rw [writeMany, hempty, if_neg Bool.false_ne_true, h]
  show statements.map Request.statement ++ _ = _
  cases (engine.reply (.transaction (statements.map .statement)) st).1 <;>
    exact List.append_nil _

/-! ## Rows in tables -/

theorem length_allWithDefaults (s : Schema) (m : Moment) (records : List Record) :
    (allWithDefaults s m records).length = records.length := by
  rw [allWithDefaults, List.length_map, List.length_zipIdx]

/-- A table becomes another by a batch: its rows stay, and there is a new one for each record. -/
structure Grows (s : Schema) (batch : List Record) (t t' : Table) (rows : List Row) : Prop where
  alike : t.Alike t'
  perm : t'.rows.Perm (t.rows ++ rows)
  made : List.Forall₂ (fun record r => ∃ values, Values (presentColumns s batch) record values ∧
    t.MadeOf false (positions t (presentColumns s batch)) values r) batch rows
  stored : t.MadeFor s → List.Forall₂ (StoredAs s t false batch) batch rows

/-- A table to which a batch is added exists. -/
theorem exists_table?_of_writeMany {st st' : Storage} {n : Nat}
    (h : (writeMany s m replace records).run Storage.engine st = (.ok n, st')) :
    ∃ t, st.table? s.table = some t := by
  obtain ⟨hne, -, statements, c, c', os, hstatements, hc, hrun, -⟩ := writeMany_run_eq_ok h
  obtain ⟨-, rows, hrows, rfl⟩ := writeStatements_eq_ok_iff.1 hstatements
  have hflatten := flatten_chunks
    (rowsPerStatement_ne_zero (presentColumns s (allWithDefaults s m records)).length) rows
  rw [Storage.table?_of_opened hc]
  -- the first statement has found the table
  cases hparts : chunks (rowsPerStatement
      (presentColumns s (allWithDefaults s m records)).length) rows with
  | nil =>
    rw [hparts, List.flatten_nil] at hflatten
    have hlength := hrows.length_eq
    rw [length_allWithDefaults, ← hflatten, List.length_nil, List.length_eq_zero_iff] at hlength
    exact absurd hlength hne
  | cons part rest =>
    rw [hparts, List.map_cons] at hrun
    obtain ⟨d, o, os', hfirst, -⟩ := Database.runAll?_cons hrun
    obtain ⟨⟨d', k, last⟩, hinsert, -⟩ := Result.map_eq_ok_iff.1 (Database.run?_eq_ok hfirst).2
    obtain ⟨t, -, -, ht, -⟩ := Database.insert?_eq_ok hinsert
    exact ⟨t, ht⟩

/-- **What a batch adds to a table.** -/
theorem grows_insertMany {st st' : Storage} {n : Nat}
    (h : (insertMany s m records).run Storage.engine st = (.ok n, st')) :
    n = records.length ∧ ∃ t t' rows, st.table? s.table = some t ∧ st'.table? s.table = some t' ∧
      Grows s (allWithDefaults s m records) t t' rows ∧ rows.length = n ∧
      ∀ name, ¬ sameName s.table name → st'.table? name = st.table? name := by
  obtain ⟨-, hn, -⟩ := writeMany_run_eq_ok h
  obtain ⟨t, htable⟩ := exists_table?_of_writeMany h
  obtain ⟨values, t', k, hvalues, hinsert, htable', hothers⟩ := writeMany_eq_ok htable h
  obtain ⟨rows, hperm, hmade⟩ := perm_insertRows? hinsert
  have hrows : List.Forall₂ (fun record r => ∃ values,
      Values (presentColumns s (allWithDefaults s m records)) record values ∧
      t.MadeOf false (positions t (presentColumns s (allWithDefaults s m records))) values r)
      (allWithDefaults s m records) rows :=
    Result.forall₂_trans hvalues hmade fun _ values _ hv hr => ⟨values, hv, hr⟩
  refine ⟨hn, t, t', rows, htable, htable', ⟨alike_insertRows? hinsert, hperm, hrows, fun hfor =>
    hrows.imp fun _ _ ⟨_, hv, hr⟩ => .of_madeOf hfor hv hr⟩, ?_, hothers⟩
  rw [← hrows.length_eq, length_allWithDefaults, hn]

/-- **A batch loses, doubles and moves no record, and is written whole or not at all.** There are
statements for it if some declared column is present and its values can be stored; they bind the
records in their order and are all that is sent. A storage has the old rows and one for each record
afterwards, or what it had. -/
theorem writeMany_whole (hs : s.fault? = none) (hne : records ≠ []) (m : Moment)
    (replace : Bool) :
    let batch := allWithDefaults s m records
    let columns := presentColumns s batch
    ((∃ statements, writeStatements s replace batch = .ok statements) ↔
      columns ≠ [] ∧ ∀ record ∈ batch, ∀ c ∈ columns, ∃ v, valueOf c record = .ok v) ∧
    (∀ statements, writeStatements s replace batch = .ok statements →
      (∃ parts, List.Forall₂ (Binds s replace columns) statements parts ∧
        List.Forall₂ (Values columns) batch parts.flatten) ∧
      ∀ (σ : Type) (engine : Engine σ) (st : σ),
        (writeMany s m replace records).sent engine st = statements.map .statement) ∧
    (∀ st st' n, (insertMany s m records).run Storage.engine st = (.ok n, st') →
      n = records.length ∧ ∃ t t' rows, st.table? s.table = some t ∧
        st'.table? s.table = some t' ∧ Grows s batch t t' rows ∧ rows.length = n ∧
        ∀ name, ¬ sameName s.table name → st'.table? name = st.table? name) ∧
    ∀ st st' e, (writeMany s m replace records).run Storage.engine st = (.error e, st') →
      ∀ name, st'.table? name = st.table? name :=
  ⟨exists_writeStatements_iff,
    fun _ h => ⟨exists_binds (Schema.fault?_eq_none_iff.1 hs) h,
      fun _ engine st => sent_writeMany hne h engine st⟩,
    fun _ _ _ h => grows_insertMany h, fun _ _ _ h name => table?_of_writeMany_error h name⟩

/-! ## Tags without labels -/

/-- Two tags, the second without a label. -/
def someTags : List Record := [labelled "b" "y", [("id", .str "c")]]

/-- A database of tags to which the two are added. -/
def taggedStorage : Storage :=
  let database : Database := ⟨[tags [⟨1, [.text "a", .text "x"]⟩, ⟨2, [.text "b", .text "y"]⟩,
    ⟨3, [.text "c", .null]⟩]]⟩
  { config := { path := "tags" }, saved := .ok database,
    connection := some { database, changes := 2, lastRow := 3 } }

theorem run_insertMany_someTags :
    (insertMany tag someTime someTags).run Storage.engine
      (tagStorage [⟨1, [.text "a", .text "x"]⟩] 1) = (.ok 2, taggedStorage) := by
  rw [insertMany, writeMany, if_neg (by decide),
    @writeStatements_eq tag false _
      [[.bound (.text "b"), .bound (.text "y")], [.bound (.text "c"), .bound .null]]
      (by decide) rfl (by simp) (by decide)]
  rfl

/-- Tags are added in one statement, in which the label that is missing is null. -/
theorem writeMany_whole_someTags :
    tag.fault? = none ∧ someTags ≠ [] ∧ ∃ t' rows, taggedStorage.table? tag.table = some t' ∧
      t'.rows.Perm ([⟨1, [.text "a", .text "x"]⟩] ++ rows) ∧ rows.length = 2 := by
  have hs : tag.fault? = none := by decide
  have hne : someTags ≠ [] := by simp [someTags]
  refine ⟨hs, hne, ?_⟩
  obtain ⟨-, -, hadded, -⟩ := writeMany_whole hs hne someTime false
  obtain ⟨-, t, t', rows, htable, htable', hgrows, hlength, -⟩ :=
    hadded _ _ _ run_insertMany_someTags
  obtain rfl : tags [⟨1, [.text "a", .text "x"]⟩] = t := Option.some.inj htable
  exact ⟨t', rows, htable', hgrows.perm, hlength⟩

end Daybook.Store
