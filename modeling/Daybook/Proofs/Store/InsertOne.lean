import Daybook.Proofs.Store.Bulk
import Daybook.Proofs.Store.Key
import Daybook.Proofs.Sync.Export

/-!
# What the insertion of one record answers

A record is added by one statement, the same that adds it as a batch of its own, and then read back
by its key. The key that is looked for is the one that was given, or the number that the database
gave to the row. So the row that is found is the new one, in which values that are not declared are
gone and defaults are filled in. A column of floating-point numbers, though, may store another key
than the one that was given; then nothing is found, and the answer is the record as it was given
(**`insertOne_stores`**).

* `oneWithDefaults`: the record that is written;
* `insertion`, `answerOne`: the statement, and what is answered after it;
* `roundsKey`: the key of a record is not stored as it is;
* `AddsRow`: what the insertion leaves.
-/

namespace Daybook.Store

open Sql Sql.Table

variable {s : Schema} {m : Moment} {record : Record}

/-! ## Keys of records -/

section Keys

variable {key : Column}

theorem eq_of_get?_withMissing {name column : String} {v w : Json}
    (h : (withMissing s column w record).get? name = some v) :
    record.get? name = some v ∨ v = w := by
  rw [withMissing] at h
  split_ifs at h
  · by_cases hname : name = column
    · rw [hname, KeyMap.get?_insert_self] at h
      exact .inr (Option.some.inj h).symm
    · rw [KeyMap.get?_insert_of_ne _ _ hname] at h
      exact .inl h
  · exact .inl h

/-- A value that is filled in is not null. -/
theorem get?_withKey_of_null {now fresh name : String}
    (h : (withDefaults s now fresh record).get? name = some .null) :
    (withKey s fresh record).get? name = some .null := by
  rw [withDefaults] at h
  have hupdated := (eq_of_get?_withMissing h).resolve_right Json.noConfusion
  have hcreated := (eq_of_get?_withMissing hupdated).resolve_right Json.noConfusion
  exact (eq_of_get?_withMissing hcreated).resolve_right Json.noConfusion

/-- A record has a key that is not null, or none where the database numbers the rows. -/
theorem key_withDefaults (hkey : s.key? = some key) (now fresh : String) :
    (∃ v, (withDefaults s now fresh record).get? key.name = some v ∧ v ≠ .null) ∨
      ((withDefaults s now fresh record).get? key.name = none ∧ key.type = .integer) := by
  by_cases hasks : key.type = .integer ∧ isMissingKey (record.get? key.name)
  · obtain ⟨hinteger, hmissing⟩ := hasks
    have herased : (withKey s fresh record).get? key.name = none := by
      rw [withKey, hkey]
      dsimp only
      rw [if_pos hmissing, hinteger]
      exact KeyMap.get?_erase_self _ _
    cases hv : (withDefaults s now fresh record).get? key.name with
    | none => exact .inr ⟨rfl, hinteger⟩
    | some v =>
      refine .inl ⟨v, rfl, ?_⟩
      rintro rfl
      cases herased.symm.trans (get?_withKey_of_null hv)
  · rw [not_and, Bool.not_eq_true] at hasks
    obtain ⟨v, hv, hnull, -⟩ := exists_key hkey hasks now fresh
    exact .inl ⟨v, hv, hnull⟩

/-- The column of the key stores another number than the key of the record. -/
def roundsKey (key : Column) (record : Record) : Bool :=
  match valueOf key record with
  | .ok v => key.toDef.affinity.rounds v
  | .error _ => false

/-- Only keys that are floating-point numbers are rounded. -/
theorem type_of_roundsKey (h : roundsKey key record) : key.type = .real := by
  rw [roundsKey] at h
  split at h
  · rename_i v _
    have haffinity := ((Affinity.rounds_eq_true_iff _ v).1 h).1
    have htype : key.toDef.affinity = Affinity.ofDeclared key.type.name := rfl
    rw [htype] at haffinity
    cases hkey : key.type with
    | real => rfl
    | _ =>
      rw [hkey] at haffinity
      exact absurd haffinity (by decide)
  · cases h

end Keys

/-! ## The statement of one record -/

/-- The record that an insertion of one record writes. -/
def oneWithDefaults (s : Schema) (m : Moment) (record : Record) : Record :=
  withDefaults s m.now (m.freshId 0) record

theorem allWithDefaults_singleton (s : Schema) (m : Moment) (record : Record) :
    allWithDefaults s m [record] = [oneWithDefaults s m record] := rfl

/-- The statement that adds one row of values. -/
def insertion (s : Schema) (columns : List Column) (values : List Cell) : Statement :=
  .insert false s.table (columns.map Column.name) [values.map .bound]

/-- Runs the statement of one record, and answers the number of its row. -/
def addOne (s : Schema) (columns : List Column) (values : List Cell) : Program Int :=
  .ask (.insert (.statement (insertion s columns values)))

/-- Runs the statement of one record as a transaction. -/
def addBatch (s : Schema) (columns : List Column) (values : List Cell) : Program Nat :=
  .ask (.transaction [.statement (insertion s columns values)])

/-- What is answered for a record in the row of a number: the record as it is read back by its key,
if there is one and it is found. -/
def answerOne (s : Schema) (record : Record) (number : Int) : Program Record :=
  match s.key? with
  | none => .done record
  | some key =>
    (findByKey s ((record.get? key.name).getD (.int number))).bind fun found =>
      .done (found.getD record)

/-- **One record is written as a batch of its own is**, if it is not empty: both fail before the
engine is called, or both write the same statement. -/
theorem insertOne_eq_or (hne : record ≠ []) :
    (∃ e, insertOne s m record = .fail e ∧ insertMany s m [record] = .fail e) ∨
    ∃ values,
      Values (presentColumns s [oneWithDefaults s m record]) (oneWithDefaults s m record) values ∧
      presentColumns s [oneWithDefaults s m record] ≠ [] ∧
      insertOne s m record =
        (addOne s (presentColumns s [oneWithDefaults s m record]) values).bind
          (answerOne s (oneWithDefaults s m record)) ∧
      insertMany s m [record] =
        (addBatch s (presentColumns s [oneWithDefaults s m record]) values).bind
          fun _ => .done 1 := by
  have hempty : record.isEmpty = false := by simpa using hne
  have hone : ([record] : List Record).isEmpty = false := rfl
  rw [insertOne, insertMany, writeMany, hempty, hone, if_neg Bool.false_ne_true,
    if_neg Bool.false_ne_true, allWithDefaults_singleton, ← oneWithDefaults]
  generalize oneWithDefaults s m record = filled
  by_cases hcolumns : (presentColumns s [filled]).isEmpty
  · have hstatements : writeStatements s false [filled] =
        .error (.missingArgument "declared column") := by
      rw [writeStatements, if_pos hcolumns]
    refine .inl ⟨.missingArgument "declared column", ?_, ?_⟩
    · dsimp only
      rw [if_pos hcolumns]
    · rw [hstatements]
      rfl
  · cases hrow : rowOf (presentColumns s [filled]) filled with
    | error e =>
      have hstatements : writeStatements s false [filled] = .error e := by
        rw [writeStatements, if_neg hcolumns, List.mapM_cons, hrow]
        rfl
      refine .inl ⟨e, ?_, ?_⟩
      · dsimp only
        rw [if_neg hcolumns, hrow]
        rfl
      · rw [hstatements]
        rfl
    | ok row =>
      obtain ⟨values, rfl, hvalues⟩ := rowOf_eq_ok hrow
      have hpresent : presentColumns s [filled] ≠ [] := by simpa using hcolumns
      have hrows : [filled].mapM (rowOf (presentColumns s [filled])) =
          .ok [values.map .bound] := by
        rw [List.mapM_cons, hrow]
        rfl
      have hstatements := @writeStatements_eq s false _ _ hpresent hrows
        (List.cons_ne_nil _ _) (Nat.one_le_iff_ne_zero.2 (rowsPerStatement_ne_zero _))
      refine .inr ⟨values, hvalues, hpresent, ?_, ?_⟩
      · dsimp only
        rw [if_neg hcolumns, hrow]
        rfl
      · rw [hstatements]
        rfl

/-! ## What the engine does -/

section Engine

variable {columns : List Column} {values : List Cell} {st st' : Storage}

theorem changeAll?_insertion (c : Connection) :
    c.changeAll? 0 [.statement (insertion s columns values)] =
      (c.change? (.statement (insertion s columns values))).map fun d => (d, 0 + d.changes) := by
  rw [Connection.changeAll?]
  show (c.change? (.statement (insertion s columns values)) >>= fun d =>
    d.changeAll? (0 + d.changes) []) = _
  cases c.change? (.statement (insertion s columns values)) <;> rfl

/-- **A transaction of one insertion does what the insertion does.** -/
theorem run_addOne_or (columns : List Column) (values : List Cell) (st : Storage) :
    (∃ e st', (addOne s columns values).run Storage.engine st = (.error e, st') ∧
      (addBatch s columns values).run Storage.engine st = (.error e, st')) ∨
    ∃ c d n, st.opened = .ok c ∧ c.change? (.statement (insertion s columns values)) = .ok d ∧
      (addOne s columns values).run Storage.engine st = (.ok d.lastRow, st.keep d) ∧
      (addBatch s columns values).run Storage.engine st = (.ok n, st.keep d) := by
  have hone : (addOne s columns values).run Storage.engine st = st.on fun c =>
      (c.change? (.statement (insertion s columns values))).map fun d => (d.lastRow, d) :=
    Program.run_ask (.insert (.statement (insertion s columns values)))
  have hbatch : (addBatch s columns values).run Storage.engine st = st.on fun c =>
      (c.changeAll? 0 [.statement (insertion s columns values)]).map fun p => (p.2, p.1) :=
    Program.run_ask (.transaction [.statement (insertion s columns values)])
  rw [hone, hbatch]
  cases hc : st.opened with
  | error fault =>
    refine .inl ⟨.storage fault, st, ?_, ?_⟩
    · rw [Storage.on, hc]
    · rw [Storage.on, hc]
  | ok c =>
    cases hd : c.change? (.statement (insertion s columns values)) with
    | error fault =>
      refine .inl ⟨.storage fault, st.keep c, Storage.on_of_eq_error hc ?_,
        Storage.on_of_eq_error hc ?_⟩
      · rw [hd]
        rfl
      · rw [changeAll?_insertion, hd]
        rfl
    | ok d =>
      refine .inr ⟨c, d, 0 + d.changes, rfl, hd, Storage.on_of_eq_ok hc ?_,
        Storage.on_of_eq_ok hc ?_⟩
      · rw [hd]
        rfl
      · rw [changeAll?_insertion, hd]
        rfl

/-- **How one record is inserted**, if it is not empty: it is refused as a batch of its own is, or
written as that is, and then answered. -/
theorem run_insertOne_or (hne : record ≠ []) (st : Storage) :
    (∃ e st', (insertOne s m record).run Storage.engine st = (.error e, st') ∧
      (insertMany s m [record]).run Storage.engine st = (.error e, st')) ∨
    ∃ values c d,
      Values (presentColumns s [oneWithDefaults s m record]) (oneWithDefaults s m record) values ∧
      presentColumns s [oneWithDefaults s m record] ≠ [] ∧ st.opened = .ok c ∧
      c.change? (.statement
        (insertion s (presentColumns s [oneWithDefaults s m record]) values)) = .ok d ∧
      (insertOne s m record).run Storage.engine st =
        (answerOne s (oneWithDefaults s m record) d.lastRow).run Storage.engine (st.keep d) ∧
      (insertMany s m [record]).run Storage.engine st = (.ok 1, st.keep d) := by
  obtain ⟨e, hone, hmany⟩ | ⟨values, hvalues, hcolumns, hone, hmany⟩ := insertOne_eq_or hne
  · rw [hone, hmany]
    exact .inl ⟨e, st, rfl, rfl⟩
  · rw [hone, hmany, Program.run_bind, Program.run_bind]
    obtain ⟨e, st', hadd, hbatch⟩ | ⟨c, d, n, hc, hd, hadd, hbatch⟩ :=
      run_addOne_or (presentColumns s [oneWithDefaults s m record]) values st
    · rw [hadd, hbatch]
      exact .inl ⟨e, st', rfl, rfl⟩
    · rw [hadd, hbatch]
      exact .inr ⟨values, c, d, hvalues, hcolumns, hc, hd, rfl, rfl⟩

end Engine

/-! ## The row of the record -/

section Placed

variable {t : Table} {columns : List Column} {values : List Cell} {c d : Connection}

/-- **What an insertion of one row comes to**: a row is made of the values, placed among the others,
and its number is remembered. -/
theorem placed_of_insertion (hcolumns : columns ≠ [])
    (htable : c.database.table? s.table = some t)
    (hd : c.change? (.statement (insertion s columns values)) = .ok d) :
    ∃ row, t.MadeOf false (positions t columns) values row ∧
      t.newRowId? (t.numberBy (positions t columns) values) = .ok row.id ∧
      (∀ r ∈ t.rows, ¬ t.clashes row.id row.cells r) ∧ d.lastRow = row.id ∧
      d.database = c.database.replaceTable (t.placeRow row) ∧
      nameClash? s.table = none ∧ Database.isCatalogName s.table = false := by
  cases hrun : c.database.run? (insertion s columns values) with
  | error fault =>
    rw [Connection.change?_of_error hrun] at hd
    cases hd
  | ok p =>
    obtain ⟨db, o⟩ := p
    obtain ⟨hclash, hperform⟩ := Database.run?_eq_ok hrun
    obtain ⟨⟨db', n, last⟩, hinsert, heq⟩ := Result.map_eq_ok_iff.1 hperform
    obtain ⟨rfl, rfl⟩ := Prod.mk.inj heq
    rw [Connection.change?_of_run? hrun, Except.ok.injEq] at hd
    obtain ⟨u, t', k, hu, hrows, rfl, rfl, hcatalog⟩ := Database.insert?_eq_ok hinsert
    obtain rfl : t = u := Option.some.inj (htable.symm.trans hu)
    have hpositions : Database.positionsOf t (columns.map Column.name) = positions t columns := by
      rw [Database.positionsOf, if_neg (by simpa using hcolumns), List.map_map]
      rfl
    rw [hpositions, ← List.map_singleton (f := fun vs : List Cell => vs.map Operand.bound),
      value_bound, insertRows?_cons] at hrows
    obtain ⟨⟨w, id⟩, hrow, hrest⟩ := Result.bind_eq_ok_iff.1 hrows
    obtain ⟨rfl, rfl⟩ := Prod.mk.inj (Except.ok.inj hrest)
    obtain ⟨hid, hfault, hfree, rfl⟩ := insertRow?_keep_eq_ok_iff.1 hrow
    refine ⟨t.newRow false (positions t columns) values id,
      ⟨rfl, numbers_of_newRowId? hid, fits_newCells hfault⟩, hid,
      fun r hr hcl => Bool.false_ne_true ((hfree r hr).symm.trans hcl), ?_, ?_, ?_, hcatalog⟩
    · rw [← hd]
      rfl
    · rw [← hd]
      rfl
    · rw [insertion, Statement.clash?] at hclash
      split_ifs at hclash
      exact List.findSome?_eq_none_iff.1 hclash _ List.mem_cons_self

end Placed

/-! ## Numbers of rows -/

section Numbers

variable {t : Table} {row : Row}

theorem inRange_of_rowId? {v : Cell} {n : Int} (h : rowId? v = some n) :
    -(2 ^ 63) ≤ n ∧ n < 2 ^ 63 := by
  rw [rowId?] at h
  split at h
  · rename_i k _
    rw [← Option.some.inj h]
    exact ⟨Int64.le_toInt k, Int64.toInt_lt k⟩
  · cases h

theorem le_nextRowId (ht : t.Sound) (hrange : t.InRange) : -(2 ^ 63) ≤ t.nextRowId := by
  rw [nextRowId]
  split
  · decide
  · rename_i last hlast
    have hlow := (hrange last (List.mem_of_getLast? hlast)).1
    have hfree := (leastFree_ne (n := 1) ht.ascending).1
    split_ifs <;> omega

/-- A row may be numbered if there is a number left. -/
theorem inRange_placeRow (ht : t.Sound) (hrange : t.InRange) (hroom : t.nextRowId ≤ maxRowId)
    {number : Option Cell} (hid : t.newRowId? number = .ok row.id) :
    (t.placeRow row).InRange := by
  intro r hr
  rcases (mem_place row r t.rows).1 hr with rfl | hr
  · obtain ⟨-, hnext⟩ | ⟨v, -, -, hv⟩ := newRowId?_eq_ok hid
    · have hlow := le_nextRowId ht hrange
      have hmax : maxRowId = 2 ^ 63 - 1 := rfl
      omega
    · exact inRange_of_rowId? hv
  · exact hrange r hr

end Numbers

/-! ## The answer -/

section Answer

variable {key : Column} {t : Table} {row : Row} {batch : List Record}

/-- A row holds in its key what the column stores for the key of the record. -/
theorem StoredAs.cellOf_key (h : StoredAs s t false batch record row) (hmade : t.MadeFor s)
    (hkey : key ∈ s.columns) {v : Cell} (hgiven : given batch record key = some v)
    (hv : v ≠ .null) : t.cellOf row.cells key.name = key.toDef.affinity.store v := by
  cases hnumber : isNumberColumn key.toDef with
  | true =>
    rw [(hmade.holds hkey h.fits).number hnumber,
      store_of_rowId? hnumber (h.number key hkey hnumber v hgiven hv)]
  | false =>
    rw [h.cells key hkey hnumber, storedFor, hnumber, if_neg Bool.false_ne_true, hgiven]
    rfl

/-- The cell that is looked for after a record was inserted: it is stored in the key of the row. -/
theorem exists_sought (hkey : s.key? = some key) (hmade : t.MadeFor s) (now fresh : String)
    {values : List Cell}
    (hvalues : Values (presentColumns s [withDefaults s now fresh record])
      (withDefaults s now fresh record) values)
    (hstored : StoredAs s t false [withDefaults s now fresh record]
      (withDefaults s now fresh record) row)
    (hrange : -(2 ^ 63) ≤ row.id ∧ row.id < 2 ^ 63) :
    ∃ v, key.cell (((withDefaults s now fresh record).get? key.name).getD (.int row.id)) = .ok v ∧
      v ≠ .null ∧ t.cellOf row.cells key.name = key.toDef.affinity.store v ∧
      key.toDef.affinity.rounds v = roundsKey key (withDefaults s now fresh record) := by
  obtain ⟨hmem, hprimary⟩ := Schema.mem_key? hkey
  obtain ⟨w, hw, hnull⟩ | ⟨hnone, hinteger⟩ := @key_withDefaults s record key hkey now fresh
  · generalize withDefaults s now fresh record = filled at hw hvalues hstored ⊢
    have hpresent : [filled].any fun r => r.contains key.name := by
      rw [List.any_cons, KeyMap.contains, hw]
      rfl
    obtain ⟨v, hv, -⟩ := exists_mem_zip_positions (t := t) hvalues
      (mem_presentColumns_iff.2 ⟨hmem, hpresent⟩)
    have hv' := valueOf_ne_null hw hnull hv
    have hgiven : given [filled] filled key = some v := by
      rw [given, if_pos hpresent, hv]
      rfl
    refine ⟨v, ?_, hv', hstored.cellOf_key hmade hmem hgiven hv', ?_⟩
    · rw [valueOf, hw] at hv
      rw [hw]
      exact hv
    · rw [roundsKey, hv]
  · generalize withDefaults s now fresh record = filled at hnone hstored ⊢
    have hnumber : isNumberColumn key.toDef :=
      (Schema.isNumberColumn_toDef_iff key).2 ⟨hprimary, hinteger⟩
    have haffinity := affinity_of_isNumberColumn hnumber
    have hblob : key.type ≠ .blob := by
      rw [hinteger]
      exact ColumnType.noConfusion
    refine ⟨.int (Int64.ofInt row.id), ?_, Cell.noConfusion, ?_, ?_⟩
    · rw [hnone, Option.getD_none, cell_of_ne_blob hblob, Cell.ofJson, Cell.ofInt?, if_pos hrange]
      rfl
    · rw [(hmade.holds hmem hstored.fits).number hnumber, haffinity]
      rfl
    · rw [roundsKey, valueOf, hnone, haffinity]
      rfl

variable {st : Storage} {d : Connection} {filled : Record} {number : Int}

/-- **The record is read back by its key**: the row of the record is found, unless its key was
rounded. -/
theorem run_answerOne (hkey : s.key? = some key)
    (hcatalog : Database.isCatalogName s.table = false) (hwords : nameClash? s.table = none)
    (hword : Sql.clash? false key.name ["=", "?"] = none) (hmade : t.MadeFor s) (ht : t.Sound)
    (hrange : t.InRange) (hrow : row ∈ t.rows) (htable : d.database.table? s.table = some t)
    {v : Cell} (hcell : key.cell ((filled.get? key.name).getD (.int number)) = .ok v)
    (hv : v ≠ .null) (hstored : t.cellOf row.cells key.name = key.toDef.affinity.store v) :
    (answerOne s filled number).run Storage.engine (st.keep d) =
      (.ok (if key.toDef.affinity.rounds v then filled else t.record row), st.keep d) := by
  have hfind := run_findByKey hkey hcatalog hwords hword hmade ht (fun _ => hrange)
    (Storage.opened_keep st d) htable hcell hv
  rw [answerOne, hkey]
  refine Program.run_bind_eq_ok.2 ⟨_, _, hfind, ?_⟩
  cases hrounds : key.toDef.affinity.rounds v with
  | true =>
    have hnone : sought? t key v = none := by
      refine List.find?_eq_none.2 fun r hr => ?_
      rw [decide_eq_true_iff]
      exact Affinity.not_meets_sought hrounds (store_cellOf hmade ht (Schema.mem_key? hkey).1 hr)
    rw [hnone]
    rfl
  | false =>
    have hsome : sought? t key v = some row := by
      refine sought?_eq_some hmade ht (fun _ => hrange) hkey hrow ?_
      rw [hstored]
      exact Affinity.store_meets_sought hv hrounds
    rw [hsome]
    rfl

end Answer

/-! ## Insertions of one record -/

/-- A name before a comparison is read as that of a column: no expression of its own begins with it,
and it is no word for the time. -/
def ReadsAsColumn (name : String) : Prop :=
  Sql.clash? false name ["=", "?"] = none ∧ upper name ∉ momentWords

instance (name : String) : Decidable (ReadsAsColumn name) :=
  inferInstanceAs (Decidable (_ ∧ _))

/-- What the insertion of one record leaves: the old rows and the row of the record, which are what
is found afterwards, and the other tables as they were. -/
structure AddsRow (s : Schema) (record : Record) (t : Table) (row : Row) (st st' : Storage) :
    Prop where
  stored : StoredAs s t false [record] record row
  perm : (t.placeRow row).rows.Perm (row :: t.rows)
  table : st'.table? s.table = some (t.placeRow row)
  found : ((find s {}).run Storage.engine st').1 = .ok ((t.placeRow row).rows.map t.record)
  others : ∀ name, ¬ sameName s.table name → st'.table? name = st.table? name

section Inserted

variable {key : Column} {t : Table} {st : Storage} (hkey : s.key? = some key)
  (hword : ReadsAsColumn key.name) (hmade : t.MadeFor s) (ht : t.Sound) (hrange : t.InRange)
  (hroom : t.nextRowId ≤ maxRowId)

include hkey hword hmade ht hrange hroom

/-- A record that was written is answered as it is found, unless its key is rounded. -/
theorem answer_of_insertion {values : List Cell} {c d : Connection}
    (hvalues : Values (presentColumns s [oneWithDefaults s m record]) (oneWithDefaults s m record)
      values)
    (hcolumns : presentColumns s [oneWithDefaults s m record] ≠ []) (hc : st.opened = .ok c)
    (hd : c.change? (.statement
      (insertion s (presentColumns s [oneWithDefaults s m record]) values)) = .ok d)
    (htable : c.database.table? s.table = some t) :
    ∃ row, AddsRow s (oneWithDefaults s m record) t row st (st.keep d) ∧
      (answerOne s (oneWithDefaults s m record) d.lastRow).run Storage.engine (st.keep d) =
        (.ok (if roundsKey key (oneWithDefaults s m record) then oneWithDefaults s m record
          else t.record row), st.keep d) := by
  obtain ⟨row, hrow, hid, hfree, hnumber, hdatabase, hwords, hcatalog⟩ :=
    placed_of_insertion hcolumns htable hd
  have hstored := StoredAs.of_madeOf hmade hvalues hrow
  have hplaced := ht.placeRow hrow.fits hfree
  have hrange' := inRange_placeRow ht hrange hroom hid
  have hmem := (mem_place row row t.rows).2 (.inl rfl)
  have hmade' : (t.placeRow row).MadeFor s := hmade.alike ⟨_, rfl⟩
  obtain ⟨htable', hothers⟩ := @Storage.table?_keep_replaceTable st c s.table t (t.placeRow row)
    d.changes d.lastRow hc htable rfl
  rw [← hdatabase] at htable' hothers
  have hfind := run_query_of_select? (Storage.opened_keep st d)
    (clash?_allColumns hwords (Nat.zero_le _)) (Database.select?_all hcatalog htable')
  obtain ⟨v, hcell, hv, hcellOf, hrounds⟩ :=
    exists_sought hkey hmade m.now (m.freshId 0) hvalues hstored (hrange' row hmem)
  have hanswer := @run_answerOne s key _ row st d (oneWithDefaults s m record) row.id hkey
    hcatalog hwords hword.1 hmade' hplaced hrange' hmem htable' v hcell hv hcellOf
  rw [← hnumber, hrounds] at hanswer
  exact ⟨row, ⟨hstored, perm_place row t.rows, htable', congrArg Prod.fst hfind, hothers⟩, hanswer⟩

end Inserted

/-! ## Tags and readings -/

/-- A tag without a key, and with a value that is not declared. -/
def newTag : Record := [("label", .str "y"), ("other", .int 1)]

theorem run_insertMany_newTag : (insertMany tag someTime [newTag]).run Storage.engine
    (tagStorage [⟨1, [.text "a", .text "x"]⟩] 1) =
      (.ok 1, tagStorage [⟨1, [.text "a", .text "x"]⟩, ⟨2, [.text "f", .text "y"]⟩] 2) := by
  rw [insertMany, writeMany, if_neg (by decide),
    @writeStatements_eq tag false _ [[.bound (.text "f"), .bound (.text "y")]]
      (by decide) rfl (by simp) (by decide)]
  rfl

/-- Readings, whose keys are floating-point numbers. -/
def reading : Schema where
  entity := "Reading"
  table := "Reading"
  columns := [(Column.real "id").key, Column.text "label"]

/-- The table of readings with some rows. -/
def readings (rows : List Row) : Table := { reading.made [] with rows := rows }

/-- An open database of readings. -/
def readingStorage (rows : List Row) (changes : Nat) (last : Int) : Storage where
  config := { path := "readings" }
  saved := .ok ⟨[readings rows]⟩
  connection := some { database := ⟨[readings rows]⟩, changes := changes, lastRow := last }

/-- A reading whose key is an integer, but no floating-point number. -/
def oddReading : Record := [("id", .int 9007199254740993), ("label", .str "x")]

/-- The row of this reading: the floating-point number is the integer before. -/
def oddRow : Row := ⟨1, [.real ⟨0x4340000000000000⟩, .text "x"]⟩

theorem run_insertMany_oddReading : (insertMany reading someTime [oddReading]).run Storage.engine
    (readingStorage [] 0 0) = (.ok 1, readingStorage [oddRow] 1 1) := by
  rw [insertMany, writeMany, if_neg (by decide),
    @writeStatements_eq reading false _ [[.bound (.int 9007199254740993), .bound (.text "x")]]
      (by decide) rfl (by simp) (by decide)]
  rfl

theorem madeFor_readings (rows : List Row) : (readings rows).MadeFor reading := by
  have hmade : (reading.made []).MadeFor reading :=
    Schema.madeFor_made (by decide) (by decide) (List.nil_sublist _)
  exact hmade.alike ⟨rows, rfl⟩

theorem sound_oddReading : (readings [oddRow]).Sound := by
  have hinsert : Table.insertRows? false [some 0, some 1] (readings []) 0
      [[.int 9007199254740993, .text "x"]] = .ok (readings [oddRow], 1) := rfl
  exact ((sound_of_rows_eq_nil rfl).insertRows? hinsert).1

/-- The reading is not found by its key, and is answered as it was given. -/
theorem run_insertOne_oddReading : (insertOne reading someTime oddReading).run Storage.engine
    (readingStorage [] 0 0) = (.ok oddReading, readingStorage [oddRow] 1 1) := by
  obtain ⟨e, st, -, hmany⟩ | ⟨values, c, d, -, -, -, -, hone, hmany⟩ :=
    @run_insertOne_or reading someTime oddReading (List.cons_ne_nil _ _) (readingStorage [] 0 0)
  · exact nomatch (Prod.mk.inj (run_insertMany_oddReading.symm.trans hmany)).1
  · have hkeep := (Prod.mk.inj (run_insertMany_oddReading.symm.trans hmany)).2
    have htable : d.database.table? reading.table = some (readings [oddRow]) := by
      rw [← Storage.table?_keep, ← hkeep]
      rfl
    have hanswer := @run_answerOne reading (Column.real "id").key (readings [oddRow]) oddRow
      (readingStorage [] 0 0) d oddReading d.lastRow rfl (by decide) (by decide) (by decide)
      (madeFor_readings _) sound_oddReading (by decide) List.mem_cons_self htable
      (.int 9007199254740993) rfl Cell.noConfusion rfl
    have hrounds : (Column.real "id").key.toDef.affinity.rounds (.int 9007199254740993) := by
      decide +kernel
    rw [if_pos hrounds, ← hkeep] at hanswer
    rw [hone, ← hkeep]
    exact hanswer

end Daybook.Store
