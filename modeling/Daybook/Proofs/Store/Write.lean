import Daybook.Proofs.Engine.Storage
import Daybook.Proofs.Schema.Table
import Daybook.Store.Insert

/-!
# Records as rows

Records are written as rows over the declared columns that any of them has, in several statements
of one transaction; in the end that is one insertion of all their rows (`writeMany_eq_ok`). What a
column stores for a record depends on the record and on which columns the batch has (`storedFor`).

* `valueOf`, `given`, `storedFor`: the value of a record for a column, given and stored;
* `cellOf_newRow`, `numberBy_eq_some_iff`: the cells and the number of the row of a record.
-/

namespace Daybook.Store

open Sql Sql.Table

/-! ## What is filled in -/

section Defaults

variable {s : Schema} {record : Record} {key : String} {v : Json}

theorem get?_withMissing (h : record.get? key = some v) (column : String) (w : Json) :
    (withMissing s column w record).get? key = some v := by
  rw [withMissing]
  split_ifs with hmissing
  · obtain ⟨-, habsent⟩ := (Bool.and_eq_true _ _).mp hmissing
    have hne : key ≠ column := by
      rintro rfl
      rw [KeyMap.contains, h] at habsent
      exact nomatch habsent
    rw [KeyMap.get?_insert_of_ne _ _ hne, h]
  · exact h

/-- Values are kept when the rest is filled in. -/
theorem get?_withDefaults {fresh : String} (h : (withKey s fresh record).get? key = some v)
    (now : String) : (withDefaults s now fresh record).get? key = some v := by
  rw [withDefaults]
  exact get?_withMissing (get?_withMissing (get?_withMissing h _ _) _ _) _ _

theorem withKey_of_present {key : Column} (hkey : s.key? = some key)
    (h : isMissingKey (record.get? key.name) = false) (fresh : String) :
    withKey s fresh record = record := by
  rw [withKey, hkey]
  dsimp only
  rw [h, if_neg Bool.false_ne_true]

/-- A record has a key afterwards, its own or a fresh one, unless it has none and the database
numbers the rows. -/
theorem exists_key {key : Column} (hkey : s.key? = some key)
    (h : key.type = .integer → isMissingKey (record.get? key.name) = false) (now fresh : String) :
    ∃ v, (withDefaults s now fresh record).get? key.name = some v ∧ v ≠ .null ∧
      (v = .str fresh ∨ record.get? key.name = some v) := by
  cases hmissing : isMissingKey (record.get? key.name) with
  | true =>
    refine ⟨.str fresh, get?_withDefaults ?_ now, Json.noConfusion, .inl rfl⟩
    rw [withKey, hkey]
    dsimp only
    rw [if_pos hmissing]
    cases htype : key.type with
    | integer => exact absurd (hmissing.symm.trans (h htype)) Bool.true_eq_false.mp
    | _ => exact KeyMap.get?_insert_self _ _ _
  | false =>
    cases hv : record.get? key.name with
    | none =>
      rw [hv] at hmissing
      exact nomatch hmissing
    | some v =>
      refine ⟨v, get?_withDefaults ?_ now, ?_, .inr rfl⟩
      · rw [withKey_of_present hkey hmissing, hv]
      · rintro rfl
        rw [hv] at hmissing
        exact nomatch hmissing

theorem mem_allWithDefaults {m : Moment} {records : List Record}
    (h : record ∈ allWithDefaults s m records) :
    ∃ r ∈ records, ∃ i, record = withDefaults s m.now (m.freshId i) r := by
  rw [allWithDefaults, List.mem_map] at h
  obtain ⟨⟨r, i⟩, hmem, rfl⟩ := h
  exact ⟨r, (List.mem_zipIdx' hmem).2 ▸ List.getElem_mem _, i, rfl⟩

end Defaults

/-! ## Values of records -/

/-- The value of a record for a column; null where it has none. -/
def valueOf (c : Column) (record : Record) : Except Failure Cell :=
  match record.get? c.name with
  | some v => c.cell v
  | none => .ok .null

/-- What a batch gives to a column for one of its records; nothing if no record has the column. -/
def given (batch : List Record) (record : Record) (c : Column) : Option Cell :=
  if batch.any fun r => r.contains c.name then (valueOf c record).toOption else none

/-- What a column stores for a record of a batch; where the column is the number of the row, the
number that is asked for. -/
def storedFor (replace : Bool) (batch : List Record) (record : Record) (c : Column) : Cell :=
  if isNumberColumn c.toDef then c.toDef.affinity.store ((given batch record c).getD .null)
  else storedCell replace c.toDef ((given batch record c).getD (c.toDef.default.getD .null))

/-- The values of a record for columns. -/
def Values (columns : List Column) (record : Record) (values : List Cell) : Prop :=
  List.Forall₂ (fun c v => valueOf c record = .ok v) columns values

theorem rowOf_eq_ok {columns : List Column} {record : Record} {row : List Operand}
    (h : rowOf columns record = .ok row) :
    ∃ values, row = values.map .bound ∧ Values columns record values := by
  rw [rowOf, Result.mapM_eq_ok_iff] at h
  induction h with
  | nil => exact ⟨[], rfl, .nil⟩
  | @cons c o cs os hc _ ih =>
    obtain ⟨values, rfl, hvalues⟩ := ih
    have hvalue : ∃ v, o = .bound v ∧ valueOf c record = .ok v := by
      rw [valueOf]
      cases hw : KeyMap.get? record c.name with
      | some w =>
        rw [hw] at hc
        obtain ⟨v, hv, ho⟩ := Result.map_eq_ok_iff.1 hc
        exact ⟨v, ho.symm, hv⟩
      | none =>
        rw [hw] at hc
        exact ⟨.null, (Except.ok.inj hc).symm, rfl⟩
    obtain ⟨v, rfl, hv⟩ := hvalue
    exact ⟨v :: values, rfl, .cons hv hvalues⟩

/-- The operands of a record, by its values. -/
theorem rowOf_of_values {columns : List Column} {record : Record} {values : List Cell}
    (h : Values columns record values) : rowOf columns record = .ok (values.map .bound) := by
  rw [rowOf, Result.mapM_eq_ok_iff]
  induction h with
  | nil => exact .nil
  | @cons c v cs vs hv _ ih =>
    refine .cons ?_ ih
    rw [valueOf] at hv
    cases hw : KeyMap.get? record c.name with
    | some w =>
      rw [hw] at hv
      exact Result.map_eq_ok_iff.2 ⟨v, hv, rfl⟩
    | none =>
      rw [hw] at hv
      rw [← Except.ok.inj hv]

theorem mem_presentColumns_iff {s : Schema} {batch : List Record} {c : Column} :
    c ∈ presentColumns s batch ↔ c ∈ s.columns ∧ batch.any fun r => r.contains c.name := by
  rw [presentColumns, List.mem_filter]

/-! ## Rows of records -/

/-- The positions of columns in a table. -/
def positions (t : Table) (columns : List Column) : List (Option Nat) :=
  columns.map fun c => t.position? c.name

variable {t : Table} {s : Schema}

/-- The values that are given to a declared column. -/
theorem givenBy_positions (hmade : t.MadeFor s) {columns : List Column}
    (hsub : ∀ c ∈ columns, c ∈ s.columns) {record : Record} {values : List Cell}
    (hvalues : Values columns record values) {c : Column} (hc : c ∈ s.columns) {i : Nat}
    (hi : t.position? c.name = some i) :
    givenBy (positions t columns) values i =
      if c ∈ columns then (valueOf c record).toOption else none := by
  induction hvalues with
  | nil => rfl
  | @cons c' v cs vs hv _ ih =>
    have ih := ih fun d hd => hsub d (List.mem_cons_of_mem _ hd)
    rw [givenBy, positions, List.map_cons, List.zip_cons_cons, List.find?_cons]
    by_cases hcc : c' = c
    · rw [hcc] at hv ⊢
      simp only [hi, decide_true, Option.map_some]
      rw [if_pos List.mem_cons_self, hv]
      rfl
    · have hpos : t.position? c'.name ≠ some i := fun h =>
        hcc (hmade.eq_of_position?_eq (hsub c' List.mem_cons_self) hc (h.trans hi.symm))
      simp only [hpos, decide_false, List.mem_cons, Ne.symm hcc, false_or]
      exact ih

theorem mem_zip_positions {columns : List Column} {record : Record} {values : List Cell}
    (hvalues : Values columns record values) {p : Option Nat × Cell}
    (hp : p ∈ (positions t columns).zip values) :
    ∃ c ∈ columns, p.1 = t.position? c.name ∧ valueOf c record = .ok p.2 := by
  induction hvalues with
  | nil => exact absurd hp List.not_mem_nil
  | @cons c v cs vs hv _ ih =>
    rw [positions, List.map_cons, List.zip_cons_cons] at hp
    rcases List.mem_cons.1 hp with rfl | hp
    · exact ⟨c, List.mem_cons_self, rfl, hv⟩
    · obtain ⟨c', hc', h⟩ := ih hp
      exact ⟨c', List.mem_cons_of_mem _ hc', h⟩

theorem exists_mem_zip_positions {columns : List Column} {record : Record} {values : List Cell}
    (hvalues : Values columns record values) {c : Column} (hc : c ∈ columns) :
    ∃ v, valueOf c record = .ok v ∧ (t.position? c.name, v) ∈ (positions t columns).zip values := by
  induction hvalues with
  | nil => exact absurd hc List.not_mem_nil
  | @cons c' v cs vs hv _ ih =>
    rw [positions, List.map_cons, List.zip_cons_cons]
    rcases List.mem_cons.1 hc with rfl | hc
    · exact ⟨v, hv, List.mem_cons_self⟩
    · obtain ⟨w, hw, hmem⟩ := ih hc
      exact ⟨w, hw, List.mem_cons_of_mem _ hmem⟩

/-- The number that is asked for is the value of the column that is the number of the row. -/
theorem numberBy_positions (hmade : t.MadeFor s) {columns : List Column}
    (hsub : ∀ c ∈ columns, c ∈ s.columns) {record : Record} {values : List Cell}
    (hvalues : Values columns record values) (v : Cell) :
    t.numberBy (positions t columns) values = some v ↔
      ∃ c ∈ columns, isNumberColumn c.toDef ∧ valueOf c record = .ok v := by
  have htest : ∀ c ∈ columns, ∀ i, t.position? c.name = i →
      ((i = none || i = t.numberColumn?) = true ↔ isNumberColumn c.toDef) := by
    rintro c hc _ rfl
    obtain ⟨i, hi, -⟩ := hmade.exists_position? (hsub c hc)
    rw [← hmade.numberColumn?_eq_some_iff (hsub c hc), hi]
    simp [eq_comm]
  rw [numberBy, List.findRev?_eq_find?_reverse, Option.map_eq_some_iff]
  constructor
  · rintro ⟨p, hp, rfl⟩
    have hmem := List.mem_reverse.1 (List.mem_of_find?_eq_some hp)
    obtain ⟨c, hc, hpos, hv⟩ := mem_zip_positions hvalues hmem
    have hsome := List.find?_some hp
    exact ⟨c, hc, (htest c hc p.1 hpos.symm).1 hsome, hv⟩
  · rintro ⟨c, hc, hnumber, hv⟩
    obtain ⟨w, hw, hmem⟩ := exists_mem_zip_positions (t := t) hvalues hc
    cases hfind : ((positions t columns).zip values).reverse.find? fun p =>
        p.1 = none || p.1 = t.numberColumn? with
    | none =>
      have := List.find?_eq_none.1 hfind _ (List.mem_reverse.2 hmem)
      exact absurd ((htest c hc _ rfl).2 hnumber) this
    | some p =>
      obtain ⟨c', hc', hpos, hv'⟩ :=
        mem_zip_positions hvalues (List.mem_reverse.1 (List.mem_of_find?_eq_some hfind))
      have hsome := List.find?_some hfind
      have hnumber' := (htest c' hc' p.1 hpos.symm).1 hsome
      rw [isNumberColumn, Bool.and_eq_true] at hnumber hnumber'
      obtain rfl := hmade.oneKey c (hsub c hc) c' (hsub c' hc') hnumber.1 hnumber'.1
      exact ⟨p, rfl, Except.ok.inj (hv'.symm.trans hv)⟩

section Batch

variable {batch : List Record} {record : Record} {values : List Cell} {replace : Bool}

theorem subset_presentColumns : ∀ c ∈ presentColumns s batch, c ∈ s.columns :=
  fun _ hc => (mem_presentColumns_iff.1 hc).1

/-- **The cell of the row of a record in a column.** -/
theorem cellOf_newRow (hmade : t.MadeFor s)
    (hvalues : Values (presentColumns s batch) record values)
    {c : Column} (hc : c ∈ s.columns) (hnumber : isNumberColumn c.toDef = false) (id : Int) :
    t.cellOf (t.newRow replace (positions t (presentColumns s batch)) values id).cells c.name =
      storedFor replace batch record c := by
  obtain ⟨i, hi, -⟩ := hmade.exists_position? hc
  have hgiven : givenBy (positions t (presentColumns s batch)) values i = given batch record c := by
    rw [givenBy_positions hmade subset_presentColumns hvalues hc hi, given]
    simp only [mem_presentColumns_iff, hc, true_and]
  rw [newRow, hmade.cellOf_newCells hc hi, newCell, storedFor, hnumber, hgiven]
  rfl

/-- The number that the row of a record asks for. -/
theorem numberBy_eq_some_iff (hmade : t.MadeFor s)
    (hvalues : Values (presentColumns s batch) record values) (v : Cell) :
    t.numberBy (positions t (presentColumns s batch)) values = some v ↔
      ∃ c ∈ s.columns, isNumberColumn c.toDef ∧ given batch record c = some v := by
  rw [numberBy_positions hmade subset_presentColumns hvalues]
  constructor
  · rintro ⟨c, hc, hnumber, hv⟩
    obtain ⟨hcs, hpresent⟩ := mem_presentColumns_iff.1 hc
    exact ⟨c, hcs, hnumber, by rw [given, if_pos hpresent, hv]; rfl⟩
  · rintro ⟨c, hc, hnumber, hv⟩
    rw [given] at hv
    split_ifs at hv with hpresent
    have hmem := mem_presentColumns_iff.2 ⟨hc, hpresent⟩
    obtain ⟨w, hw, -⟩ := exists_mem_zip_positions (t := t) hvalues hmem
    rw [hw] at hv
    exact ⟨c, hmem, hnumber, by rw [hw, Option.some.inj hv]⟩

end Batch

/-! ## Writing records -/

/-- A list that is not too long is one part. -/
theorem chunks_eq_singleton {α : Type} {size : Nat} {xs : List α} (hne : xs ≠ [])
    (hle : xs.length ≤ size) : chunks size xs = [xs] := by
  have hlength : xs.length ≠ 0 := fun h => hne (List.length_eq_zero_iff.1 h)
  have hempty : xs.isEmpty = false := by simpa using hne
  have hsize : size ≠ 0 := by omega
  rw [chunks, hempty, List.take_of_length_le hle, List.drop_eq_nil_of_le hle, chunks]
  simp [hsize]

/-- A few records are written in one statement. -/
theorem writeStatements_eq {replace : Bool} {batch : List Record} {rows : List (List Operand)}
    (hcolumns : presentColumns s batch ≠ [])
    (hrows : batch.mapM (rowOf (presentColumns s batch)) = .ok rows) (hne : rows ≠ [])
    (hle : rows.length ≤ rowsPerStatement (presentColumns s batch).length) :
    writeStatements s replace batch =
      .ok [.insert replace s.table ((presentColumns s batch).map Column.name) rows] := by
  have hchunks := chunks_eq_singleton hne hle
  rw [writeStatements, if_neg (by simpa using hcolumns), hrows, Except.map]
  rw [hchunks]
  rfl

theorem map_chunks {α β : Type} (f : α → β) (size : Nat) (xs : List α) :
    (chunks size xs).map (·.map f) = chunks size (xs.map f) := by
  fun_induction chunks size xs with
  | case1 xs hx => rw [chunks, List.isEmpty_map, if_pos hx, List.map_nil]
  | case2 xs hx ih =>
    rw [List.map_cons, ih, chunks.eq_def size (xs.map f), List.isEmpty_map, if_neg hx,
      List.map_take, List.map_drop]

/-- The operands of a batch are the values of its records. -/
theorem rowsOf_eq_ok_iff {columns : List Column} {batch : List Record}
    {rows : List (List Operand)} :
    batch.mapM (rowOf columns) = .ok rows ↔
      ∃ values : List (List Cell), rows = values.map (·.map .bound) ∧
        List.Forall₂ (Values columns) batch values := by
  rw [Result.mapM_eq_ok_iff]
  constructor
  · intro h
    induction h with
    | nil => exact ⟨[], rfl, .nil⟩
    | cons hrow _ ih =>
      obtain ⟨values, rfl, hvalues⟩ := ih
      obtain ⟨v, rfl, hv⟩ := rowOf_eq_ok hrow
      exact ⟨v :: values, rfl, .cons hv hvalues⟩
  · rintro ⟨values, rfl, hvalues⟩
    induction hvalues with
    | nil => exact .nil
    | cons hv _ ih => exact .cons (rowOf_of_values hv) ih

/-- **In what statements records are written**: their values are written in parts. -/
theorem writeStatements_eq_ok_iff {replace : Bool} {batch : List Record}
    {statements : List Statement} :
    writeStatements s replace batch = .ok statements ↔
      presentColumns s batch ≠ [] ∧ ∃ rows : List (List Cell),
        List.Forall₂ (Values (presentColumns s batch)) batch rows ∧
        statements = (chunks (rowsPerStatement (presentColumns s batch).length) rows).map
          fun part => .insert replace s.table ((presentColumns s batch).map Column.name)
            (part.map (·.map .bound)) := by
  rw [writeStatements]
  split_ifs with hempty
  · exact iff_of_false (fun h => nomatch h) fun h => h.1 (List.isEmpty_iff.1 hempty)
  · rw [Result.map_eq_ok_iff, and_iff_right (by simpa using hempty)]
    constructor
    · rintro ⟨operands, hoperands, rfl⟩
      obtain ⟨rows, rfl, hrows⟩ := rowsOf_eq_ok_iff.1 hoperands
      refine ⟨rows, hrows, ?_⟩
      rw [← map_chunks, List.map_map]
      rfl
    · rintro ⟨rows, hrows, rfl⟩
      refine ⟨_, rowsOf_eq_ok_iff.2 ⟨rows, rfl, hrows⟩, ?_⟩
      rw [← map_chunks, List.map_map]
      rfl

theorem rowsPerStatement_ne_zero (width : Nat) : rowsPerStatement width ≠ 0 := by
  rw [rowsPerStatement]
  omega

/-- Operands that are bound have the values that they are made of. -/
theorem value_bound (rows : List (List Cell)) :
    (rows.map (·.map Operand.bound)).map (·.map Operand.value) = rows := by
  have hrow : ((fun row : List Operand => row.map Operand.value) ∘
      fun row : List Cell => row.map Operand.bound) = id := by
    funext row
    simp [Function.comp_def, Operand.value]
  rw [List.map_map, hrow, List.map_id]

theorem params_insert (replace : Bool) (table : String) (names : List String)
    (part : List (List Cell)) :
    (Statement.insert replace table names (part.map (·.map .bound))).params = part.flatten := by
  have hrow (values : List Cell) : (values.map Operand.bound).flatMap Operand.params = values := by
    rw [List.flatMap_map]
    exact List.flatMap_singleton' values
  show (part.map (·.map Operand.bound)).flatMap (fun row => row.flatMap Operand.params) = _
  rw [List.flatMap_map]
  simp only [hrow]
  exact List.flatMap_id

theorem length_flatten_of_width {part : List (List Cell)} {width : Nat}
    (h : ∀ values ∈ part, values.length = width) : part.flatten.length = part.length * width := by
  rw [List.length_flatten, List.map_congr_left h, List.map_const', List.sum_replicate_nat]

/-- Each part of the rows is small enough for a statement, and its rows are as wide as the columns
are many. -/
theorem fits_of_mem_chunks {columns : List Column} {batch : List Record}
    {rows part : List (List Cell)} (hrows : List.Forall₂ (Values columns) batch rows)
    (hpart : part ∈ chunks (rowsPerStatement columns.length) rows) :
    part.length ≤ rowsPerStatement columns.length ∧
      ∀ values ∈ part, values.length = columns.length := by
  refine ⟨(length_of_mem_chunks hpart).2, fun values hvalues => ?_⟩
  have hmem : values ∈ rows := by
    rw [← flatten_chunks (rowsPerStatement_ne_zero columns.length) rows]
    exact List.mem_flatten_of_mem hpart hvalues
  obtain ⟨record, -, hrecord⟩ := (Result.exists_of_forall₂ hrows).1 values hmem
  exact (List.Forall₂.length_eq hrecord).symm

/-- **What a batch that is written has run**: its statements, one after the other. -/
theorem writeMany_run_eq_ok {m : Moment} {replace : Bool} {records : List Record}
    {st st' : Storage} {n : Nat}
    (h : (writeMany s m replace records).run Storage.engine st = (.ok n, st')) :
    records ≠ [] ∧ n = records.length ∧ ∃ statements c c' os,
      writeStatements s replace (allWithDefaults s m records) = .ok statements ∧
      st.opened = .ok c ∧ c.database.runAll? statements = .ok (c'.database, os) ∧
      st' = st.keep c' := by
  rw [writeMany] at h
  split_ifs at h with hempty
  · exact nomatch (Prod.mk.inj h).1
  · simp only [Program.bind_eq, Program.pure_eq] at h
    obtain ⟨statements, st₁, hst, hrest⟩ := Program.run_bind_eq_ok.1 h
    obtain ⟨hstatements, rfl⟩ := Program.run_ofExcept_eq_ok.1 hst
    obtain ⟨k, st₂, hask, hdone⟩ := Program.run_bind_eq_ok.1 hrest
    obtain ⟨hn, rfl⟩ := Prod.mk.inj hdone
    rw [Program.run_ask] at hask
    obtain ⟨c, c', hc, hmap, rfl⟩ := Storage.on_eq_ok hask
    obtain ⟨⟨d, j⟩, hall, heq⟩ := Result.map_eq_ok_iff.1 hmap
    obtain ⟨-, rfl⟩ := Prod.mk.inj heq
    obtain ⟨os, hos⟩ := Connection.changeAll?_eq_ok hall
    exact ⟨by simpa using hempty, (Except.ok.inj hn).symm, statements, c, d, os, hstatements, hc,
      hos, rfl⟩

/-- **Records are written as one insertion of their rows.** -/
theorem writeMany_eq_ok {m : Moment} {replace : Bool} {records : List Record} {st st' : Storage}
    {n : Nat} (htable : st.table? s.table = some t)
    (h : (writeMany s m replace records).run Storage.engine st = (.ok n, st')) :
    ∃ rows t' k,
      List.Forall₂ (Values (presentColumns s (allWithDefaults s m records)))
        (allWithDefaults s m records) rows ∧
      Table.insertRows? replace (positions t (presentColumns s (allWithDefaults s m records))) t 0
        rows = .ok (t', k) ∧
      st'.table? s.table = some t' ∧
      ∀ name, ¬ sameName s.table name → st'.table? name = st.table? name := by
  obtain ⟨-, -, statements, c, c', os, hstatements, hc, hrun, rfl⟩ := writeMany_run_eq_ok h
  obtain ⟨hcolumns, rows, hrows, rfl⟩ := writeStatements_eq_ok_iff.1 hstatements
  rw [Storage.table?_of_opened hc] at htable
  have hnames : (presentColumns s (allWithDefaults s m records)).map Column.name ≠ [] := by
    simpa using hcolumns
  -- the statements insert the parts of the rows, which make up the rows
  have hparts := flatten_chunks
    (rowsPerStatement_ne_zero (presentColumns s (allWithDefaults s m records)).length) rows
  rw [← Function.comp_def, ← List.map_map] at hrun
  obtain ⟨t', k', hinsert, htable', hothers⟩ := Database.runAll?_inserts hnames htable hrun
  refine ⟨rows, t', k', hrows, ?_, htable', fun name hname => ?_⟩
  · rw [← List.map_flatten, hparts, value_bound, List.map_map] at hinsert
    exact hinsert
  · rw [Storage.table?_keep, hothers name hname, Storage.table?_of_opened hc]

end Daybook.Store
