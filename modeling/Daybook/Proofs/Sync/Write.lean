import Daybook.Proofs.Sync.Portable

/-!
# Complete records

A record is complete if it has a value for every declared column. Nothing but a missing key is filled
in for it, and its row depends on no other record. So complete records with different keys go into
an empty table just if every one of them passes the checks of the columns
(**`run_writeMany_isOk_iff`**).

* `IsComplete`, `cellFor`, `Passes`;
* `HoldsRecord`, **`rows_of_writeMany`**: the rows of complete records.
-/

namespace Daybook.Sync

open Sql Store

variable {s : Schema} {record : Record}

/-- The record has a value for every declared column. -/
def IsComplete (s : Schema) (record : Record) : Prop :=
  ∀ c ∈ s.columns, record.contains c.name

/-- What a column stores for a record. -/
def cellFor (c : Column) (record : Record) : Cell :=
  c.toDef.affinity.store (Cell.ofJson ((record.get? c.name).getD .null))

/-- The columns take what they store for a record. -/
def Passes (s : Schema) (record : Record) : Prop :=
  ∀ c ∈ s.columns, (c.required → (cellFor c record).isNull = false) ∧
    Table.accepts c.toDef (cellFor c record)

/-! ## What is filled in -/

theorem withMissing_of_isComplete (h : IsComplete s record) (column : String) (v : Json) :
    withMissing s column v record = record := by
  rw [withMissing, if_neg]
  rw [Bool.and_eq_true, Bool.not_eq_true', not_and, Bool.not_eq_false]
  intro hcolumn
  obtain ⟨c, hc⟩ := Option.isSome_iff_exists.1 hcolumn
  have hsome := List.find?_some hc
  rw [decide_eq_true_eq] at hsome
  rw [← hsome]
  exact h c (List.mem_of_find?_eq_some hc)

theorem IsComplete.insert (h : IsComplete s record) (key : String) (v : Json) :
    IsComplete s (record.insert key v) := by
  intro c hc
  by_cases hkey : c.name = key
  · rw [hkey, KeyMap.contains, KeyMap.get?_insert_self]
    rfl
  · rw [KeyMap.contains, KeyMap.get?_insert_of_ne _ _ hkey]
    exact h c hc

/-- Only a missing key is filled in for a complete record. -/
theorem withDefaults_of_isComplete (h : IsComplete s record) {key : Column}
    (hkey : s.key? = some key) (htype : key.type = .text) (now fresh : String) :
    withDefaults s now fresh record =
      if isMissingKey (record.get? key.name) then record.insert key.name (.str fresh)
      else record := by
  have hcomplete : IsComplete s (withKey s fresh record) ∧ withKey s fresh record =
      if isMissingKey (record.get? key.name) then record.insert key.name (.str fresh)
      else record := by
    rw [withKey, hkey]
    dsimp only
    rw [htype]
    dsimp only
    split_ifs
    · exact ⟨h.insert _ _, rfl⟩
    · exact ⟨h, rfl⟩
  rw [withDefaults, withMissing_of_isComplete hcomplete.1, withMissing_of_isComplete hcomplete.1,
    withMissing_of_isComplete hcomplete.1, hcomplete.2]

/-! ## Keys -/

/-- The records have different texts as keys; if one is empty, none is one of the identifiers that
are made up at the time. -/
structure IsKeyed (key : Column) (m : Moment) (records : List Record) : Prop where
  text : ∀ record ∈ records, ∃ id, record.get? key.name = some (.str id)
  apart : records.Pairwise fun r r' => r.get? key.name ≠ r'.get? key.name
  fresh : (∃ record ∈ records, record.get? key.name = some (.str "")) →
    ∀ record ∈ records, ∀ i, record.get? key.name ≠ some (.str (m.freshId i))

theorem affinity_of_text {c : Column} (htype : c.type = .text) : c.toDef.affinity = .text := by
  rw [Column.toDef, ColumnDef.affinity]
  dsimp only
  rw [htype]
  rfl

/-- A column of texts stores a text as it is. -/
theorem cellFor_of_text {c : Column} (htype : c.type = .text) {x : String}
    (hx : record.get? c.name = some (.str x)) : cellFor c record = .text x := by
  rw [cellFor, hx, affinity_of_text htype]
  rfl

/-- The columns take a record with one key if they take it with another. -/
theorem passes_insert_key_iff (hs : s.Portable) {key : Column} (hkey : s.key? = some key)
    {id : String} (hid : record.get? key.name = some (.str id)) (fresh : String) :
    Passes s (record.insert key.name (.str fresh)) ↔ Passes s record := by
  refine forall₂_congr fun c hc => ?_
  obtain ⟨htype, -, hallowed, -⟩ := hs.of_key hkey
  by_cases hname : c.name = key.name
  · obtain rfl := List.inj_on_of_nodup_map hs.nodup_names hc (Schema.mem_key? hkey).1 hname
    have haccepts : ∀ v, Table.accepts c.toDef v := by
      intro v
      rw [Table.accepts, hallowed]
      rfl
    rw [cellFor_of_text htype hid, cellFor_of_text htype (KeyMap.get?_insert_self _ _ _)]
    exact iff_of_true ⟨fun _ => rfl, haccepts _⟩ ⟨fun _ => rfl, haccepts _⟩
  · rw [cellFor, cellFor, KeyMap.get?_insert_of_ne _ _ hname]

section Defaults

variable {key : Column} {m : Moment} {records : List Record}

theorem mem_allWithDefaults_iff {r : Record} : r ∈ allWithDefaults s m records ↔
    ∃ p ∈ records.zipIdx, withDefaults s m.now (m.freshId p.2) p.1 = r := by
  rw [allWithDefaults, List.mem_map]

/-- What is filled in leaves different texts as keys, and changes nothing else. -/
theorem withDefaults_of_isKeyed (hs : s.Portable) (hkey : s.key? = some key)
    (hcomplete : ∀ record ∈ records, IsComplete s record) (hkeyed : IsKeyed key m records)
    {p : Record × Nat} (hp : p ∈ records.zipIdx) :
    IsComplete s (withDefaults s m.now (m.freshId p.2) p.1) ∧
      (Passes s (withDefaults s m.now (m.freshId p.2) p.1) ↔ Passes s p.1) ∧
      ∃ id, p.1.get? key.name = some (.str id) ∧
        (withDefaults s m.now (m.freshId p.2) p.1).get? key.name =
          some (.str (if id = "" then m.freshId p.2 else id)) := by
  obtain ⟨htype, -⟩ := hs.of_key hkey
  have hmem : p.1 ∈ records := by
    have hfst := List.mem_map_of_mem (f := Prod.fst) hp
    rwa [List.zipIdx_map_fst] at hfst
  obtain ⟨id, hid⟩ := hkeyed.text p.1 hmem
  rw [withDefaults_of_isComplete (hcomplete _ hmem) hkey htype, hid]
  by_cases hempty : id = ""
  · rw [if_pos (by rw [hempty]; rfl)]
    refine ⟨(hcomplete _ hmem).insert _ _, passes_insert_key_iff hs hkey hid _, id, rfl, ?_⟩
    rw [KeyMap.get?_insert_self, if_pos hempty]
  · rw [if_neg (by simpa [isMissingKey] using hempty)]
    exact ⟨hcomplete _ hmem, Iff.rfl, id, rfl, by rw [hid, if_neg hempty]⟩

theorem apart_allWithDefaults (hs : s.Portable) (hkey : s.key? = some key)
    (hcomplete : ∀ record ∈ records, IsComplete s record) (hkeyed : IsKeyed key m records) :
    (allWithDefaults s m records).Pairwise fun r r' => r.get? key.name ≠ r'.get? key.name := by
  have hpairs : records.zipIdx.Pairwise fun p q => p.1.get? key.name ≠ q.1.get? key.name := by
    have hapart := hkeyed.apart
    rw [← List.zipIdx_map_fst 0 records, List.pairwise_map] at hapart
    exact hapart
  have hmem : ∀ p ∈ records.zipIdx, p.1 ∈ records := by
    intro p hp
    have hfst := List.mem_map_of_mem (f := Prod.fst) hp
    rwa [List.zipIdx_map_fst] at hfst
  have hfresh : ∀ p ∈ records.zipIdx, ∀ q ∈ records.zipIdx, p.1.get? key.name = some (.str "") →
      ∀ i, q.1.get? key.name ≠ some (.str (m.freshId i)) := fun p hp q hq hempty =>
    hkeyed.fresh ⟨p.1, hmem p hp, hempty⟩ q.1 (hmem q hq)
  rw [allWithDefaults, List.pairwise_map]
  refine hpairs.imp_of_mem fun {p q} hp hq hne => ?_
  obtain ⟨-, -, x, hx, hx'⟩ := withDefaults_of_isKeyed hs hkey hcomplete hkeyed hp
  obtain ⟨-, -, y, hy, hy'⟩ := withDefaults_of_isKeyed hs hkey hcomplete hkeyed hq
  rw [hx, hy, ne_eq, Option.some.injEq, Json.str.injEq] at hne
  rw [hx', hy', ne_eq, Option.some.injEq, Json.str.injEq]
  split_ifs with hxe hye hye
  · exact absurd (hxe.trans hye.symm) hne
  · exact fun h => hfresh p hp q hq (by rw [hx, hxe]) p.2 (by rw [hy, h])
  · exact fun h => hfresh q hq p hp (by rw [hy, hye]) q.2 (by rw [hx, h])
  · exact hne

end Defaults

/-! ## Rows of complete records -/

section Batch

variable {batch : List Record}

theorem valueOf_of_noBlobs (hs : NoBlobs s) {c : Column} (hc : c ∈ s.columns) (record : Record) :
    valueOf c record = .ok (Cell.ofJson ((record.get? c.name).getD .null)) := by
  rw [valueOf]
  cases record.get? c.name with
  | none => rfl
  | some v => exact cell_of_ne_blob (hs c hc) v

theorem exists_values (hs : NoBlobs s) {columns : List Column}
    (hsub : ∀ c ∈ columns, c ∈ s.columns) (record : Record) :
    ∃ values, Values columns record values := by
  induction columns with
  | nil => exact ⟨[], .nil⟩
  | cons c rest ih =>
    obtain ⟨values, hvalues⟩ := ih fun d hd => hsub d (List.mem_cons_of_mem _ hd)
    exact ⟨_, .cons (valueOf_of_noBlobs hs (hsub c List.mem_cons_self) record) hvalues⟩

theorem exists_rows (hs : NoBlobs s) {columns : List Column}
    (hsub : ∀ c ∈ columns, c ∈ s.columns) (records : List Record) :
    ∃ rows, List.Forall₂ (Values columns) records rows := by
  induction records with
  | nil => exact ⟨[], .nil⟩
  | cons record rest ih =>
    obtain ⟨rows, hrows⟩ := ih
    obtain ⟨values, hvalues⟩ := exists_values hs hsub record
    exact ⟨values :: rows, .cons hvalues hrows⟩

/-- A column stores for a complete record what its own value gives. -/
theorem storedFor_of_isComplete (hs : s.Portable) (hrecord : record ∈ batch)
    (h : IsComplete s record) {c : Column} (hc : c ∈ s.columns) :
    storedFor false batch record c = cellFor c record := by
  have hpresent : batch.any fun r => r.contains c.name :=
    List.any_eq_true.2 ⟨record, hrecord, h c hc⟩
  rw [storedFor, hs.isNumberColumn_eq_false hc, if_neg Bool.false_ne_true, given, if_pos hpresent,
    valueOf_of_noBlobs hs.noBlobs hc, Table.storedCell]
  rfl

end Batch

/-! ## Statements for records -/

/-- The statements that write records have no fault in their text. -/
theorem insert_clash? (hs : s.Portable) {columns : List Column}
    (hsub : ∀ c ∈ columns, c ∈ s.columns) (hnarrow : columns.length ≤ maxMarks) (replace : Bool)
    {part : List (List Cell)} (hlength : part.length ≤ rowsPerStatement columns.length)
    (hwidth : ∀ values ∈ part, values.length = columns.length) :
    (Statement.insert replace s.table (columns.map Column.name)
      (part.map (·.map .bound))).clash? = none := by
  have hmarks : (Statement.insert replace s.table (columns.map Column.name)
      (part.map (·.map .bound))).params.length ≤ maxMarks := by
    rw [params_insert, length_flatten_of_width hwidth]
    refine (Nat.mul_le_mul_right _ hlength).trans ?_
    rw [rowsPerStatement]
    rcases Nat.le_total 1 (maxBound / columns.length) with hmany | hone
    · rw [Nat.max_eq_right hmany]
      exact (Nat.div_mul_le_self _ _).trans (by decide)
    · rw [Nat.max_eq_left hone, Nat.one_mul]
      exact hnarrow
  rw [Statement.clash?, if_neg (Nat.not_lt.2 hmarks)]
  show firstFault? ((s.table :: columns.map Column.name).map nameClash?) = none
  rw [firstFault?, List.findSome?_eq_none_iff]
  intro fault hfault
  obtain ⟨word, hword, rfl⟩ := List.mem_map.1 hfault
  rcases List.mem_cons.1 hword with rfl | hword
  · exact hs.tableWord
  · obtain ⟨c, hc, rfl⟩ := List.mem_map.1 hword
    exact hs.columnWords c (hsub c hc)

variable {st : Storage} {c : Connection} {t t' : Table}

/-- Records are written if their rows can be inserted. -/
theorem run_writeMany_of_insertRows? (hs : s.Portable) (hc : st.opened = .ok c)
    (ht : c.database.table? s.table = some t) (hmade : t.MadeFor s) {m : Moment} {replace : Bool}
    {records : List Record} (hrecords : records ≠ [])
    (hpresent : presentColumns s (allWithDefaults s m records) ≠ []) {rows : List (List Cell)}
    (hrows : List.Forall₂ (Values (presentColumns s (allWithDefaults s m records)))
      (allWithDefaults s m records) rows) {k : Int}
    (h : Table.insertRows? replace (positions t (presentColumns s (allWithDefaults s m records)))
      t 0 rows = .ok (t', k)) :
    ∃ n st', (writeMany s m replace records).run Storage.engine st = (.ok n, st') := by
  have hinsert : Table.insertRows? replace
      (((presentColumns s (allWithDefaults s m records)).map Column.name).map t.position?) t 0
      (((chunks (rowsPerStatement (presentColumns s (allWithDefaults s m records)).length)
        rows).map (·.map (·.map .bound))).flatten.map (·.map Operand.value)) = .ok (t', k) := by
    rw [← List.map_flatten, flatten_chunks (rowsPerStatement_ne_zero _), value_bound, List.map_map]
    exact h
  have hnarrow : (presentColumns s (allWithDefaults s m records)).length ≤ maxMarks :=
    (List.length_filter_le _ _).trans hs.narrow
  have hpositions : ∀ name ∈ (presentColumns s (allWithDefaults s m records)).map Column.name,
      (t.position? name).isSome := by
    intro name hname
    obtain ⟨d, hd, rfl⟩ := List.mem_map.1 hname
    obtain ⟨i, hi, -⟩ := hmade.exists_position? (subset_presentColumns d hd)
    rw [hi]
    rfl
  obtain ⟨db', os, hrun⟩ := Database.runAll?_of_insertRows? hs.notCatalog ht
    (by simpa using hpresent) hpositions
    (List.forall_mem_map.2 fun part hpart => List.forall_mem_map.2 fun values hvalues => by
      rw [List.length_map, List.length_map, (fits_of_mem_chunks hrows hpart).2 values hvalues])
    (List.forall_mem_map.2 fun part hpart =>
      insert_clash? hs subset_presentColumns hnarrow replace (fits_of_mem_chunks hrows hpart).1
        (fits_of_mem_chunks hrows hpart).2) hinsert
  rw [List.map_map, Function.comp_def] at hrun
  obtain ⟨c', n, hall, -⟩ :=
    Connection.changeAll?_of_runAll? (by simp [Statement.IsChange]) hrun 0
  refine ⟨records.length, st.keep c', ?_⟩
  rw [writeMany, if_neg (by simpa using hrecords)]
  refine Program.run_bind_eq_ok.2
    ⟨_, st, Program.run_ofExcept_eq_ok.2
      ⟨writeStatements_eq_ok_iff.2 ⟨hpresent, rows, hrows, rfl⟩, rfl⟩,
      Program.run_bind_eq_ok.2 ⟨n, _, ?_, rfl⟩⟩
  refine (Program.run_ask _).trans (Storage.on_of_eq_ok hc ?_)
  rw [hall]
  rfl

/-! ## Writing complete records -/

section Write

variable {key : Column} {m : Moment} {records : List Record}

/-- The cells of the row of a complete record. -/
theorem cellOf_newRow_of_isComplete (hs : s.Portable) (hmade : t.MadeFor s) {batch : List Record}
    (hrecord : record ∈ batch) (hcomplete : IsComplete s record) {values : List Cell}
    (hvalues : Values (presentColumns s batch) record values) {c : Column} (hc : c ∈ s.columns)
    (id : Int) :
    t.cellOf (t.newRow false (positions t (presentColumns s batch)) values id).cells c.name =
      cellFor c record := by
  rw [cellOf_newRow hmade hvalues hc (hs.isNumberColumn_eq_false hc),
    storedFor_of_isComplete hs hrecord hcomplete hc]

/-- The row of a complete record passes the checks of a table if the record does. -/
theorem cellFault?_newRow_iff (hs : s.Portable) (hmade : t.MadeFor s) {batch : List Record}
    (hrecord : record ∈ batch) (hcomplete : IsComplete s record) {values : List Cell}
    (hvalues : Values (presentColumns s batch) record values) (id : Int) :
    t.cellFault? (fun _ => true)
      (t.newRow false (positions t (presentColumns s batch)) values id).cells = none ↔
        Passes s record := by
  have hwidth := Table.length_newCells t false
    (Table.givenBy (positions t (presentColumns s batch)) values) id
  rw [Table.newRow, hmade.cellFault?_eq_none_iff hwidth]
  refine forall₂_congr fun c hc => ?_
  have hcell := cellOf_newRow_of_isComplete hs hmade hrecord hcomplete hvalues hc id
  rw [Table.newRow] at hcell
  rw [hcell, hs.isNumberColumn_eq_false hc]
  simp only [Bool.false_eq_true, imp_false, Bool.not_eq_true]

/-- The row of a record asks for no number. -/
theorem numberBy_eq_none (hs : s.Portable) (hmade : t.MadeFor s) {batch : List Record}
    {values : List Cell} (hvalues : Values (presentColumns s batch) record values) :
    t.numberBy (positions t (presentColumns s batch)) values = none := by
  rw [Option.eq_none_iff_forall_ne_some]
  intro v hsome
  obtain ⟨c, hc, hnumber, -⟩ := (numberBy_eq_some_iff hmade hvalues v).1 hsome
  rw [hs.isNumberColumn_eq_false hc] at hnumber
  exact Bool.false_ne_true hnumber

/-- Rows of complete records with different keys that pass the checks go into an empty table. -/
theorem exists_insertRows?_of_passes (hs : s.Portable) (hserves : t.Serves s)
    (hempty : t.rows = []) (hkey : s.key? = some key) {batch : List Record}
    (hbatch : ∀ r ∈ batch, IsComplete s r ∧ ∃ id, r.get? key.name = some (.str id))
    (hapart : batch.Pairwise fun r r' => r.get? key.name ≠ r'.get? key.name)
    (hpasses : ∀ r ∈ batch, Passes s r) {rows : List (List Cell)}
    (hrows : List.Forall₂ (Values (presentColumns s batch)) batch rows) :
    ∃ t' k, Table.insertRows? false (positions t (presentColumns s batch)) t 0 rows =
      .ok (t', k) := by
  obtain ⟨htype, -⟩ := hs.of_key hkey
  have hsource := (Result.exists_of_forall₂ hrows).1
  have hnumber : ∀ values ∈ rows,
      t.numberBy (positions t (presentColumns s batch)) values = none := by
    intro values hvalues
    obtain ⟨r, -, hv⟩ := hsource values hvalues
    exact numberBy_eq_none hs hserves.made hv
  have hfault : ∀ values ∈ rows, ∀ id, t.cellFault? (fun _ => true)
      (t.newRow false (positions t (presentColumns s batch)) values id).cells = none := by
    intro values hvalues id
    obtain ⟨r, hr, hv⟩ := hsource values hvalues
    exact (cellFault?_newRow_iff hs hserves.made hr (hbatch r hr).1 hv id).2 (hpasses r hr)
  have hold : ∀ values ∈ rows, ∀ r ∈ t.rows, ∀ id, t.collides r.cells
      (t.newRow false (positions t (presentColumns s batch)) values id).cells = false := by
    intro values _ r hr
    rw [hempty] at hr
    exact absurd hr List.not_mem_nil
  have hboth : batch.Pairwise fun r r' =>
      r ∈ batch ∧ r' ∈ batch ∧ r.get? key.name ≠ r'.get? key.name :=
    hapart.imp_of_mem fun hr hr' hne => ⟨hr, hr', hne⟩
  have hpair : rows.Pairwise fun v w => ∀ i j, t.collides
      (t.newRow false (positions t (presentColumns s batch)) v i).cells
      (t.newRow false (positions t (presentColumns s batch)) w j).cells = false := by
    refine Result.pairwise_of_forall₂ hrows hboth fun r r' v w hv hw ⟨hr, hr', hne⟩ i j => ?_
    rw [← Bool.not_eq_true, hserves.made.collides_iff_meets]
    rintro ⟨d, hd, -, hdistinct, hmeets⟩
    -- a distinct column is the key, and the keys are different texts
    have hprimary : d.primaryKey := (hserves.distinct d hd hdistinct).resolve_right
      (by rw [hs.noOtherKeys d hd]; exact Bool.false_ne_true)
    obtain rfl := Option.some.inj
      (((Schema.key?_eq_some_iff hs.valid hd).2 hprimary).symm.trans hkey)
    obtain ⟨x, hx⟩ := (hbatch r hr).2
    obtain ⟨y, hy⟩ := (hbatch r' hr').2
    rw [cellOf_newRow_of_isComplete hs hserves.made hr (hbatch r hr).1 hv hd,
      cellOf_newRow_of_isComplete hs hserves.made hr' (hbatch r' hr').1 hw hd,
      cellFor_of_text htype hx, cellFor_of_text htype hy, Cell.meets_text_iff] at hmeets
    exact hne (by rw [hx, hy, hmeets])
  exact hserves.sound.exists_insertRows? hnumber hfault hold hpair

/-- **Complete records with different keys go into an empty table just if each passes the checks of
the columns.** -/
theorem run_writeMany_isOk_iff (hs : s.Portable) (hc : st.opened = .ok c)
    (ht : c.database.table? s.table = some t) (hserves : t.Serves s) (hempty : t.rows = [])
    (hrecords : records ≠ []) (hcomplete : ∀ record ∈ records, IsComplete s record)
    (hkey : s.key? = some key) (hkeyed : IsKeyed key m records) :
    (∃ n st', (writeMany s m false records).run Storage.engine st = (.ok n, st')) ↔
      ∀ record ∈ records, Passes s record := by
  have hdefaults := fun p hp => withDefaults_of_isKeyed hs hkey hcomplete hkeyed (p := p) hp
  have hbatch : ∀ r ∈ allWithDefaults s m records, IsComplete s r ∧
      ∃ id, r.get? key.name = some (.str id) := by
    intro r hr
    obtain ⟨p, hp, rfl⟩ := mem_allWithDefaults_iff.1 hr
    obtain ⟨hcomp, -, id, -, hid⟩ := hdefaults p hp
    exact ⟨hcomp, _, hid⟩
  have hpasses : (∀ r ∈ allWithDefaults s m records, Passes s r) ↔
      ∀ record ∈ records, Passes s record := by
    constructor
    · intro hall record hrecord
      rw [← List.zipIdx_map_fst 0 records] at hrecord
      obtain ⟨p, hp, rfl⟩ := List.mem_map.1 hrecord
      exact (hdefaults p hp).2.1.1 (hall _ (mem_allWithDefaults_iff.2 ⟨p, hp, rfl⟩))
    · intro hall r hr
      obtain ⟨p, hp, rfl⟩ := mem_allWithDefaults_iff.1 hr
      refine (hdefaults p hp).2.1.2 (hall _ ?_)
      rw [← List.zipIdx_map_fst 0 records]
      exact List.mem_map_of_mem hp
  rw [← hpasses]
  constructor
  · rintro ⟨n, st', hrun⟩ r hr
    have htable : st.table? s.table = some t := by rw [Storage.table?, hc, ← ht]
    obtain ⟨rows, t', k, hrows, hinsert, -, -⟩ := writeMany_eq_ok htable hrun
    obtain ⟨values, hmem, hvalues⟩ := (Result.exists_of_forall₂ hrows).2 r hr
    obtain ⟨id, hfault⟩ := hserves.sound.cellFault?_of_insertRows? hinsert hmem
    exact (cellFault?_newRow_iff hs hserves.made hr (hbatch r hr).1 hvalues id).1 hfault
  · intro hall
    obtain ⟨rows, hrows⟩ : ∃ rows, List.Forall₂
        (Values (presentColumns s (allWithDefaults s m records)))
        (allWithDefaults s m records) rows := exists_rows hs.noBlobs subset_presentColumns _
    obtain ⟨t', k, hinsert⟩ := exists_insertRows?_of_passes hs hserves hempty hkey hbatch
      (apart_allWithDefaults hs hkey hcomplete hkeyed) hall hrows
    refine run_writeMany_of_insertRows? hs hc ht hserves.made hrecords ?_ hrows hinsert
    -- the key is one of the columns
    have hlength : (allWithDefaults s m records).length = records.length := by
      rw [allWithDefaults, List.length_map, List.length_zipIdx]
    have hne : allWithDefaults s m records ≠ [] := by
      rw [← List.length_pos_iff, hlength]
      exact List.length_pos_iff.2 hrecords
    obtain ⟨r, hr⟩ := List.exists_mem_of_ne_nil _ hne
    have hpresent : key ∈ presentColumns s (allWithDefaults s m records) :=
      mem_presentColumns_iff.2 ⟨(Schema.mem_key? hkey).1,
        List.any_eq_true.2 ⟨r, hr, (hbatch r hr).1 key (Schema.mem_key? hkey).1⟩⟩
    exact List.ne_nil_of_mem hpresent

/-- Nothing is filled in for complete records with keys. -/
theorem allWithDefaults_of_isComplete (hs : s.Portable) (hkey : s.key? = some key)
    (hrecords : ∀ record ∈ records,
      IsComplete s record ∧ isMissingKey (record.get? key.name) = false) (m : Moment) :
    allWithDefaults s m records = records := by
  obtain ⟨htype, -⟩ := hs.of_key hkey
  have hsame : ∀ p ∈ records.zipIdx, withDefaults s m.now (m.freshId p.2) p.1 = p.1 := by
    intro p hp
    have hfst := List.mem_map_of_mem (f := Prod.fst) hp
    rw [List.zipIdx_map_fst] at hfst
    obtain ⟨hcomplete, hnamed⟩ := hrecords p.1 hfst
    rw [withDefaults_of_isComplete hcomplete hkey htype, hnamed, if_neg Bool.false_ne_true]
  rw [allWithDefaults]
  exact (List.map_congr_left hsame).trans (List.zipIdx_map_fst 0 records)

/-- The row has in every declared column what the column stores for the record. -/
def HoldsRecord (s : Schema) (t : Table) (record : Record) (r : Row) : Prop :=
  ∀ c ∈ s.columns, t.cellOf r.cells c.name = cellFor c record

/-- **Complete records with keys that are written into an empty table are its rows then**, in their
order. -/
theorem rows_of_writeMany (hs : s.Portable) (ht : st.table? s.table = some t) (hserves : t.Serves s)
    (hempty : t.rows = []) (hkey : s.key? = some key)
    (hrecords : ∀ record ∈ records,
      IsComplete s record ∧ isMissingKey (record.get? key.name) = false) {n : Nat} {st' : Storage}
    (hrun : (writeMany s m false records).run Storage.engine st = (.ok n, st')) :
    ∃ t', st'.table? s.table = some t' ∧ t'.Serves s ∧
      List.Forall₂ (HoldsRecord s t') records t'.rows := by
  obtain ⟨rows, t', k, hrows, hinsert, htable, -⟩ := writeMany_eq_ok ht hrun
  rw [allWithDefaults_of_isComplete hs hkey hrecords] at hrows hinsert
  have hnumber : ∀ values ∈ rows,
      t.numberBy (positions t (presentColumns s records)) values = none := by
    intro values hvalues
    obtain ⟨record, -, hv⟩ := (Result.exists_of_forall₂ hrows).1 values hvalues
    exact numberBy_eq_none hs hserves.made hv
  obtain ⟨added, hadded, hall⟩ :=
    hserves.sound.rows_insertRows? (by rw [hempty]; trivial) hnumber hinsert
  rw [hempty, List.nil_append] at hadded
  obtain ⟨hsound, halike⟩ := hserves.sound.insertRows? hinsert
  have hserves' := hserves.change halike hsound
  obtain ⟨us, rfl⟩ := halike
  obtain rfl : us = added := hadded
  have hmem : List.Forall₂ (fun record values => record ∈ records ∧
      Values (presentColumns s records) record values) records rows :=
    (List.forall₂_and_left _ _).2 ⟨fun _ h => h, hrows⟩
  refine ⟨_, htable, hserves', Result.forall₂_trans hmem hall ?_⟩
  rintro record values r ⟨hrecord, hvalues⟩ ⟨id, rfl⟩ c hc
  exact cellOf_newRow_of_isComplete hs hserves.made hrecord (hrecords record hrecord).1 hvalues hc id

end Write

end Daybook.Sync
