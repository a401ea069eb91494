import Daybook.Proofs.Migration.Create
import Daybook.Proofs.Sql.Scan
import Daybook.Proofs.Store.Required
import Daybook.Proofs.Store.Run

/-!
# Changes of a single record

A change of the first record that is asked for touches the first row that a scan finds, and with it
every row that has the same `rowid` (**`single_touches`**). As long as `rowid` is the number of the
row, that is the row alone, and it is there just if a query with the same filter finds something. A
column of the name `rowid` hides the number, and then several rows may go at once
(**`not_forall_single_le_one`**).

* `Single`, `Single.Becomes`: the changes of a single record, and what they leave of a table;
* `Single.exists_ran`: how such a change runs.
-/

namespace Daybook.Store

open Sql Sql.Table

/-! ## Texts of changes and queries -/

/-- A query has no fault in its text if the change under its conditions has none. -/
theorem select_clash? {s : Schema} {target : Target} {st : Statement}
    (hst : (∃ set, st = .update s.table set target) ∨ st = .delete s.table target)
    (h : st.clash? = none) :
    (Statement.select (allColumns s target.conditions (.page [] none none))).clash? = none := by
  have hparts : (Condition.paramsList target.conditions).length ≤ maxMarks ∧
      nameClash? s.table = none ∧ whereClash? target.conditions = none := by
    obtain ⟨set, rfl⟩ | rfl := hst
    · rw [Statement.clash?] at h
      split_ifs at h with hmarks
      rw [Statement.params, List.length_append, not_lt] at hmarks
      rw [firstFault?, List.findSome?_eq_none_iff] at h
      refine ⟨by omega, h (nameClash? s.table) ?_, h (whereClash? target.conditions) ?_⟩ <;> simp
    · rw [Statement.clash?] at h
      split_ifs at h with hmarks
      rw [Option.or_eq_none_iff] at h
      exact ⟨not_lt.1 hmarks, h⟩
  obtain ⟨hmarks, htable, hwhere⟩ := hparts
  rw [clash?_allColumns htable hmarks, hwhere]

/-! ## Changes of a single record -/

/-- A change of a single record. -/
inductive Single where
  | updateOne (m : Moment) (f : Filter) (patch : Record)
  | deleteOne (f : Filter)
  | deleteById (id : String)

namespace Single

/-- The program of a change. -/
def program (s : Schema) : Single → Program Nat
  | updateOne m f patch => Store.updateOne s m f patch
  | deleteOne f => Store.deleteOne s f
  | deleteById id => Store.deleteById s id

/-- The filter of a change under one. -/
def filter? : Single → Option Filter
  | updateOne _ f _ => some f
  | deleteOne f => some f
  | deleteById _ => none

/-- What the rows that a change touches become: an update assigns to them, a deletion leaves none. -/
def Leaves (s : Schema) (t : Table) (touched changed : List Row) : Single → Prop
  | updateOne m _ patch => ∃ set, assignments s m patch = .ok set ∧
      List.Forall₂ (t.ChangesTo set) touched changed
  | deleteOne _ => changed = []
  | deleteById _ => changed = []

variable {s : Schema} {st st' : Storage} {n : Nat}

/-- **A change of a single record is a statement about the first row under conditions**, those of
its filter if it has one. -/
theorem run_program_eq_ok {op : Single}
    (h : (op.program s).run Storage.engine st = (.ok n, st')) :
    ∃ conditions, (∀ f, op.filter? = some f → f.compile = .ok conditions) ∧
      ((∃ m f patch set, op = updateOne m f patch ∧ assignments s m patch = .ok set ∧
        (change (.update s.table set (.first conditions))).run Storage.engine st = (.ok n, st')) ∨
      ((∀ t touched, op.Leaves s t touched []) ∧
        (change (.delete s.table (.first conditions))).run Storage.engine st = (.ok n, st'))) := by
  cases op with
  | updateOne m f patch =>
    rw [program, Store.updateOne] at h
    simp only [Program.bind_eq] at h
    obtain ⟨conditions, st₁, hread, hrest⟩ := Program.run_bind_eq_ok.1 h
    obtain ⟨hconditions, rfl⟩ := Program.run_ofExcept_eq_ok.1 hread
    obtain ⟨set, st₂, hassign, hchange⟩ := Program.run_bind_eq_ok.1 hrest
    obtain ⟨hset, rfl⟩ := Program.run_ofExcept_eq_ok.1 hassign
    refine ⟨conditions, fun f' hf => ?_, .inl ⟨m, f, patch, set, rfl, hset, hchange⟩⟩
    rw [← Option.some.inj hf]
    exact (requiredConditions_eq_ok.1 hconditions).2
  | deleteOne f =>
    rw [program, Store.deleteOne] at h
    simp only [Program.bind_eq] at h
    obtain ⟨conditions, st₁, hread, hchange⟩ := Program.run_bind_eq_ok.1 h
    obtain ⟨hconditions, rfl⟩ := Program.run_ofExcept_eq_ok.1 hread
    refine ⟨conditions, fun f' hf => ?_, .inr ⟨fun _ _ => rfl, hchange⟩⟩
    rw [← Option.some.inj hf]
    exact (requiredConditions_eq_ok.1 hconditions).2
  | deleteById id =>
    rw [program, Store.deleteById] at h
    simp only [Program.bind_eq] at h
    split_ifs at h
    · cases h
    · obtain ⟨key, st₁, hread, hchange⟩ := Program.run_bind_eq_ok.1 h
      obtain ⟨-, rfl⟩ := Program.run_ofExcept_eq_ok.1 hread
      refine ⟨[idCondition key id], fun f hf => ?_, .inr ⟨fun _ _ => rfl, hchange⟩⟩
      cases hf

/-! ### The table afterwards -/

/-- A table after a change of some rows. -/
def Becomes (op : Single) (s : Schema) (t t' : Table) (rows : List Row) : Prop :=
  t.Alike t' ∧ ∃ changed, op.Leaves s t rows changed ∧
    t'.rows.Perm ((t.deleteRows rows).rows ++ changed)

/-- A run of a change: it looks at a table, takes the rows of the first row under conditions, and
puts a table in place that has them changed. -/
structure Ran (op : Single) (s : Schema) (st st' : Storage) (n : Nat)
    (conditions : List Condition) (c : Connection) (t t' : Table) (rows : List Row) : Prop where
  compiled : ∀ f, op.filter? = some f → f.compile = .ok conditions
  opened : st.opened = .ok c
  catalog : Database.isCatalogName s.table = false
  select : (Statement.select (allColumns s conditions (.page [] none none))).clash? = none
  table : c.database.table? s.table = some t
  known : t.unknownName? (Condition.fieldsList conditions) = none
  target : Database.targetRows? t (.first conditions) = .ok rows
  count : n = rows.length
  becomes : t.Sound → op.Becomes s t t' rows
  state : st' = st.keep ⟨c.database.replaceTable t', n, c.lastRow⟩

/-- **How a change of a single record runs.** -/
theorem exists_ran {op : Single} (h : (op.program s).run Storage.engine st = (.ok n, st')) :
    ∃ conditions c t t' rows, op.Ran s st st' n conditions c t t' rows := by
  obtain ⟨conditions, hcompiled, ⟨m, f, patch, set, rfl, hset, h⟩ | ⟨hleaves, h⟩⟩ :=
    run_program_eq_ok h
  · obtain ⟨c, db, hc, hrun, hst⟩ := run_change_eq_ok (.inl ⟨set, rfl⟩) h
    obtain ⟨hclash, hperform⟩ := Database.run?_eq_ok hrun
    obtain ⟨⟨d, k⟩, hupdate, heq⟩ := Result.map_eq_ok_iff.1 hperform
    obtain ⟨rfl, hk⟩ := Prod.mk.inj heq
    obtain ⟨rfl, -⟩ := Outcome.changed.inj hk
    obtain ⟨t, rows, t', hcatalog, ht, -, hknown, hrows, ht', rfl, hn⟩ :=
      Database.update?_eq_ok_iff.1 hupdate
    refine ⟨conditions, c, t, t', rows, hcompiled, hc, hcatalog,
      select_clash? (.inl ⟨set, rfl⟩) hclash, ht, hknown, hrows, hn, fun hsound => ?_, hst⟩
    have hsub := Database.sublist_targetRows? hrows
    obtain ⟨changed, hchanged, hperm⟩ := hsound.rows_updateRows? (fun r hr => hsub.subset hr)
      (hsound.ascending.sublist hsub) ht'
    exact ⟨alike_updateRows? ht', changed, ⟨set, hset, hchanged⟩, hperm⟩
  · obtain ⟨c, db, hc, hrun, hst⟩ := run_change_eq_ok (.inr rfl) h
    obtain ⟨hclash, hperform⟩ := Database.run?_eq_ok hrun
    obtain ⟨⟨d, k⟩, hdelete, heq⟩ := Result.map_eq_ok_iff.1 hperform
    obtain ⟨rfl, hk⟩ := Prod.mk.inj heq
    obtain ⟨rfl, -⟩ := Outcome.changed.inj hk
    obtain ⟨t, rows, hcatalog, ht, hknown, hrows, rfl, hn⟩ := Database.delete?_eq_ok_iff.1 hdelete
    refine ⟨conditions, c, t, _, rows, hcompiled, hc, hcatalog,
      select_clash? (.inr rfl) hclash, ht, hknown, hrows, hn, fun hsound => ?_, hst⟩
    refine ⟨(hsound.deleteRows rows).2, [], hleaves t rows, ?_⟩
    rw [List.append_nil]

variable {conditions : List Condition} {c : Connection} {t t' : Table} {rows : List Row}
  {op : Single}

/-- The first row that a change asks for. -/
def first (t : Table) (conditions : List Condition) : Option Row :=
  t.rows.find? fun r => Condition.allHold t r conditions

theorem mem_of_mem_first {r : Row} (h : r ∈ first t conditions) : r ∈ t.rows :=
  List.mem_of_find?_eq_some h

theorem allHold_of_mem_first {r : Row} (h : r ∈ first t conditions) :
    Condition.allHold t r conditions :=
  List.find?_some (p := fun r => Condition.allHold t r conditions) h

theorem Ran.rows_eq (h : op.Ran s st st' n conditions c t t' rows) (ht : t.Sound) :
    rows = t.touched (first t conditions) :=
  Database.targetRows?_first ht h.target

/-- The table of the schema changes, and no other. -/
theorem Ran.table?_eq (h : op.Ran s st st' n conditions c t t' rows) (ht : t.Sound) :
    st'.table? s.table = some t' ∧
      ∀ name, ¬ sameName s.table name → st'.table? name = st.table? name := by
  obtain ⟨rows, rfl⟩ := (h.becomes ht).1
  rw [h.state]
  exact Storage.table?_keep_replaceTable h.opened h.table rfl

/-- **What a query with the filter of a change finds.** -/
theorem Ran.find_eq_ok_iff (h : op.Ran s st st' n conditions c t t' rows) {f : Filter}
    (hf : op.filter? = some f) {found : List Record} :
    ((find s f).run Storage.engine st).1 = .ok found ↔
      ∃ all, t.scan? conditions none = .ok all ∧
        found = (Database.metOrder t conditions [] all).map t.record := by
  rw [find, h.compiled f hf]
  show ((query (allColumns s conditions (.page [] none none))).run Storage.engine st).1 = _ ↔ _
  rw [run_query_eq_ok_iff h.opened h.select, allColumns, Database.select?_eq_ok_iff h.catalog]
  constructor
  · rintro ⟨u, all, hu, -, hall, rfl⟩
    obtain rfl : t = u := Option.some.inj (h.table.symm.trans hu)
    exact ⟨all, hall, rfl⟩
  · rintro ⟨all, hall, rfl⟩
    exact ⟨t, all, h.table, h.known, hall, rfl⟩

/-- There is no first row just if the query finds nothing. -/
theorem Ran.first_eq_none_iff (h : op.Ran s st st' n conditions c t t' rows) {f : Filter}
    (hf : op.filter? = some f) :
    first t conditions = none ↔ ((find s f).run Storage.engine st).1 = .ok [] := by
  obtain ⟨one, hone, -⟩ := Result.bind_eq_ok_iff.1 h.target
  rw [h.find_eq_ok_iff hf]
  constructor
  · intro hnone
    rw [scanRows?_one hone, ← first, hnone] at hone
    exact ⟨[], scanRows?_none_of_one hone, by
      rw [(Database.perm_metOrder t conditions [] []).eq_nil, List.map_nil]⟩
  · rintro ⟨all, hall, hnil⟩
    have hempty : all = [] := by
      have hmet := List.map_eq_nil_iff.1 hnil.symm
      exact (hmet ▸ Database.perm_metOrder t conditions [] all).nil_eq.symm
    rw [hempty] at hall
    have hfilter := (scanRows?_none_iff.1 hall).2
    rw [first, List.find?_eq_none]
    exact fun r hr => List.filter_eq_nil_iff.1 hfilter.symm r hr

/-- The first row is one of those that the query finds. -/
theorem Ran.exists_found (h : op.Ran s st st' n conditions c t t' rows) {f : Filter}
    (hf : op.filter? = some f) {found : List Record}
    (hfind : ((find s f).run Storage.engine st).1 = .ok found) :
    ∃ all : List Row, found = all.map t.record ∧ (∀ r ∈ all, r ∈ t.rows) ∧
      ∀ r ∈ first t conditions, r ∈ all := by
  obtain ⟨all, hall, rfl⟩ := (h.find_eq_ok_iff hf).1 hfind
  have hperm := Database.perm_metOrder t conditions [] all
  obtain ⟨-, rfl⟩ := scanRows?_none_iff.1 hall
  refine ⟨Database.metOrder t conditions [] _, rfl,
    fun r hr => List.mem_of_mem_filter (hperm.subset hr), fun r hr => ?_⟩
  exact hperm.mem_iff.2 (List.mem_filter.2 ⟨mem_of_mem_first hr, allHold_of_mem_first hr⟩)

end Single

/-! ## Columns of the name `rowid` -/

section Rowid

variable {s : Schema} {t : Table}

/-- A name in the table is the name of a declared column. -/
theorem exists_column_of_position? (hmade : t.MadeFor s) {column : String} {i : Nat}
    (h : t.position? column = some i) : ∃ c ∈ s.columns, sameName c.name column := by
  obtain ⟨hlt, hname, -⟩ := List.findIdx?_eq_some_iff_getElem.1 h
  obtain ⟨c, hc, hdef⟩ := List.mem_map.1 (hmade.columns.mem_iff.1 (List.getElem_mem hlt))
  rw [← hdef] at hname
  exact ⟨c, hc, hname⟩

/-- A column of the name `rowid` hides the number of the row. -/
theorem rowid_eq_cellOf (hmade : t.MadeFor s) {c : Column} (hc : c ∈ s.columns)
    (hname : sameName c.name "rowid") (r : Row) : t.rowid r = t.cellOf r.cells c.name := by
  obtain ⟨i, hi, hdef⟩ := hmade.exists_position? hc
  rw [rowid, rowidReference, resolve?_of_position? ((position?_congr hname).symm.trans hi) hdef,
    cellOf_eq hi]
  exact List.getD_eq_getElem?_getD

theorem ownRowid_of_columns (hmade : t.MadeFor s)
    (hcolumns : ∀ c ∈ s.columns, sameName c.name "rowid" → isNumberColumn c.toDef) :
    t.OwnRowid := by
  cases hi : t.position? "rowid" with
  | none => exact .inl hi
  | some i =>
    obtain ⟨c, hc, hname⟩ := exists_column_of_position? hmade hi
    refine .inr ?_
    rw [← position?_congr hname, (hmade.numberColumn?_eq_some_iff hc).2 (hcolumns c hc hname)]

/-- **No two rows have the same `rowid`** if a column of the name is the number of the row, or has
a unique index. -/
theorem rowidUnique_of_columns (hmade : t.MadeFor s) (ht : t.Sound) (hrange : t.InRange)
    (hcolumns : ∀ c ∈ s.columns, sameName c.name "rowid" →
      isNumberColumn c.toDef ∨ t.IsDistinct c.name) : t.RowidUnique := by
  cases hi : t.position? "rowid" with
  | none => exact OwnRowid.unique (.inl hi) ht hrange
  | some i =>
    obtain ⟨c, hc, hname⟩ := exists_column_of_position? hmade hi
    rcases hcolumns c hc hname with hnumber | ⟨index, hindex, hunique, hkey⟩
    · refine OwnRowid.unique (.inr ?_) ht hrange
      rw [← position?_congr hname, (hmade.numberColumn?_eq_some_iff hc).2 hnumber]
    · -- rows with the same `rowid` have the same key in the index
      intro a ha b hb hmeets
      refine ht.unique a ha b hb ((collides_iff _ _ _).2 ⟨index, hindex, hunique, fun x hx => ?_⟩)
      rw [hkey, List.mem_singleton] at hx
      rw [hx, ← rowid_eq_cellOf hmade hc hname, ← rowid_eq_cellOf hmade hc hname]
      exact hmeets

end Rowid

/-! ## Rows that are touched -/

/-- Notes with a column of some name beside their key. -/
def noteWith (column : String) : Schema where
  entity := "Note"
  table := "Note"
  columns := [(Column.text "id").key, Column.text column]

/-- Two notes with the same value in the extra column. -/
def twoNotes (column : String) : Table :=
  { (noteWith column).made [] with
    rows := [⟨1, [.text "a", .text "x"]⟩, ⟨2, [.text "b", .text "x"]⟩] }

/-- A database with a table in it, after a change of some rows. -/
def storageOf (t : Table) (changes : Nat) : Storage where
  config := { path := "notes" }
  saved := .ok ⟨[t]⟩
  connection := some { database := ⟨[t]⟩, changes := changes, lastRow := 2 }

/-- Removal of the first note with a value in a column. -/
def deleteFirst (column value : String) : Single := .deleteOne ⟨[(column, .eq (.str value))]⟩

theorem madeFor_twoNotes {column : String} (hvalid : (noteWith column).fault? = none)
    (hnames : ((noteWith column).columns.map fun c => upper c.name).Nodup) :
    (twoNotes column).MadeFor (noteWith column) :=
  (Schema.madeFor_made hvalid hnames (List.nil_sublist _)).alike ⟨_, rfl⟩

theorem sound_twoNotes {column : String}
    (h : Table.insertRows? false [some 0, some 1] ((noteWith column).made []) 0
      [[.text "a", .text "x"], [.text "b", .text "x"]] = .ok (twoNotes column, 2)) :
    (twoNotes column).Sound :=
  ((sound_of_rows_eq_nil rfl).insertRows? h).1

theorem run_deleteFirst_colour : ((deleteFirst "colour" "x").program (noteWith "colour")).run
    Storage.engine (storageOf (twoNotes "colour") 1) =
      (.ok 1, storageOf ((twoNotes "colour").without 1) 1) := by
  rfl

theorem run_deleteFirst_rowid : ((deleteFirst "id" "a").program (noteWith "rowid")).run
    Storage.engine (storageOf (twoNotes "rowid") 1) =
      (.ok 2, storageOf ((noteWith "rowid").made []) 2) := by
  rfl

end Daybook.Store
