import Daybook.Proofs.Store.Run
import Daybook.Proofs.Sync.Portable
import Daybook.Sync.Transfer

/-!
# What an export holds

An export reads every table of a registry, and changes none. So it succeeds if the tables are there,
and its document has for each of them the records of its rows, in their order
(**`run_exportInto`**).

* `recordsOf`, `exported`: the records of a table, and the document of all tables;
* `get?_record`: the value that the record of a row has for a column.
-/

namespace Daybook

open Sql

/-! ## Records of rows -/

theorem Sql.Table.MadeFor.get?_record {t : Table} {s : Schema} (h : t.MadeFor s) {r : Row}
    (hwidth : r.cells.length = t.columns.length) {c : Column} (hc : c ∈ s.columns) :
    (t.record r).get? c.name = some (t.cellOf r.cells c.name).toJson := by
  obtain ⟨i, hi, hdef⟩ := h.exists_position? hc
  have hlt : i < r.cells.length := by
    rw [hwidth]
    exact (List.getElem?_eq_some_iff.1 hdef).1
  have hnames : (t.columns.map ColumnDef.name).Nodup := by
    refine List.Nodup.of_map upper ?_
    rw [List.map_map]
    exact h.names
  rw [cellOf_eq hi, List.getElem?_eq_getElem hlt, Option.getD_some, Table.record, KeyMap.ofList]
  refine KeyMap.get?_foldl_insert_of_mem ?_ ?_ _
  · rw [List.map_fst_zip]
    · exact hnames
    · rw [List.length_map, List.length_map, hwidth]
  · refine List.mem_iff_getElem?.2 ⟨i, ?_⟩
    rw [List.getElem?_zip_eq_some, List.getElem?_map, List.getElem?_map, hdef,
      List.getElem?_eq_getElem hlt]
    exact ⟨rfl, rfl⟩

/-! ## Queries of all rows -/

namespace Sql.Database

theorem indexFor?_nil (t : Table) : indexFor? t [] = none := by
  have hscore : ∀ i : Index, ((i.columns.head?).map (narrowness [])).getD 0 = 0 := by
    intro i
    cases i.columns.head? <;> rfl
  have hfold : ∀ (indexes : List Index), indexes.foldl (fun (best : Option Index) i =>
      if ((i.columns.head?).map (narrowness [])).getD 0 >
        ((best.map fun i => ((i.columns.head?).map (narrowness [])).getD 0).getD 0) then some i
      else best) none = none := by
    intro indexes
    induction indexes with
    | nil => rfl
    | cons i rest ih =>
      rw [List.foldl_cons, if_neg (by simp [hscore])]
      exact ih
  exact hfold t.indexes

/-- A query without conditions answers the records of all rows. -/
theorem select?_all_eq_ok_iff {db : Database} {s : Schema} {records : List Record} :
    db.select? (Store.allColumns s [] (.page [] none none)) = .ok records ↔
      ∃ t, db.source? s.table = .ok t ∧ records = t.rows.map t.record := by
  have hmet : ∀ t : Table, metOrder t [] [] t.rows = t.rows := fun t => by
    simp only [metOrder, indexFor?_nil]
  rw [Store.allColumns, select?_eq_ok_iff_source]
  constructor
  · rintro ⟨t, rows, ht, -, hrows, rfl⟩
    obtain rfl : t.rows = rows := Except.ok.inj ((t.scanRows?_nil t.rows).symm.trans hrows)
    exact ⟨t, ht, by rw [hmet]⟩
  · rintro ⟨t, ht, rfl⟩
    exact ⟨t, t.rows, ht, rfl, t.scanRows?_nil t.rows, by rw [hmet]⟩

theorem select?_all {db : Database} {s : Schema} {t : Table}
    (hcatalog : isCatalogName s.table = false) (ht : db.table? s.table = some t) :
    db.select? (Store.allColumns s [] (.page [] none none)) = .ok (t.rows.map t.record) :=
  select?_all_eq_ok_iff.2 ⟨t, (source?_eq_ok_iff hcatalog).2 ht, rfl⟩

end Sql.Database

/-! ## Exports -/

namespace Sync

variable {st : Storage} {c : Connection}

/-- The records of the table of a schema. -/
def recordsOf (db : Database) (s : Schema) : List Record :=
  match db.table? s.table with
  | some t => t.rows.map t.record
  | none => []

/-- A document with the records of the tables of schemas. -/
def exported (db : Database) (schemas : List Schema) (d : Document) : Document :=
  schemas.foldl (fun d s => d.insert s.table (recordsOf db s)) d

theorem run_find {s : Schema} {t : Table} (hs : s.Portable) (hc : st.opened = .ok c)
    (ht : c.database.table? s.table = some t) :
    (Store.find s {}).run Storage.engine st = (.ok (t.rows.map t.record), st.keep c) := by
  have hclash : (Statement.select (Store.allColumns s [] (.page [] none none))).clash? = none :=
    Store.clash?_allColumns hs.tableWord (Nat.zero_le _)
  exact Store.run_query_of_select? hc hclash (Database.select?_all hs.notCatalog ht)

/-- **What an export comes to.** It leaves the database as it is. -/
theorem run_exportInto {schemas : List Schema} (hschemas : ∀ s ∈ schemas, s.Portable)
    (hc : st.opened = .ok c) (htables : ∀ s ∈ schemas, (c.database.table? s.table).isSome)
    (d : Document) :
    ∃ st', (exportInto schemas d).run Storage.engine st =
      (.ok (exported c.database schemas d), st') ∧ st'.opened = .ok c := by
  induction schemas generalizing st d with
  | nil => exact ⟨st, rfl, hc⟩
  | cons s rest ih =>
    obtain ⟨t, ht⟩ := Option.isSome_iff_exists.1 (htables s List.mem_cons_self)
    have hrecords : recordsOf c.database s = t.rows.map t.record := by
      rw [recordsOf, ht]
    obtain ⟨st', hrun, hst'⟩ := ih (fun s' hs' => hschemas s' (List.mem_cons_of_mem _ hs'))
      (Storage.opened_keep st c) (fun s' hs' => htables s' (List.mem_cons_of_mem _ hs'))
      (d.insert s.table (recordsOf c.database s))
    refine ⟨st', ?_, hst'⟩
    rw [exportInto]
    refine Program.run_bind_eq_ok.2 ⟨_, _, run_find (hschemas s List.mem_cons_self) hc ht, ?_⟩
    rw [← hrecords]
    exact hrun

/-! ## Tables of an exported document -/

theorem table?_exported_of_ne {db : Database} {schemas : List Schema} {name : String}
    (h : ∀ s ∈ schemas, s.table ≠ name) (d : Document) :
    (exported db schemas d).table? name = d.table? name := by
  induction schemas generalizing d with
  | nil => rfl
  | cons s rest ih =>
    rw [exported, List.foldl_cons]
    refine (ih (fun s' hs' => h s' (List.mem_cons_of_mem _ hs')) _).trans ?_
    exact KeyMap.get?_insert_of_ne _ _ (h s List.mem_cons_self).symm

/-- The document has the records of every table. -/
theorem table?_exported {db : Database} {schemas : List Schema}
    (hnames : (schemas.map Schema.table).Nodup) {s : Schema} (hs : s ∈ schemas) (d : Document) :
    (exported db schemas d).table? s.table = some (recordsOf db s) := by
  induction schemas generalizing d with
  | nil => exact absurd hs List.not_mem_nil
  | cons s' rest ih =>
    rw [List.map_cons, List.nodup_cons] at hnames
    rw [exported, List.foldl_cons]
    rcases List.mem_cons.1 hs with rfl | hs
    · refine (table?_exported_of_ne (fun s' hs' hname => ?_) _).trans ?_
      · exact hnames.1 (List.mem_map.2 ⟨s', hs', hname⟩)
      · exact KeyMap.get?_insert_self _ _ _
    · exact ih hnames.2 hs _

end Sync
end Daybook
