import Daybook.Proofs.Schema.Rules
import Daybook.Proofs.Sql.Batch
import Daybook.Schema.Definition
import Mathlib.Data.List.Perm.Basic

/-!
# Tables of schemas

A table is made for a schema if it has the declared columns, in any order, and unique indexes for
single columns only, one of them for the key unless the key is the number of the row. So the cells
of a row are found by the declared columns (`exists_position?`), and two rows have a key in common
just if they meet in a distinct column (**`collides_iff_meets`**).

* `Table.MadeFor`, `Table.IsDistinct`;
* `Table.Carries`: a table that has the declared columns, and perhaps others.
-/

namespace Daybook

/-! ## Keys of schemas -/

namespace Schema

variable {s : Schema}

/-- A schema that breaks no rule has one key at most. -/
theorem eq_of_primaryKey (h : s.fault? = none) {c c' : Column} (hc : c ∈ s.columns)
    (hc' : c' ∈ s.columns) (hkey : c.primaryKey) (hkey' : c'.primaryKey) : c = c' := by
  have hlength := (fault?_eq_none_iff.1 h).keys
  have hmem := List.mem_filter.2 ⟨hc, hkey⟩
  have hmem' := List.mem_filter.2 ⟨hc', hkey'⟩
  obtain ⟨x, hx⟩ :=
    List.length_eq_one_iff.1 (Nat.le_antisymm hlength (List.length_pos_of_mem hmem))
  rw [hx, List.mem_singleton] at hmem hmem'
  rw [hmem, hmem']

theorem mem_key? {key : Column} (h : s.key? = some key) : key ∈ s.columns ∧ key.primaryKey := by
  have hsome := List.find?_some h
  exact ⟨List.mem_of_find?_eq_some h, hsome⟩

/-- The key is the column that is marked as one. -/
theorem key?_eq_some_iff (hvalid : s.fault? = none) {c : Column} (hc : c ∈ s.columns) :
    s.key? = some c ↔ c.primaryKey := by
  constructor
  · exact fun h => (mem_key? h).2
  · intro hkey
    have hsome : s.key?.isSome := by
      rw [key?, List.find?_isSome]
      exact ⟨c, hc, hkey⟩
    obtain ⟨key, hkey'⟩ := Option.isSome_iff_exists.1 hsome
    obtain ⟨hmem, hprimary⟩ := mem_key? hkey'
    rw [hkey', eq_of_primaryKey hvalid hmem hc hprimary hkey]

theorem isNumberColumn_toDef_iff (c : Column) :
    Sql.Table.isNumberColumn c.toDef ↔ c.primaryKey ∧ c.type = .integer := by
  rw [Sql.Table.isNumberColumn, Bool.and_eq_true, decide_eq_true_eq]
  refine and_congr_right fun _ => ?_
  have htype : c.toDef.type = c.type.name := rfl
  rw [htype]
  cases c.type with
  | integer => exact iff_of_true (by decide) rfl
  | real => exact iff_of_false (by decide) Sql.ColumnType.noConfusion
  | text => exact iff_of_false (by decide) Sql.ColumnType.noConfusion
  | blob => exact iff_of_false (by decide) Sql.ColumnType.noConfusion

end Schema

/-! ## Tables made for schemas -/

namespace Sql.Table

/-- There is a unique index for the column alone. -/
def IsDistinct (t : Table) (column : String) : Prop :=
  ∃ index ∈ t.indexes, index.unique ∧ index.columns = [column]

instance (t : Table) (column : String) : Decidable (t.IsDistinct column) :=
  inferInstanceAs (Decidable (∃ index ∈ t.indexes, index.unique ∧ index.columns = [column]))

/-- The table has the columns of a schema with one key at most, and unique indexes for single
columns. -/
structure MadeFor (t : Table) (s : Schema) : Prop where
  columns : t.columns.Perm (s.columns.map Column.toDef)
  oneKey : ∀ c ∈ s.columns, ∀ c' ∈ s.columns, c.primaryKey → c'.primaryKey → c = c'
  names : (t.columns.map fun c => upper c.name).Nodup
  keyed : ∀ c ∈ s.columns, c.primaryKey → isNumberColumn c.toDef = false → t.IsDistinct c.name
  single : ∀ index ∈ t.indexes, index.unique →
    ∃ c ∈ s.columns, isNumberColumn c.toDef = false ∧ index.columns = [c.name]

/-- Every declared column is one of the columns of the table, each another one, and one column at
most is the number of a row. The table may have more columns, and other types. -/
structure Carries (t : Table) (s : Schema) : Prop where
  places : ∀ c ∈ s.columns, (t.position? c.name).isSome
  apart : ∀ c ∈ s.columns, ∀ c' ∈ s.columns, sameName c.name c'.name → c = c'
  number : t.OneNumber

namespace Carries

variable {t t' : Table} {s : Schema}

theorem alike (h : t.Carries s) (ha : t.Alike t') : t'.Carries s := by
  obtain ⟨rows, rfl⟩ := ha
  exact ⟨h.places, h.apart, h.number⟩

/-- A declared column has a position, and a definition there. -/
theorem exists_position? (h : t.Carries s) {c : Column} (hc : c ∈ s.columns) :
    ∃ i d, t.position? c.name = some i ∧ t.columns[i]? = some d := by
  obtain ⟨i, hi⟩ := Option.isSome_iff_exists.1 (h.places c hc)
  obtain ⟨hlt, -⟩ := List.findIdx?_eq_some_iff_getElem.1 hi
  exact ⟨i, t.columns[i], hi, List.getElem?_eq_getElem hlt⟩

/-- Declared columns are told apart by their positions. -/
theorem eq_of_position?_eq (h : t.Carries s) {c c' : Column} (hc : c ∈ s.columns)
    (hc' : c' ∈ s.columns) (hpos : t.position? c.name = t.position? c'.name) : c = c' := by
  obtain ⟨i, d, hi, hd⟩ := h.exists_position? hc
  exact h.apart c hc c' hc' (sameName_of_position? hi (hpos ▸ hi))

end Carries

namespace MadeFor

variable {t t' : Table} {s : Schema}

theorem alike (h : t.MadeFor s) (ha : t.Alike t') : t'.MadeFor s := by
  obtain ⟨rows, rfl⟩ := ha
  exact ⟨h.columns, h.oneKey, h.names, h.keyed, h.single⟩

/-! ### Columns -/

theorem nodup_names (h : t.MadeFor s) : (s.columns.map fun c => upper c.name).Nodup := by
  have hcomp : (fun c : ColumnDef => upper c.name) ∘ Column.toDef =
      fun c : Column => upper c.name := rfl
  have hnames := (h.columns.map fun c : ColumnDef => upper c.name).nodup_iff.1 h.names
  rw [List.map_map, hcomp] at hnames
  exact hnames

theorem eq_of_upper_eq (h : t.MadeFor s) {c c' : Column} (hc : c ∈ s.columns) (hc' : c' ∈ s.columns)
    (hname : upper c.name = upper c'.name) : c = c' :=
  List.inj_on_of_nodup_map (f := fun c : Column => upper c.name) h.nodup_names hc hc' hname

/-- A declared column has a position, and its definition is there. -/
theorem exists_position? (h : t.MadeFor s) {c : Column} (hc : c ∈ s.columns) :
    ∃ i, t.position? c.name = some i ∧ t.columns[i]? = some c.toDef := by
  have hmem : c.toDef ∈ t.columns := h.columns.mem_iff.2 (List.mem_map_of_mem hc)
  obtain ⟨i, hdef⟩ := List.mem_iff_getElem?.1 hmem
  have hi := position?_of_getElem? h.names hdef
  exact ⟨i, hi, hdef⟩

theorem eq_of_position?_eq (h : t.MadeFor s) {c c' : Column} (hc : c ∈ s.columns)
    (hc' : c' ∈ s.columns) (hpos : t.position? c.name = t.position? c'.name) : c = c' := by
  obtain ⟨i, hi, hdef⟩ := h.exists_position? hc
  obtain ⟨j, hj, hdef'⟩ := h.exists_position? hc'
  have hij : i = j := Option.some.inj (hi.symm.trans (hpos.trans hj))
  have hname : c.toDef.name = c'.toDef.name := by
    rw [hij] at hdef
    rw [Option.some.inj (hdef.symm.trans hdef')]
  exact h.eq_of_upper_eq hc hc' (congrArg upper hname)

/-- Every column of the table is declared, and stands where its name says. -/
theorem exists_column (h : t.MadeFor s) {i : Nat} {d : ColumnDef} (hd : t.columns[i]? = some d) :
    ∃ c ∈ s.columns, c.toDef = d ∧ t.position? c.name = some i := by
  obtain ⟨c, hc, rfl⟩ := List.mem_map.1 (h.columns.mem_iff.1 (List.mem_of_getElem? hd))
  have hi := position?_of_getElem? h.names hd
  exact ⟨c, hc, rfl, hi⟩

/-- The column that is the number of the row is the key of its type. -/
theorem numberColumn?_eq_some_iff (h : t.MadeFor s) {c : Column} (hc : c ∈ s.columns) :
    t.numberColumn? = t.position? c.name ↔ isNumberColumn c.toDef := by
  obtain ⟨i, hi, hdef⟩ := h.exists_position? hc
  rw [hi]
  constructor
  · intro hnumber
    obtain ⟨hlt, hnum, -⟩ := List.findIdx?_eq_some_iff_getElem.1 hnumber
    rw [List.getElem?_eq_getElem hlt, Option.some.injEq] at hdef
    rwa [hdef] at hnum
  · intro hnum
    have hsome : t.numberColumn?.isSome := by
      rw [numberColumn?, List.findIdx?_isSome, List.any_eq_true]
      exact ⟨c.toDef, List.mem_of_getElem? hdef, hnum⟩
    obtain ⟨j, hj⟩ := Option.isSome_iff_exists.1 hsome
    obtain ⟨hlt, hnum', -⟩ := List.findIdx?_eq_some_iff_getElem.1 hj
    -- both columns are keys, so they are the same column
    obtain ⟨c', hc', hdef'⟩ := List.mem_map.1 (h.columns.mem_iff.1 (List.getElem_mem hlt))
    rw [← hdef', isNumberColumn, Bool.and_eq_true] at hnum'
    rw [isNumberColumn, Bool.and_eq_true] at hnum
    obtain rfl := h.oneKey c' hc' c hc hnum'.1 hnum.1
    have hget : (t.columns.map fun c => upper c.name)[i]? =
        (t.columns.map fun c => upper c.name)[j]? := by
      rw [List.getElem?_map, List.getElem?_map, hdef, List.getElem?_eq_getElem hlt, hdef']
    have hi' : i < (t.columns.map fun c => upper c.name).length := by
      rw [List.length_map]
      exact (List.getElem?_eq_some_iff.1 hdef).1
    rw [hj, (List.getElem?_inj hi' h.names).1 hget]

/-- A table that is made for a schema has its columns. -/
theorem carries (h : t.MadeFor s) : t.Carries s where
  places c hc := by
    obtain ⟨i, hi, -⟩ := h.exists_position? hc
    rw [hi]
    rfl
  apart c hc c' hc' hname := h.eq_of_upper_eq hc hc' ((sameName_iff _ _).1 hname)
  number i d hd hnumber := by
    obtain ⟨c, hc, rfl, hi⟩ := h.exists_column hd
    rw [(h.numberColumn?_eq_some_iff hc).2 hnumber, hi]

/-- Such a table stores what the declared type says. -/
theorem affinityOf (h : t.MadeFor s) {c : Column} (hc : c ∈ s.columns) :
    t.affinityOf c.name = c.toDef.affinity := by
  obtain ⟨i, hi, hdef⟩ := h.exists_position? hc
  exact affinityOf_eq hi hdef

/-- The cell of a new row in a declared column. -/
theorem cellOf_newCells (h : t.MadeFor s) {c : Column} (hc : c ∈ s.columns) {i : Nat}
    (hi : t.position? c.name = some i) (replace : Bool) (given : Nat → Option Cell) (id : Int) :
    t.cellOf (t.newCells replace given id) c.name = newCell replace c.toDef (given i) id := by
  obtain ⟨j, hj, hdef⟩ := h.exists_position? hc
  obtain rfl : i = j := Option.some.inj (hi.symm.trans hj)
  rw [cellOf_eq hi, getElem?_newCells, hdef]
  rfl

theorem holds (h : t.MadeFor s) {c : Column} (hc : c ∈ s.columns) {id : Int} {cells : List Cell}
    (hfits : Fits t.columns id cells) : c.toDef.Holds id (t.cellOf cells c.name) := by
  obtain ⟨i, hi, hdef⟩ := h.exists_position? hc
  have hlt : i < cells.length := by
    rw [hfits.width]
    exact (List.getElem?_eq_some_iff.1 hdef).1
  rw [cellOf_eq hi, List.getElem?_eq_getElem hlt]
  exact hfits.holds i _ _ hdef (List.getElem?_eq_getElem hlt)

/-- Rows are told apart by the cells in the declared columns. -/
theorem cells_ext (h : t.MadeFor s) {a b : List Cell} (ha : a.length = t.columns.length)
    (hb : b.length = t.columns.length)
    (heq : ∀ c ∈ s.columns, t.cellOf a c.name = t.cellOf b c.name) : a = b := by
  refine List.ext_getElem (ha.trans hb.symm) fun i hia hib => ?_
  have hlt : i < t.columns.length := ha ▸ hia
  obtain ⟨c, hc, -, hi⟩ := h.exists_column (List.getElem?_eq_getElem hlt)
  have heq := heq c hc
  rw [cellOf_eq hi, cellOf_eq hi, List.getElem?_eq_getElem hia, List.getElem?_eq_getElem hib] at heq
  exact heq

/-- Cells pass the checks of a table just if those of the declared columns do. -/
theorem cellFault?_eq_none_iff (h : t.MadeFor s) {cells : List Cell}
    (hwidth : cells.length = t.columns.length) :
    t.cellFault? (fun _ => true) cells = none ↔ ∀ c ∈ s.columns,
      (c.required → (t.cellOf cells c.name).isNull → isNumberColumn c.toDef) ∧
        accepts c.toDef (t.cellOf cells c.name) := by
  rw [Table.cellFault?_eq_none_iff]
  constructor
  · intro hall c hc
    obtain ⟨i, hi, hdef⟩ := h.exists_position? hc
    have hlt : i < cells.length := by
      rw [hwidth]
      exact (List.getElem?_eq_some_iff.1 hdef).1
    rw [cellOf_eq hi, List.getElem?_eq_getElem hlt]
    exact hall i _ _ hdef (List.getElem?_eq_getElem hlt) rfl
  · intro hall i d v hd hv _
    obtain ⟨c, hc, rfl, hi⟩ := h.exists_column hd
    have hall := hall c hc
    rw [cellOf_eq hi, hv] at hall
    exact hall

/-! ### Keys -/

/-- **Rows have a key in common just if they meet in a distinct column.** -/
theorem collides_iff_meets (h : t.MadeFor s) (a b : List Cell) :
    t.collides a b ↔ ∃ c ∈ s.columns, isNumberColumn c.toDef = false ∧ t.IsDistinct c.name ∧
      (t.cellOf a c.name).Meets (t.cellOf b c.name) := by
  rw [collides_iff]
  constructor
  · rintro ⟨index, hindex, hunique, hmeets⟩
    obtain ⟨c, hc, hnumber, hcolumns⟩ := h.single index hindex hunique
    refine ⟨c, hc, hnumber, ⟨index, hindex, hunique, hcolumns⟩, hmeets c.name ?_⟩
    rw [hcolumns]
    exact List.mem_singleton.2 rfl
  · rintro ⟨c, -, -, ⟨index, hindex, hunique, hcolumns⟩, hmeets⟩
    refine ⟨index, hindex, hunique, fun x hx => ?_⟩
    rw [hcolumns, List.mem_singleton] at hx
    rwa [hx]

end MadeFor
end Sql.Table
end Daybook
