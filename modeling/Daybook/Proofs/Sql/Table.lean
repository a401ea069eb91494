import Daybook.Proofs.Sql.Cell
import Mathlib.Data.List.Nodup

/-!
# Sound tables

In a sound table the numbers of the rows ascend, no two rows have the same key in a unique index,
and every cell is one that its column may hold. A row with a number and cells of its own clashes
with the rows that it cannot stand beside.

* `Table.cellOf`, `Table.affinityOf`: the cell in the column of a name, and its affinity;
* `Table.collides`, `Table.clashes`: two rows have a key in common; they cannot stand together;
* `ColumnDef.Holds`, `Table.Fits`, `Table.Sound`: the invariant;
* `Table.Ascending`, `Table.Rectangular`: what is left of it where cells are not looked at.
-/

namespace Daybook.Sql

/-! ## Names of columns -/

theorem sameName_iff (a b : String) : sameName a b ↔ upper a = upper b := by
  rw [sameName, decide_eq_true_eq]

theorem sameName_comm (a b : String) : sameName a b = sameName b a := by
  rw [Bool.eq_iff_iff, sameName_iff, sameName_iff, eq_comm]

namespace Table

variable {t : Table}

/-- The cell in the column of a name. -/
def cellOf (t : Table) (cells : List Cell) (column : String) : Cell :=
  ((t.position? column).bind fun i => cells[i]?).getD .null

theorem keyOf_eq (t : Table) (index : Index) (cells : List Cell) :
    t.keyOf index cells = index.columns.map (t.cellOf cells) := rfl

theorem cellOf_eq {i : Nat} {column : String} (h : t.position? column = some i)
    (cells : List Cell) : t.cellOf cells column = (cells[i]?).getD .null := by
  rw [cellOf, h, Option.bind_some]

/-! ## Positions of columns -/

theorem position?_congr {a b : String} (h : sameName a b) : t.position? a = t.position? b := by
  rw [sameName_iff] at h
  rw [position?, position?]
  congr 1
  funext c
  rw [sameName, sameName, h]

theorem cellOf_congr {a b : String} (h : sameName a b) (cells : List Cell) :
    t.cellOf cells a = t.cellOf cells b := by
  rw [cellOf, cellOf, position?_congr h]

theorem position?_isSome_iff {name : String} :
    (t.position? name).isSome ↔ ∃ c ∈ t.columns, sameName c.name name := by
  rw [position?, List.findIdx?_isSome, List.any_eq_true]

/-- Names of one position are the same name. -/
theorem sameName_of_position? {a b : String} {i : Nat} (ha : t.position? a = some i)
    (hb : t.position? b = some i) : sameName a b := by
  obtain ⟨hlt, hnameA, -⟩ := List.findIdx?_eq_some_iff_getElem.1 ha
  obtain ⟨_, hnameB, -⟩ := List.findIdx?_eq_some_iff_getElem.1 hb
  rw [sameName_iff] at hnameA hnameB ⊢
  exact hnameA.symm.trans hnameB

/-- Where columns have names of their own, each stands where its name says. -/
theorem position?_of_getElem? (hnames : (t.columns.map fun c => upper c.name).Nodup) {i : Nat}
    {c : ColumnDef} (h : t.columns[i]? = some c) : t.position? c.name = some i := by
  obtain ⟨hlt, rfl⟩ := List.getElem?_eq_some_iff.1 h
  rw [List.nodup_iff_pairwise_ne, List.pairwise_map, List.pairwise_iff_getElem] at hnames
  refine List.findIdx?_eq_some_iff_getElem.2 ⟨hlt, (sameName_iff _ _).2 rfl, fun j hj hsame => ?_⟩
  exact hnames j i (hj.trans hlt) hlt hj ((sameName_iff _ _).1 hsame)

/-- The affinity of the column of a name. -/
def affinityOf (t : Table) (column : String) : Affinity :=
  (((t.position? column).bind fun i => t.columns[i]?).map ColumnDef.affinity).getD .blob

theorem affinityOf_eq {i : Nat} {column : String} (h : t.position? column = some i)
    {c : ColumnDef} (hc : t.columns[i]? = some c) : t.affinityOf column = c.affinity := by
  rw [affinityOf, h, Option.bind_some, hc]
  rfl

/-- One column at most is the number of a row. -/
def OneNumber (t : Table) : Prop :=
  ∀ i c, t.columns[i]? = some c → isNumberColumn c → t.numberColumn? = some i

/-! ## Clashes -/

/-- The rows have the same key in a unique index. -/
def collides (t : Table) (a b : List Cell) : Bool :=
  t.indexes.any fun index => index.unique && sameKey (t.keyOf index a) (t.keyOf index b)

/-- A row cannot stand beside one with the given number and cells. -/
def clashes (t : Table) (id : Int) (cells : List Cell) (r : Row) : Bool :=
  r.id = id || t.collides r.cells cells

theorem collides_iff (t : Table) (a b : List Cell) :
    t.collides a b ↔ ∃ index ∈ t.indexes, index.unique ∧
      ∀ c ∈ index.columns, (t.cellOf a c).Meets (t.cellOf b c) := by
  simp only [collides, List.any_eq_true, Bool.and_eq_true, keyOf_eq, sameKey_map_iff]

theorem collides_symm {a b : List Cell} (h : t.collides a b) : t.collides b a := by
  rw [collides_iff] at h ⊢
  obtain ⟨index, hindex, hunique, hmeets⟩ := h
  exact ⟨index, hindex, hunique, fun c hc => (hmeets c hc).symm⟩

theorem clashes_iff (t : Table) (id : Int) (cells : List Cell) (r : Row) :
    t.clashes id cells r ↔ r.id = id ∨ t.collides r.cells cells := by
  rw [clashes, Bool.or_eq_true, decide_eq_true_eq]

end Table

/-! ## What columns hold -/

/-- A column may hold a cell in the row of a number. -/
structure ColumnDef.Holds (c : ColumnDef) (id : Int) (v : Cell) : Prop where
  number : Table.isNumberColumn c → v = .int (Int64.ofInt id)
  stored : c.affinity.store v = v
  notNull : c.notNull → v.isNull = false
  accepted : Table.isNumberColumn c = false → Table.accepts c v

namespace Table

variable {t : Table}

/-- Cells may stand under columns in a row of a number. -/
structure Fits (columns : List ColumnDef) (id : Int) (cells : List Cell) : Prop where
  width : cells.length = columns.length
  holds : ∀ (i : Nat) c v, columns[i]? = some c → cells[i]? = some v → c.Holds id v

/-- The numbers of rows ascend. -/
def Ascending (t : Table) : Prop := t.rows.Pairwise fun a b => a.id < b.id

/-- The numbers ascend, unique keys are unique, and columns hold what they may. -/
structure Sound (t : Table) : Prop where
  ascending : t.rows.Pairwise fun a b => a.id < b.id
  unique : ∀ a ∈ t.rows, ∀ b ∈ t.rows, t.collides a.cells b.cells → a = b
  fits : ∀ r ∈ t.rows, Fits t.columns r.id r.cells

theorem sound_of_rows_eq_nil (h : t.rows = []) : t.Sound where
  ascending := by simp [h]
  unique := by simp [h]
  fits := by simp [h]

/-- Rows may be taken away. -/
theorem Sound.filter (h : t.Sound) (p : Row → Bool) : { t with rows := t.rows.filter p }.Sound where
  ascending := h.ascending.filter _
  unique a ha b hb hab := h.unique a (List.mem_of_mem_filter ha) b (List.mem_of_mem_filter hb) hab
  fits r hr := h.fits r (List.mem_of_mem_filter hr)

/-- The number of a row is its own. -/
theorem Ascending.eq_of_id_eq (h : t.Ascending) {a b : Row} (ha : a ∈ t.rows) (hb : b ∈ t.rows)
    (hid : a.id = b.id) : a = b := by
  have hnodup : (t.rows.map Row.id).Nodup := by
    rw [List.nodup_iff_pairwise_ne, List.pairwise_map]
    exact List.Pairwise.imp (fun hlt => Int.ne_of_lt hlt) h
  exact List.inj_on_of_nodup_map hnodup ha hb hid

theorem Sound.eq_of_id_eq (h : t.Sound) {a b : Row} (ha : a ∈ t.rows) (hb : b ∈ t.rows)
    (hid : a.id = b.id) : a = b := Ascending.eq_of_id_eq h.ascending ha hb hid

/-! ## Placing rows -/

/-- Every row has a cell for each column. -/
def Rectangular (t : Table) : Prop := ∀ r ∈ t.rows, r.cells.length = t.columns.length

theorem mem_place (row r : Row) (rows : List Row) : r ∈ place row rows ↔ r = row ∨ r ∈ rows := by
  induction rows with
  | nil => simp [place]
  | cons x rest ih =>
    rw [place]
    split_ifs
    · rw [List.mem_cons]
    · rw [List.mem_cons, List.mem_cons, ih, or_left_comm]

theorem perm_place (row : Row) (rows : List Row) : (place row rows).Perm (row :: rows) := by
  induction rows with
  | nil => exact List.Perm.refl _
  | cons r rest ih =>
    rw [place]
    split_ifs
    · exact List.Perm.refl _
    · exact (ih.cons r).trans (List.Perm.swap row r rest)

theorem pairwise_place {row : Row} {rows : List Row}
    (h : rows.Pairwise fun a b => a.id < b.id) (hne : ∀ r ∈ rows, r.id ≠ row.id) :
    (place row rows).Pairwise fun a b => a.id < b.id := by
  induction rows with
  | nil => exact List.pairwise_singleton _ _
  | cons x rest ih =>
    rw [List.pairwise_cons] at h
    have hx := hne x List.mem_cons_self
    rw [place]
    split_ifs with hlt
    · refine List.pairwise_cons.2 ⟨fun y hy => ?_, List.pairwise_cons.2 h⟩
      rcases List.mem_cons.1 hy with rfl | hy
      · exact hlt
      · exact Int.lt_trans hlt (h.1 y hy)
    · refine List.pairwise_cons.2 ⟨fun y hy => ?_, ih h.2 fun y hy => hne y (List.mem_cons_of_mem _ hy)⟩
      rcases (mem_place row y rest).1 hy with rfl | hy
      · omega
      · exact h.1 y hy

theorem Ascending.sublist (h : t.Ascending) {rows : List Row} (hrows : rows.Sublist t.rows) :
    { t with rows := rows }.Ascending := List.Pairwise.sublist hrows h

/-- A row of a new number may be placed. -/
theorem Ascending.placeRow (h : t.Ascending) {row : Row} (hne : ∀ r ∈ t.rows, r.id ≠ row.id) :
    (t.placeRow row).Ascending := pairwise_place h hne

theorem Rectangular.sublist (h : t.Rectangular) {rows : List Row} (hrows : rows.Sublist t.rows) :
    { t with rows := rows }.Rectangular := fun r hr => h r (hrows.subset hr)

theorem Rectangular.placeRow (h : t.Rectangular) {row : Row}
    (hrow : row.cells.length = t.columns.length) : (t.placeRow row).Rectangular := by
  intro r hr
  rcases (mem_place row r t.rows).1 hr with rfl | hr
  · exact hrow
  · exact h r hr

/-- A row that clashes with none may be placed. -/
theorem Sound.placeRow (h : t.Sound) {row : Row} (hfits : Fits t.columns row.id row.cells)
    (hclash : ∀ r ∈ t.rows, ¬ t.clashes row.id row.cells r) : (t.placeRow row).Sound := by
  have hne : ∀ r ∈ t.rows, r.id ≠ row.id ∧ ¬ t.collides r.cells row.cells := fun r hr => by
    have := hclash r hr
    rwa [clashes_iff, not_or] at this
  refine ⟨pairwise_place h.ascending fun r hr => (hne r hr).1, fun a ha b hb hab => ?_,
    fun r hr => ?_⟩
  · rcases (mem_place row a t.rows).1 ha with ha' | ha' <;>
      rcases (mem_place row b t.rows).1 hb with hb' | hb'
    · rw [ha', hb']
    · rw [ha'] at hab
      exact absurd (collides_symm hab) (hne b hb').2
    · rw [hb'] at hab
      exact absurd hab (hne a ha').2
    · exact h.unique a ha' b hb' hab
  · rcases (mem_place row r t.rows).1 hr with rfl | hr
    · exact hfits
    · exact h.fits r hr

/-! ## Numbers of new rows -/

theorem leastFree_eq {n : Int} {rows : List Row} (h : ∀ r ∈ rows, n < r.id) :
    nextRowId.leastFree n rows = n := by
  induction rows with
  | nil => rfl
  | cons x rest ih =>
    have hx := h x List.mem_cons_self
    rw [nextRowId.leastFree, if_neg (by omega)]
    exact ih fun r hr => h r (List.mem_cons_of_mem _ hr)

theorem leastFree_ne {n : Int} {rows : List Row} (h : rows.Pairwise fun a b => a.id < b.id) :
    n ≤ nextRowId.leastFree n rows ∧ ∀ r ∈ rows, r.id ≠ nextRowId.leastFree n rows := by
  induction rows generalizing n with
  | nil => simp [nextRowId.leastFree]
  | cons x rest ih =>
    rw [List.pairwise_cons] at h
    rw [nextRowId.leastFree]
    rcases Int.lt_trichotomy x.id n with hx | hx | hx
    · obtain ⟨hle, hne⟩ := ih (n := n) h.2
      rw [if_neg (by omega)]
      refine ⟨hle, fun r hr => ?_⟩
      rcases List.mem_cons.1 hr with rfl | hr
      · omega
      · exact hne r hr
    · obtain ⟨hle, hne⟩ := ih (n := n + 1) h.2
      rw [if_pos hx]
      refine ⟨by omega, fun r hr => ?_⟩
      rcases List.mem_cons.1 hr with rfl | hr
      · omega
      · exact hne r hr
    · rw [if_neg (by omega), leastFree_eq fun r hr => Int.lt_trans hx (h.1 r hr)]
      refine ⟨Int.le_refl n, fun r hr => ?_⟩
      rcases List.mem_cons.1 hr with rfl | hr
      · omega
      · have := h.1 r hr
        omega

/-- The next number is that of no row. -/
theorem Sound.nextRowId_ne (h : t.Sound) : ∀ r ∈ t.rows, r.id ≠ t.nextRowId := by
  intro r hr
  rw [nextRowId]
  split
  · rename_i hlast
    rw [List.getLast?_eq_none_iff.1 hlast] at hr
    exact absurd hr List.not_mem_nil
  · rename_i last hlast
    split_ifs with hmax
    · obtain ⟨before, hrows⟩ := List.getLast?_eq_some_iff.1 hlast
      have hasc := h.ascending
      rw [hrows, List.pairwise_append] at hasc
      rw [hrows, List.mem_append, List.mem_singleton] at hr
      rcases hr with hr | rfl
      · have := hasc.2.2 r hr last (List.mem_singleton.2 rfl)
        omega
      · omega
    · exact (leastFree_ne h.ascending).2 r hr

end Table
end Daybook.Sql
