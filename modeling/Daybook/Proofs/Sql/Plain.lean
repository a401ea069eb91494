import Daybook.Proofs.Sql.Update

/-!
# Tables without byte strings

A cell is plain if it is no byte string. What is stored for a plain cell is plain, and so is a sum;
so a table stays plain as long as only plain values are written to it.

* `Cell.Plain`, `Table.Plain`;
* **`Sound.plain_insertRows?`**, **`Sound.plain_updateRows?`**: plain values keep a table plain.
-/

namespace Daybook.Sql

/-! ## Cells -/

/-- The cell is no byte string. -/
def Cell.Plain (v : Cell) : Prop := v.rank ≠ 3

instance (v : Cell) : Decidable v.Plain := inferInstanceAs (Decidable (_ ≠ _))

theorem Cell.plain_of_rank {v : Cell} (h : v.rank.beq 3 = false) : v.Plain :=
  Nat.ne_of_beq_eq_false h

theorem Cell.Plain.store {v : Cell} (h : v.Plain) (a : Affinity) : (a.store v).Plain := by
  rcases Affinity.store_eq_or a v with heq | ⟨hrank, -⟩
  · rwa [heq]
  · rw [Cell.Plain]
    omega

theorem Cell.plain_ofInt? {n : Int} {v : Cell} (h : Cell.ofInt? n = some v) : v.Plain := by
  rw [Cell.ofInt?] at h
  split_ifs at h
  rw [← Option.some.inj h]
  exact Cell.plain_of_rank rfl

theorem Cell.plain_increment (v : Cell) : v.increment.Plain := by
  rw [Cell.increment]
  split
  · rename_i n _
    cases hn : Cell.ofInt? (n.toInt + 1) with
    | none => exact Cell.plain_of_rank rfl
    | some w => exact Cell.plain_ofInt? hn
  · exact Cell.plain_of_rank rfl
  · exact Cell.plain_of_rank rfl

namespace Table

variable {t t' : Table}

/-- No cell of the table is a byte string. -/
def Plain (t : Table) : Prop := ∀ r ∈ t.rows, ∀ v ∈ r.cells, v.Plain

/-- No default of the table is a byte string. -/
def PlainDefaults (t : Table) : Prop := ∀ c ∈ t.columns, ∀ v, c.default = some v → v.Plain

theorem plain_of_rows_eq_nil (h : t.rows = []) : t.Plain := by
  intro r hr
  rw [h] at hr
  exact absurd hr List.not_mem_nil

theorem Plain.filter (h : t.Plain) (p : Row → Bool) :
    { t with rows := t.rows.filter p }.Plain :=
  fun r hr => h r (List.mem_of_mem_filter hr)

theorem Plain.placeRow (h : t.Plain) {row : Row} (hrow : ∀ v ∈ row.cells, v.Plain) :
    (t.placeRow row).Plain := by
  intro r hr
  rcases (mem_place row r t.rows).1 hr with rfl | hr
  · exact hrow
  · exact h r hr

/-! ## Insertions -/

theorem plain_storedCell {c : ColumnDef} (hdefault : ∀ v, c.default = some v → v.Plain) {v : Cell}
    (hv : v.Plain) (replace : Bool) : (storedCell replace c v).Plain := by
  have hget : (c.default.getD .null).Plain := by
    cases hd : c.default with
    | none => exact Cell.plain_of_rank rfl
    | some w => exact hdefault w hd
  rw [storedCell]
  split_ifs
  · exact hget.store _
  · exact hv.store _

theorem plain_newCells (hdefaults : t.PlainDefaults) {given : Nat → Option Cell}
    (hgiven : ∀ i v, given i = some v → v.Plain) (replace : Bool) (id : Int) :
    ∀ v ∈ t.newCells replace given id, v.Plain := by
  intro v hv
  obtain ⟨i, hi⟩ := List.mem_iff_getElem?.1 hv
  rw [getElem?_newCells, Option.map_eq_some_iff] at hi
  obtain ⟨c, hc, rfl⟩ := hi
  have hdefault := hdefaults c (List.mem_of_getElem? hc)
  rw [newCell]
  split_ifs
  · exact Cell.plain_of_rank rfl
  · refine plain_storedCell hdefault ?_ replace
    cases hg : given i with
    | some w => exact hgiven i w hg
    | none =>
      rw [Option.getD_none]
      cases hd : c.default with
      | none => exact Cell.plain_of_rank rfl
      | some w => exact hdefault w hd

theorem mem_of_givenBy {positions : List (Option Nat)} {values : List Cell} {i : Nat} {v : Cell}
    (h : givenBy positions values i = some v) : v ∈ values := by
  rw [givenBy, Option.map_eq_some_iff] at h
  obtain ⟨p, hp, rfl⟩ := h
  exact (List.of_mem_zip (List.mem_of_find?_eq_some hp)).2

/-- **Plain rows keep a table plain.** -/
theorem Sound.plain_insertRows? (h : t.Sound) (hplain : t.Plain) (hdefaults : t.PlainDefaults)
    {replace : Bool} {positions : List (Option Nat)} {last n : Int} {rows : List (List Cell)}
    (hrows : ∀ values ∈ rows, ∀ v ∈ values, v.Plain)
    (hok : Table.insertRows? replace positions t last rows = .ok (t', n)) : t'.Plain := by
  refine (h.insertRows?_induction (P := Plain) hplain ?_ hok).1
  rintro u values id - ⟨us, rfl⟩ hu hvalues -
  refine (hu.filter _).placeRow ?_
  have hgiven : ∀ i v, givenBy positions values i = some v → v.Plain :=
    fun i v hv => hrows values hvalues v (mem_of_givenBy hv)
  exact plain_newCells hdefaults hgiven replace id

/-! ## Updates and deletions -/

/-- The assignments set plain values only. -/
def PlainAssignments (assignments : List Assignment) : Prop :=
  ∀ column v, Assignment.set column v ∈ assignments → v.value.Plain

theorem plain_assigned {row : Row} (hrow : ∀ v ∈ row.cells, v.Plain)
    {assignments : List Assignment} (h : PlainAssignments assignments) :
    ∀ v ∈ t.assigned row assignments, v.Plain := by
  rw [assigned]
  refine List.foldlRecOn (motive := fun cells : List Cell => ∀ v ∈ cells, v.Plain) assignments _
    hrow fun cells hcells a ha v hv => ?_
  split at hv
  · rename_i column w _
    rcases List.mem_or_eq_of_mem_set hv with hv | rfl
    · exact hcells v hv
    · exact h column w ha
  · rcases List.mem_or_eq_of_mem_set hv with hv | rfl
    · exact hcells v hv
    · exact Cell.plain_increment _
  · exact hcells v hv

/-- **Plain assignments keep a table plain.** -/
theorem Sound.plain_updateRows? (h : t.Sound) (hplain : t.Plain) {rows : List Row}
    (hsub : rows.Sublist t.rows) {assignments : List Assignment}
    (hassignments : PlainAssignments assignments)
    (hok : Table.updateRows? assignments t rows = .ok t') : t'.Plain := by
  refine (h.updateRows?_induction (P := Plain) hplain hsub ?_ hok).1
  intro u u' row _ _ hu hrow _ hupdate
  obtain ⟨id, -, -, -, -, rfl⟩ := updateRow?_eq_ok hupdate
  refine (hu.filter _).placeRow fun v hv => ?_
  obtain ⟨⟨c, w⟩, hmem, rfl⟩ := List.mem_map.1 hv
  have hw := plain_assigned (t := u) (hu row hrow) hassignments w (List.of_mem_zip hmem).2
  dsimp only
  split_ifs
  · exact Cell.plain_of_rank rfl
  · exact hw.store _

theorem Plain.deleteRows (h : t.Plain) (rows : List Row) : (t.deleteRows rows).Plain := h.filter _

end Table
end Daybook.Sql
