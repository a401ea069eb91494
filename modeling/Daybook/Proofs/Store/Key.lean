import Daybook.Proofs.Schema.Table
import Daybook.Proofs.Sql.Sought
import Daybook.Proofs.Store.Run

/-!
# Rows by their keys

Keys are unique, so there is one row at most that has the value of a key. A query by a key finds
that row, if there is one (**`run_findByKey`**).

* `keyCondition`, `sought?`: the condition on a key, and the row that it is about;
* **`eq_of_meets_key`**: keys are unique.
-/

namespace Daybook.Store

open Sql Sql.Table

/-- The condition that the key equals a cell. -/
def keyCondition (key : Column) (v : Cell) : Condition := .compare key.name .eq (.bound v)

/-- The row that is looked for by a key: the one whose key equals a cell. -/
def sought? (t : Table) (key : Column) (v : Cell) : Option Row :=
  t.rows.find? fun r => (t.cellOf r.cells key.name).Meets (key.toDef.affinity.sought v)

section Rows

variable {s : Schema} {key : Column} {t : Table} {v : Cell}

theorem mem_of_mem_sought? {r : Row} (h : r ∈ sought? t key v) : r ∈ t.rows :=
  List.mem_of_find?_eq_some h

theorem meets_of_mem_sought? {r : Row} (h : r ∈ sought? t key v) :
    (t.cellOf r.cells key.name).Meets (key.toDef.affinity.sought v) := by
  have hfound := List.find?_some (p := fun r : Row =>
    (t.cellOf r.cells key.name).Meets (key.toDef.affinity.sought v)) h
  rwa [decide_eq_true_iff] at hfound

/-- A declared column of a sound row stores its cell as it is. -/
theorem store_cellOf (hmade : t.MadeFor s) (ht : t.Sound) {c : Column} (hc : c ∈ s.columns)
    {r : Row} (hr : r ∈ t.rows) :
    c.toDef.affinity.store (t.cellOf r.cells c.name) = t.cellOf r.cells c.name :=
  (hmade.holds hc (ht.fits r hr)).stored

/-- **The condition on the key holds for the row that is looked for.** -/
theorem holds_keyCondition_iff (hmade : t.MadeFor s) (ht : t.Sound) (hkey : key ∈ s.columns)
    (hv : v ≠ .null) {r : Row} (hr : r ∈ t.rows) : Condition.holds t r (keyCondition key v) ↔
      (t.cellOf r.cells key.name).Meets (key.toDef.affinity.sought v) := by
  obtain ⟨i, hi, hdef⟩ := hmade.exists_position? hkey
  have hvalue : (Reference.cell i key.toDef.affinity).value r = t.cellOf r.cells key.name := by
    rw [cellOf_eq hi]
    exact List.getD_eq_getElem?_getD
  have hnull (x : Cell) : x.isNull = false ↔ x ≠ .null := by
    rw [← Bool.not_eq_true, Cell.isNull_iff]
  rw [keyCondition, Condition.holds, resolve?_of_position? hi hdef, Option.getD_some,
    Reference.compare_eq_iff, hvalue]
  show _ ∧ v.isNull = false ∧ (key.toDef.affinity.align _ v).1.same
    (key.toDef.affinity.align _ v).2 ↔ _
  rw [Affinity.same_align_iff (store_cellOf hmade ht hkey hr), hnull, hnull, and_iff_right hv,
    Cell.meets_iff]

/-- **Keys are unique.** -/
theorem eq_of_meets_key (hmade : t.MadeFor s) (ht : t.Sound)
    (hrange : isNumberColumn key.toDef → t.InRange) (hkey : s.key? = some key) {a b : Row}
    (ha : a ∈ t.rows) (hb : b ∈ t.rows)
    (hmeets : (t.cellOf a.cells key.name).Meets (t.cellOf b.cells key.name)) : a = b := by
  obtain ⟨hmem, hprimary⟩ := Schema.mem_key? hkey
  cases hnumber : isNumberColumn key.toDef with
  | true =>
    rw [(hmade.holds hmem (ht.fits a ha)).number hnumber,
      (hmade.holds hmem (ht.fits b hb)).number hnumber] at hmeets
    exact ht.eq_of_meets_id (hrange hnumber) ha hb hmeets
  | false =>
    exact ht.unique a ha b hb ((hmade.collides_iff_meets _ _).2
      ⟨key, hmem, hnumber, hmade.keyed key hmem hprimary hnumber, hmeets⟩)

/-- A row is the one that is looked for if its key equals the cell. -/
theorem sought?_eq_some (hmade : t.MadeFor s) (ht : t.Sound)
    (hrange : isNumberColumn key.toDef → t.InRange) (hkey : s.key? = some key) {row : Row}
    (hrow : row ∈ t.rows)
    (hmeets : (t.cellOf row.cells key.name).Meets (key.toDef.affinity.sought v)) :
    sought? t key v = some row := by
  cases hsought : sought? t key v with
  | none =>
    have hnot := List.find?_eq_none.1 hsought row hrow
    rw [decide_eq_true_iff] at hnot
    exact absurd hmeets hnot
  | some r =>
    rw [eq_of_meets_key hmade ht hrange hkey (mem_of_mem_sought? hsought) hrow
      ((meets_of_mem_sought? hsought).trans hmeets.symm)]

/-- **A scan for the key finds the row that is looked for**, and no other. -/
theorem scan?_keyCondition (hmade : t.MadeFor s) (ht : t.Sound)
    (hrange : isNumberColumn key.toDef → t.InRange) (hkey : s.key? = some key) (hv : v ≠ .null) :
    t.scan? [keyCondition key v] none = .ok (sought? t key v).toList := by
  have htrip (r : Row) : Condition.allTrip t r [keyCondition key v] = false := by
    simp [Condition.allTrip, Condition.trips, keyCondition]
  refine scanRows?_none_iff.2 ⟨fun r _ => htrip r, ?_⟩
  have hholds : ∀ r ∈ t.rows, (Condition.allHold t r [keyCondition key v] = true ↔
      (t.cellOf r.cells key.name).Meets (key.toDef.affinity.sought v)) := fun r hr => by
    rw [Condition.allHold, Condition.allHold, Bool.and_true,
      holds_keyCondition_iff hmade ht (Schema.mem_key? hkey).1 hv hr]
  cases hsought : sought? t key v with
  | none =>
    refine (List.filter_eq_nil_iff.2 fun r hr => ?_).symm
    rw [hholds r hr]
    have hnot := List.find?_eq_none.1 hsought r hr
    rwa [decide_eq_true_iff] at hnot
  | some row =>
    refine (ht.filter_eq_singleton (mem_of_mem_sought? hsought) fun r hr => ?_).symm
    rw [hholds r hr]
    constructor
    · intro hmeets
      have hr' := sought?_eq_some hmade ht hrange hkey hr hmeets
      exact Option.some.inj (hr'.symm.trans hsought)
    · rintro rfl
      exact meets_of_mem_sought? hsought

end Rows

/-! ## Texts -/

section Texts

variable {s : Schema}

/-- The words of the condition on a key, which are those of its name before a mark. -/
theorem whereClash?_keyCondition (key : Column) (v : Cell) :
    whereClash? [keyCondition key v] = Sql.clash? false key.name ["=", "?"] := by
  rw [whereClash?, if_neg (by simp [Condition.chainDepth, Condition.depth, keyCondition, maxDepth]),
    Option.or_none, Condition.clashes?, Condition.clashes?, Option.or_none]
  rfl

theorem length_paramsList_keyCondition (key : Column) (v : Cell) :
    (Condition.paramsList [keyCondition key v]).length = 1 := rfl

theorem clash?_selectByKey (htable : nameClash? s.table = none) (key : Column) (v : Cell) :
    (Statement.select (allColumns s [keyCondition key v] (.page [] none none))).clash? =
      Sql.clash? false key.name ["=", "?"] := by
  rw [← whereClash?_keyCondition key v]
  refine clash?_allColumns htable ?_
  rw [length_paramsList_keyCondition]
  decide

end Texts

/-! ## Queries -/

section Queries

variable {s : Schema} {key : Column} {t : Table} {v : Cell} {st : Storage} {c : Connection}

theorem unknownName?_keyCondition (hmade : t.MadeFor s) (hkey : key ∈ s.columns) (v : Cell) :
    t.unknownName? (Condition.fieldsList [keyCondition key v]) = none := by
  obtain ⟨i, hi, hdef⟩ := hmade.exists_position? hkey
  rw [unknownName?, Option.map_eq_none_iff, List.find?_eq_none]
  intro name hname
  rw [show Condition.fieldsList [keyCondition key v] = [key.name] from rfl,
    List.mem_singleton] at hname
  rw [hname, resolve?_of_position? hi hdef]
  exact Bool.false_ne_true

theorem metOrder_toList (t : Table) (conditions : List Condition) (o : Option Row) :
    Database.metOrder t conditions [] o.toList = o.toList := by
  have hperm := Database.perm_metOrder t conditions [] o.toList
  cases o with
  | none => exact hperm.eq_nil
  | some r => exact List.perm_singleton.1 hperm

theorem findByKey_eq (hkey : s.key? = some key) {value : Json} (hcell : key.cell value = .ok v) :
    findByKey s value = (query (allColumns s [keyCondition key v] (.page [] none none))).bind
      fun rows => .done rows.head? := by
  rw [findByKey, Schema.requiredKey, hkey]
  show (Program.ofExcept (key.cell value)).bind (fun v =>
    (query (allColumns s [.compare key.name .eq (.bound v)] (.page [] none none))).bind
      fun rows => .done rows.head?) = _
  rw [hcell]
  rfl

/-- **A query by a key finds the row with the key.** -/
theorem run_findByKey (hkey : s.key? = some key) (hcatalog : Database.isCatalogName s.table = false)
    (hwords : nameClash? s.table = none) (hword : Sql.clash? false key.name ["=", "?"] = none)
    (hmade : t.MadeFor s) (ht : t.Sound) (hrange : isNumberColumn key.toDef → t.InRange)
    (hc : st.opened = .ok c) (htable : c.database.table? s.table = some t) {value : Json}
    (hcell : key.cell value = .ok v) (hv : v ≠ .null) :
    (findByKey s value).run Storage.engine st =
      (.ok ((sought? t key v).map t.record), st.keep c) := by
  have hscan : t.scan? [keyCondition key v] none = _ := scan?_keyCondition hmade ht hrange hkey hv
  have hselect := (Database.select?_eq_ok_iff hcatalog).2
    ⟨t, _, htable, unknownName?_keyCondition hmade (Schema.mem_key? hkey).1 v, hscan, rfl⟩
  have hquery := run_query_of_select? hc ((clash?_selectByKey hwords key v).trans hword) hselect
  rw [findByKey_eq hkey hcell, Program.run_bind_eq_ok.2 ⟨_, _, hquery, rfl⟩, metOrder_toList]
  cases sought? t key v <;> rfl

end Queries

end Daybook.Store
