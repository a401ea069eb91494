import Daybook.Proofs.Migration.Create
import Daybook.Proofs.Store.Write

/-!
# What an upsert leaves

Records that are upserted take the place of every row with which they share a key or a value of a
distinct column. So a row with a key of its own stays just as long as no record of the batch has
its value in a distinct column (**`mem_upsertMany`**); the key alone does not decide.

* `Agrees`: a record is stored with the value of a row;
* `GivesKeys`: records have keys of their own, where the database numbers the rows.
-/

namespace Daybook.Store

open Sql Sql.Table

variable {t : Table} {s : Schema}

/-! ## Keys of records -/

theorem valueOf_ne_null {c : Column} {record : Record} {v : Json} {x : Cell}
    (hv : record.get? c.name = some v) (hnull : v ≠ .null) (h : valueOf c record = .ok x) :
    x ≠ .null := by
  rw [valueOf, hv] at h
  dsimp only at h
  rw [Column.cell] at h
  split at h
  · rename_i y hy
    obtain rfl := Except.ok.inj h
    rw [Cell.forColumn.eq_def] at hy
    split at hy
    · obtain ⟨b, -, rfl⟩ := Result.map_eq_ok_iff.1 hy
      exact Cell.noConfusion
    · rw [← Except.ok.inj hy, ne_eq, ← Cell.isNull_iff, Cell.isNull_ofJson_iff]
      exact hnull
  · cases h

/-! ## Rows and records -/

/-- The column would store for the record of a batch the value that it has in the row. -/
def Agrees (t : Table) (batch : List Record) (record : Record) (r : Row) (c : Column) : Prop :=
  (t.cellOf r.cells c.name).Meets (storedFor true batch record c)

instance (t : Table) (batch : List Record) (record : Record) (r : Row) (c : Column) :
    Decidable (Agrees t batch record r c) :=
  inferInstanceAs (Decidable (Cell.Meets _ _))

/-- Every record has a key, or the database numbers the rows and none of them needs one. -/
def GivesKeys (key : Column) (records : List Record) : Prop :=
  key.type = .integer → ∀ record ∈ records, isMissingKey (record.get? key.name) = false

/-- A row agrees with a record that asks for its number. -/
theorem agrees_of_rowId? {batch : List Record} {record : Record} {r : Row} {c : Column} {v : Cell}
    (hnumber : isNumberColumn c.toDef) (hgiven : given batch record c = some v)
    (hid : rowId? v = some r.id) (hcell : t.cellOf r.cells c.name = .int (Int64.ofInt r.id)) :
    Agrees t batch record r c := by
  rw [Agrees, storedFor, if_pos hnumber, hgiven, Option.getD_some,
    store_of_rowId? hnumber hid, hcell, Cell.meets_iff]
  exact ⟨Cell.noConfusion, rfl⟩

section Batch

variable {batch : List Record} {record : Record} {values : List Cell}

/-- The row of a record clashes with no row that agrees with the record in no column of a key. -/
theorem spares_of_not_agrees (hmade : t.MadeFor s) (ht : t.Sound)
    (hvalues : Values (presentColumns s batch) record values) {r : Row} (hr : r ∈ t.rows)
    (h : ∀ c ∈ s.columns, isNumberColumn c.toDef ∨ t.IsDistinct c.name →
      ¬ Agrees t batch record r c) :
    t.Spares true (positions t (presentColumns s batch)) values r := by
  constructor
  · intro v hv _ hid
    obtain ⟨c, hc, hnumber, hgiven⟩ := (numberBy_eq_some_iff hmade hvalues v).1 hv
    have hcell := (hmade.holds hc (ht.fits r hr)).number hnumber
    exact h c hc (.inl hnumber) (agrees_of_rowId? hnumber hgiven hid hcell)
  · intro id
    rw [← Bool.not_eq_true, hmade.collides_iff_meets]
    rintro ⟨c, hc, hnumber, hdistinct, hmeets⟩
    rw [cellOf_newRow hmade hvalues hc hnumber] at hmeets
    exact h c hc (.inr hdistinct) hmeets

/-- The row of a record clashes with a row that agrees with the record in a distinct column. -/
theorem clashes_of_agrees (hmade : t.MadeFor s)
    (hvalues : Values (presentColumns s batch) record values) {r : Row} {c : Column}
    (hc : c ∈ s.columns) (hdistinct : t.IsDistinct c.name) (h : Agrees t batch record r c)
    (id : Int) :
    t.clashes id (t.newRow true (positions t (presentColumns s batch)) values id).cells r := by
  obtain ⟨index, hindex, hunique, hcolumns⟩ := hdistinct
  obtain ⟨c', hc', hnumber, hcolumns'⟩ := hmade.single index hindex hunique
  -- the number of the row has no index, so the column is not the number
  rw [hcolumns, List.singleton_inj] at hcolumns'
  obtain rfl := hmade.eq_of_upper_eq hc hc' (congrArg upper hcolumns')
  rw [clashes_iff, hmade.collides_iff_meets]
  refine .inr ⟨c, hc, hnumber, ⟨index, hindex, hunique, hcolumns⟩, ?_⟩
  rw [cellOf_newRow hmade hvalues hc hnumber]
  exact h

/-- The row of a record agrees with the record in the key, if the record gives one. -/
theorem newRow_agrees (hmade : t.MadeFor s)
    (hvalues : Values (presentColumns s batch) record values) (hrecord : record ∈ batch)
    {key : Column} (hkey : s.key? = some key) {v : Json} (hv : record.get? key.name = some v)
    (hnull : v ≠ .null) {id : Int}
    (hid : t.Numbers (positions t (presentColumns s batch)) values id) :
    Agrees t batch record (t.newRow true (positions t (presentColumns s batch)) values id) key := by
  obtain ⟨hmem, hprimary⟩ := Schema.mem_key? hkey
  have hpresent : batch.any fun r => r.contains key.name := by
    refine List.any_eq_true.2 ⟨record, hrecord, ?_⟩
    rw [KeyMap.contains, hv]
    rfl
  obtain ⟨x, hx, -⟩ := exists_mem_zip_positions (t := t) hvalues
    (mem_presentColumns_iff.2 ⟨hmem, hpresent⟩)
  have hgiven : given batch record key = some x := by
    rw [given, if_pos hpresent, hx]
    rfl
  have hx' : x ≠ .null := valueOf_ne_null hv hnull hx
  by_cases hnumber : isNumberColumn key.toDef
  · have hrow : rowId? x = some id :=
      hid x ((numberBy_eq_some_iff hmade hvalues x).2 ⟨key, hmem, hnumber, hgiven⟩) hx'
    refine agrees_of_rowId? hnumber hgiven hrow ?_
    obtain ⟨i, hi, -⟩ := hmade.exists_position? hmem
    rw [newRow, hmade.cellOf_newCells hmem hi, newCell, if_pos hnumber]
  · rw [Bool.not_eq_true] at hnumber
    rw [Agrees, cellOf_newRow hmade hvalues hmem hnumber, Cell.meets_iff]
    refine ⟨fun hzero => hx' ?_, rfl⟩
    have hxnull : x.isNull = false := by rwa [← Bool.not_eq_true, Cell.isNull_iff]
    rw [storedFor, hnumber, if_neg Bool.false_ne_true, hgiven, Option.getD_some, storedCell,
      hxnull, Bool.and_false, if_neg Bool.false_ne_true, ← Cell.isNull_iff,
      Affinity.isNull_store] at hzero
    rwa [Cell.isNull_iff] at hzero

end Batch

/-! ## Upserts -/

/-- **Which rows an upsert leaves.** A row whose key is that of no record stays if no record has its
value in a distinct column, and is gone if one has; other tables stay as they are. -/
theorem mem_upsertMany {key : Column} {m : Moment} {records : List Record} {st st' : Storage}
    {n : Nat} (hkey : s.key? = some key) (htable : st.table? s.table = some t)
    (hmade : t.MadeFor s) (ht : t.Sound)
    (h : (upsertMany s m records).run Storage.engine st = (.ok n, st')) :
    (∃ t', st'.table? s.table = some t' ∧ ∀ r ∈ t.rows,
      (∀ record ∈ allWithDefaults s m records,
        ¬ Agrees t (allWithDefaults s m records) record r key) →
      ((∀ record ∈ allWithDefaults s m records, ∀ c ∈ s.columns, t.IsDistinct c.name →
        ¬ Agrees t (allWithDefaults s m records) record r c) → r ∈ t'.rows) ∧
      ((∃ record ∈ allWithDefaults s m records, ∃ c ∈ s.columns, t.IsDistinct c.name ∧
        Agrees t (allWithDefaults s m records) record r c) →
        GivesKeys key records → r ∉ t'.rows)) ∧
    ∀ name, ¬ sameName s.table name → st'.table? name = st.table? name := by
  obtain ⟨rows, t', k, hrows, hinsert, htable', hothers⟩ := writeMany_eq_ok htable h
  obtain ⟨hfrom, hto⟩ := Result.exists_of_forall₂ hrows
  refine ⟨⟨t', htable', fun r hr hown => ⟨fun hfree => ?_, fun hmeets hgives => ?_⟩⟩, hothers⟩
  · refine ht.mem_insertRows?_of_spares hinsert hr fun _ values hvalues => ?_
    obtain ⟨record, hrecord, hv⟩ := hfrom values hvalues
    refine spares_of_not_agrees hmade ht hv hr fun c hc hc' => ?_
    rcases hc' with hnumber | hdistinct
    · rw [isNumberColumn, Bool.and_eq_true] at hnumber
      obtain ⟨hmem, hprimary⟩ := Schema.mem_key? hkey
      rw [hmade.oneKey c hc key hmem hnumber.1 hprimary]
      exact hown record hrecord
    · exact hfree record hrecord c hc hdistinct
  · refine ht.not_mem_insertRows?_of_clashes hinsert ?_ fun values hvalues id hid hrow => ?_
    · obtain ⟨record, hrecord, c, hc, hdistinct, hagrees⟩ := hmeets
      obtain ⟨values, hvalues, hv⟩ := hto record hrecord
      exact ⟨values, hvalues, fun id _ => clashes_of_agrees hmade hv hc hdistinct hagrees id⟩
    · -- a new row has the key of its record, so it is not the row
      obtain ⟨record, hrecord, hv⟩ := hfrom values hvalues
      obtain ⟨r₀, hr₀, i, rfl⟩ := mem_allWithDefaults hrecord
      obtain ⟨v, hget, hnull, -⟩ := exists_key hkey (fun hinteger => hgives hinteger r₀ hr₀) m.now
        (m.freshId i)
      refine hown _ hrecord ?_
      rw [hrow]
      exact newRow_agrees hmade hv hrecord hkey hget hnull hid

/-! ## Tags -/

/-- Tags with labels, no two with the same one. -/
def tag : Schema where
  entity := "Tag"
  table := "Tag"
  columns := [(Column.text "id").key, (Column.text "label").distinct]

/-- The record of a tag. -/
def labelled (id label : String) : Record := [("id", .str id), ("label", .str label)]

/-- The table of tags with some rows. -/
def tags (rows : List Row) : Table :=
  { tag.made [(Column.text "label").distinct] with rows := rows }

/-- An open database of tags, the last of its rows just written. -/
def tagStorage (rows : List Row) (last : Int) : Storage where
  config := { path := "tags" }
  saved := .ok ⟨[tags rows]⟩
  connection := some { database := ⟨[tags rows]⟩, changes := 1, lastRow := last }

/-- A time, with one identifier. -/
def someTime : Moment := ⟨"2024-05-06T07:08:09.010Z", fun _ => "f"⟩

theorem madeFor_tags (rows : List Row) : (tags rows).MadeFor tag := by
  have hmade : (tag.made [(Column.text "label").distinct]).MadeFor tag :=
    Schema.madeFor_made (by decide) (by decide) (by decide)
  exact hmade.alike ⟨rows, rfl⟩

theorem sound_tags : (tags [⟨1, [.text "a", .text "x"]⟩]).Sound := by
  have hempty : (tags []).Sound := sound_of_rows_eq_nil rfl
  have hinsert : Table.insertRows? false [some 0, some 1] (tags []) 0
      [[.text "a", .text "x"]] = .ok (tags [⟨1, [.text "a", .text "x"]⟩], 1) := rfl
  exact (hempty.insertRows? hinsert).1

theorem run_upsertMany_free : (upsertMany tag someTime [labelled "b" "y"]).run Storage.engine
    (tagStorage [⟨1, [.text "a", .text "x"]⟩] 1) =
      (.ok 1, tagStorage [⟨1, [.text "a", .text "x"]⟩, ⟨2, [.text "b", .text "y"]⟩] 2) := by
  rw [upsertMany, writeMany, if_neg (by decide),
    @writeStatements_eq tag true _ [[.bound (.text "b"), .bound (.text "y")]]
      (by decide) rfl (by simp) (by decide)]
  rfl

theorem run_upsertMany_taken : (upsertMany tag someTime [labelled "b" "x"]).run Storage.engine
    (tagStorage [⟨1, [.text "a", .text "x"]⟩] 1) =
      (.ok 1, tagStorage [⟨2, [.text "b", .text "x"]⟩] 2) := by
  rw [upsertMany, writeMany, if_neg (by decide),
    @writeStatements_eq tag true _ [[.bound (.text "b"), .bound (.text "x")]]
      (by decide) rfl (by simp) (by decide)]
  rfl

/-- A tag stays when another with a label of its own is upserted. -/
theorem mem_upsertMany_tags :
    (tagStorage [⟨1, [.text "a", .text "x"]⟩] 1).table? tag.table =
      some (tags [⟨1, [.text "a", .text "x"]⟩]) ∧
    ∃ t', (tagStorage [⟨1, [.text "a", .text "x"]⟩, ⟨2, [.text "b", .text "y"]⟩] 2).table?
      tag.table = some t' ∧ ⟨1, [.text "a", .text "x"]⟩ ∈ t'.rows := by
  refine ⟨rfl, ?_⟩
  obtain ⟨⟨t', htable', hrows⟩, -⟩ := mem_upsertMany
    (rfl : tag.key? = some (Column.text "id").key)
    (t := tags [⟨1, [.text "a", .text "x"]⟩]) rfl (madeFor_tags _) sound_tags run_upsertMany_free
  exact ⟨t', htable', (hrows _ List.mem_cons_self (by decide)).1 (by decide)⟩

/-- **A key of its own does not keep a row**: a tag is gone when another with its label is
upserted. -/
theorem not_forall_mem_upsertMany :
    ¬ ∀ (s : Schema) (key : Column) (t : Table) (m : Moment) (records : List Record)
      (st st' : Storage) (n : Nat), s.fault? = none → s.key? = some key →
      st.table? s.table = some t → t.MadeFor s → t.Sound →
      (upsertMany s m records).run Storage.engine st = (.ok n, st') →
      ∀ r ∈ t.rows, (∀ record ∈ allWithDefaults s m records,
        ¬ Agrees t (allWithDefaults s m records) record r key) →
      ∃ t', st'.table? s.table = some t' ∧ r ∈ t'.rows := by
  intro h
  obtain ⟨t', htable', hmem⟩ := h tag (Column.text "id").key _ someTime [labelled "b" "x"] _ _ 1
    (by decide) rfl rfl (madeFor_tags _) sound_tags run_upsertMany_taken
    ⟨1, [.text "a", .text "x"]⟩ List.mem_cons_self (by decide)
  have hrows : tags [⟨2, [.text "b", .text "x"]⟩] = t' := Option.some.inj htable'
  rw [← hrows] at hmem
  exact absurd hmem (by decide)

end Daybook.Store
