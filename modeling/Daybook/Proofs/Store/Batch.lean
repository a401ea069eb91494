import Daybook.Proofs.Sql.Update
import Daybook.Proofs.Store.Write

/-!
# What a batch leaves

The records of a batch are added to a table one after the other. Each is stored as one row, which
takes the place of those with which it clashes; where rows are not replaced there are none
(**`adds_of_writeMany`**), and then the rows afterwards are the old ones and one for each record
(**`Adds.perm`**). The table and the records settle what the table becomes (**`Adds.unique`**). A
batch that is refused leaves all tables as they are (**`table?_of_writeMany_error`**).

* `StoredAs`: the row of a record;
* `Adds`: records are added to a table.
-/

namespace Daybook.Store

open Sql Sql.Table

variable {s : Schema} {t t' : Table} {replace : Bool} {batch : List Record}

/-! ## Rows of records -/

/-- A record of a batch is stored as a row. Its cells are what the columns store for the record, and
its number is the one that the record asks for, if it does. -/
structure StoredAs (s : Schema) (t : Table) (replace : Bool) (batch : List Record)
    (record : Record) (r : Row) : Prop where
  fits : Fits t.columns r.id r.cells
  cells : ∀ c ∈ s.columns, isNumberColumn c.toDef = false →
    t.cellOf r.cells c.name = storedFor replace batch record c
  number : ∀ c ∈ s.columns, isNumberColumn c.toDef →
    ∀ v, given batch record c = some v → v ≠ .null → rowId? v = some r.id

theorem StoredAs.alike {record : Record} {r : Row} (h : StoredAs s t replace batch record r)
    (ha : t.Alike t') : StoredAs s t' replace batch record r := by
  obtain ⟨rows, rfl⟩ := ha
  exact ⟨h.fits, h.cells, h.number⟩

/-- A record is stored as one row only, once its number is known. -/
theorem StoredAs.eq_of_id_eq (hmade : t.MadeFor s) {record : Record} {r r' : Row}
    (h : StoredAs s t replace batch record r) (h' : StoredAs s t replace batch record r')
    (hid : r.id = r'.id) : r = r' := by
  have hcells : r.cells = r'.cells := by
    refine hmade.cells_ext h.fits.width h'.fits.width fun c hc => ?_
    by_cases hnumber : isNumberColumn c.toDef
    · rw [(hmade.holds hc h.fits).number hnumber, (hmade.holds hc h'.fits).number hnumber, hid]
    · rw [Bool.not_eq_true] at hnumber
      rw [h.cells c hc hnumber, h'.cells c hc hnumber]
  cases r
  cases r'
  rw [Row.mk.injEq]
  exact ⟨hid, hcells⟩

/-- A row that is made of the values of a record is the row of the record. -/
theorem StoredAs.of_madeOf (hmade : t.MadeFor s) {record : Record} {values : List Cell} {r : Row}
    (hvalues : Values (presentColumns s batch) record values)
    (h : t.MadeOf replace (positions t (presentColumns s batch)) values r) :
    StoredAs s t replace batch record r where
  fits := h.fits
  cells c hc hnumber := by
    rw [congrArg Row.cells h.row]
    exact cellOf_newRow hmade hvalues hc hnumber r.id
  number c hc hnumber v hv hnull :=
    h.number v ((numberBy_eq_some_iff hmade hvalues v).2 ⟨c, hc, hnumber, hv⟩) hnull

/-! ## Records that are added -/

/-- Records of a batch are added to a table, one after the other. The row of a record takes the place
of those with which it clashes; its number is the next one if the record asks for none. -/
inductive Adds (s : Schema) (replace : Bool) (batch : List Record) :
    Table → List Record → Table → Prop where
  | done (t : Table) : Adds s replace batch t [] t
  | add {t t' : Table} {record : Record} {rest : List Record} {r : Row}
      (stored : StoredAs s t replace batch record r)
      (fresh : (∀ c ∈ s.columns, isNumberColumn c.toDef →
        ∀ v, given batch record c = some v → v = .null) → r.id = t.nextRowId)
      (free : replace = false → ∀ r' ∈ t.rows, t.clashes r.id r.cells r' = false)
      (later : Adds s replace batch (t.inserted r.id r.cells) rest t') :
      Adds s replace batch t (record :: rest) t'

namespace Adds

variable {records : List Record}

theorem alike (h : Adds s replace batch t records t') : t.Alike t' := by
  induction h with
  | done t => exact Alike.refl t
  | add _ _ _ _ ih => exact (alike_inserted _ _ _).trans ih

theorem sound (h : Adds s replace batch t records t') (ht : t.Sound) : t'.Sound := by
  induction h with
  | done t => exact ht
  | add hstored _ _ _ ih => exact ih (ht.inserted hstored.fits)

/-- **What a table becomes is settled by its rows and the records.** -/
theorem unique {t₁ t₂ : Table} (h₁ : Adds s replace batch t records t₁) (hmade : t.MadeFor s)
    (h₂ : Adds s replace batch t records t₂) : t₁ = t₂ := by
  induction h₁ with
  | done t =>
    cases h₂
    rfl
  | @add t t₁ record rest r hstored hfresh _ _ ih =>
    cases h₂ with
    | @add _ _ _ _ r' hstored' hfresh' _ hlater' =>
      have hid : r.id = r'.id := by
        by_cases hnone : ∀ c ∈ s.columns, isNumberColumn c.toDef →
            ∀ v, given batch record c = some v → v = .null
        · rw [hfresh hnone, hfresh' hnone]
        · -- the record asks for a number, and gets it
          push Not at hnone
          obtain ⟨c, hc, hnumber, v, hv, hnull⟩ := hnone
          exact Option.some.inj ((hstored.number c hc hnumber v hv hnull).symm.trans
            (hstored'.number c hc hnumber v hv hnull))
      obtain rfl := hstored.eq_of_id_eq hmade hstored' hid
      exact ih (hmade.alike (alike_inserted _ _ _)) hlater'

/-- **Where rows are not replaced, there are the old rows afterwards, and one for each record.** -/
theorem perm (h : Adds s false batch t records t') :
    ∃ rows, t'.rows.Perm (t.rows ++ rows) ∧
      List.Forall₂ (StoredAs s t false batch) records rows := by
  induction h with
  | done t => exact ⟨[], by rw [List.append_nil], .nil⟩
  | @add t t' record rest r hstored _ hfree _ ih =>
    obtain ⟨rows, hperm, hrows⟩ := ih
    have hplaced : (t.inserted r.id r.cells).rows.Perm (r :: t.rows) := by
      rw [inserted_eq_placeRow (hfree rfl)]
      exact perm_place r t.rows
    refine ⟨r :: rows, ?_, .cons hstored (hrows.imp fun _ _ h => h.alike ⟨t.rows, rfl⟩)⟩
    exact (hperm.trans (hplaced.append_right rows)).trans List.perm_middle.symm

end Adds

/-- **Rows of values are records that are added.** -/
theorem adds_of_insertRows? (hmade : t.MadeFor s) (ht : t.Sound) {records : List Record}
    {rows : List (List Cell)} {last n : Int}
    (hrows : List.Forall₂ (Values (presentColumns s batch)) records rows)
    (h : Table.insertRows? replace (positions t (presentColumns s batch)) t last rows =
      .ok (t', n)) : Adds s replace batch t records t' := by
  induction hrows generalizing t last with
  | nil =>
    rw [Table.insertRows?, Except.ok.injEq, Prod.mk.injEq] at h
    rw [← h.1]
    exact .done t
  | @cons record values rest more hvalues _ ih =>
    rw [insertRows?_cons] at h
    obtain ⟨⟨u, id⟩, hrow, hrest⟩ := Result.bind_eq_ok_iff.1 h
    obtain ⟨hnumber, hfault, hclash, rfl⟩ := ht.insertRow?_eq_ok_iff.1 hrow
    have hstored : StoredAs s t replace batch record ⟨id, _⟩ :=
      .of_madeOf hmade hvalues ⟨rfl, numbers_of_newRowId? hnumber, fits_newCells hfault⟩
    refine .add hstored (fun hnone => ?_) hclash
      (ih (hmade.alike (alike_inserted _ _ _)) (ht.inserted (fits_newCells hfault)) hrest)
    rcases newRowId?_eq_ok hnumber with ⟨-, hid⟩ | ⟨v, hv, hnull, -⟩
    · exact hid
    · obtain ⟨c, hc, hc', hv⟩ := (numberBy_eq_some_iff hmade hvalues v).1 hv
      exact absurd (hnone c hc hc' v hv) hnull

/-! ## Batches -/

section Batches

variable {m : Moment} {records : List Record} {st st' : Storage} {n : Nat}

/-- **What a batch leaves.** -/
theorem adds_of_writeMany (htable : st.table? s.table = some t) (hmade : t.MadeFor s) (ht : t.Sound)
    (h : (writeMany s m replace records).run Storage.engine st = (.ok n, st')) :
    ∃ t', st'.table? s.table = some t' ∧
      Adds s replace (allWithDefaults s m records) t (allWithDefaults s m records) t' := by
  obtain ⟨rows, t', k, hrows, hinsert, htable', -⟩ := writeMany_eq_ok htable h
  exact ⟨t', htable', adds_of_insertRows? hmade ht hrows hinsert⟩

/-- **A batch that is refused changes no table.** -/
theorem table?_of_writeMany_error {e : Failure}
    (h : (writeMany s m replace records).run Storage.engine st = (.error e, st')) (name : String) :
    st'.table? name = st.table? name := by
  rw [writeMany] at h
  split_ifs at h with hempty
  · rw [(Prod.mk.inj h).2]
  · simp only [Program.bind_eq, Program.pure_eq] at h
    rcases Program.run_bind_eq_error.1 h with hbound | ⟨statements, st₁, hst, hrest⟩
    · rw [(Program.run_ofExcept_eq_error.1 hbound).2]
    · obtain ⟨-, rfl⟩ := Program.run_ofExcept_eq_ok.1 hst
      rcases Program.run_bind_eq_error.1 hrest with hask | ⟨k, st₂, -, hdone⟩
      · rw [Program.run_ask] at hask
        exact Storage.table?_of_on_error hask name
      · cases (Prod.mk.inj hdone).1

end Batches

end Daybook.Store
