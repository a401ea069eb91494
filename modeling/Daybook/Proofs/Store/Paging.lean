import Daybook.Proofs.Store.Search

/-!
# Pages of records

A page is asked for by a limit and an offset, which the engine applies to the rows in the order of
the sort. Where no sort and no index make an order of their own, it looks for no more rows than the
page needs, and these are the first of all that there are. So a page is a slice of the whole answer,
as far as its two numbers are integers of sixty-four bits, and fails where they are not; only an
empty page is never looked at (**`pick?_page`**, **`findPage_slice`**). Pages of one size, taken one
after the other, make up the whole answer.

* `slice`: what is left of a list after an offset and up to a limit;
* `pages`: the first pages of a size, taken one after the other.
-/

namespace Daybook

open Sql

/-! ## Slices -/

section Slice

variable {α β : Type}

/-- A list without its first elements, up to a limit. -/
def slice (limit offset : Option Nat) (l : List α) : List α :=
  match limit with
  | some n => (l.drop (offset.getD 0)).take n
  | none => l.drop (offset.getD 0)

theorem map_slice (f : α → β) (limit offset : Option Nat) (l : List α) :
    (slice limit offset l).map f = slice limit offset (l.map f) := by
  cases limit <;> simp [slice]

/-- Beyond the limit and the offset together, no element counts. -/
theorem slice_take (n : Nat) (offset : Option Nat) (l : List α) :
    slice (some n) offset (l.take (n + offset.getD 0)) = slice (some n) offset l := by
  simp [slice, List.drop_take, List.take_take]

end Slice

namespace Sql

/-! ## Rows of a page -/

namespace Database

variable {t : Table} {conditions : List Condition} {order : List (String × Direction)}

theorem fits_iff {n : Option Nat} : fits n ↔ n.getD 0 < 2 ^ 63 := by
  rw [fits, decide_eq_true_iff, maxRowId]
  omega

/-- Where rows are met in the order of the table, it is not changed afterwards. -/
theorem metOrder_inPlace (rows : List Row)
    (h : (order.isEmpty && (indexFor? t conditions).isNone) = true) :
    t.sortRows order (metOrder t conditions order rows) = rows := by
  rw [Bool.and_eq_true, List.isEmpty_iff, Option.isNone_iff_eq_none] at h
  obtain ⟨rfl, hindex⟩ := h
  simp [metOrder, hindex, Table.sortRows]

/-- **A page is a slice of the rows in their order**, if its numbers are integers; an empty page is
empty in any case. -/
theorem pick?_page {found : List Row} (h : t.scan? conditions none = .ok found)
    (order : List (String × Direction)) (limit offset : Option Nat) :
    pick? t conditions (.page order limit offset) =
      if limit = some 0 then .ok []
      else if fits limit ∧ fits offset then
        .ok (slice limit offset (t.sortRows order (metOrder t conditions order found)))
      else .error .mismatch := by
  rw [pick?]
  by_cases hzero : limit = some 0
  · rw [if_pos hzero, if_pos hzero]
  rw [if_neg hzero, if_neg hzero]
  by_cases hfits : fits limit ∧ fits offset
  · rw [if_pos hfits, if_neg (by simp [hfits.1, hfits.2])]
    by_cases hplace : (order.isEmpty && (indexFor? t conditions).isNone) = true
    · -- the scan ends where the page does
      have hsame := fun rows : List Row => metOrder_inPlace rows hplace
      cases limit with
      | none =>
        simp only [hplace, hsame, if_true, Option.map_none, h]
        rfl
      | some n =>
        have hscan : t.scan? conditions (some (n + offset.getD 0)) =
            .ok (found.take (n + offset.getD 0)) := Table.scanRows?_some_of_none h _
        simp only [hplace, hsame, if_true, Option.map_some, hscan, ← slice_take n offset found]
        rfl
    · simp only [hplace, Bool.false_eq_true, if_false, h]
      cases limit <;> rfl
  · have hunfit : (!fits limit || !fits offset) = true := by
      cases hlimit : fits limit <;> cases hoffset : fits offset <;> simp_all
    rw [if_neg hfits, if_pos hunfit]

/-- A page has the records of a slice. -/
theorem select?_page {db : Database} {table : String} {records : List Record}
    (h : db.select? ⟨.all, some table, conditions, .page order none none⟩ = .ok records)
    (limit offset : Option Nat) :
    db.select? ⟨.all, some table, conditions, .page order limit offset⟩ =
      if limit = some 0 then .ok []
      else if fits limit ∧ fits offset then .ok (slice limit offset records)
      else .error .mismatch := by
  rw [select?, Result.bind_eq_ok_iff] at h
  obtain ⟨t, ht, h⟩ := h
  dsimp only at ht h
  cases hknown : t.unknownName? (Output.fields .all ++ Condition.fieldsList conditions ++
      sortFields (.page order none none)) with
  | some fault =>
    rw [hknown] at h
    cases h
  | none =>
    rw [hknown] at h
    obtain ⟨rows, hrows, h⟩ := Result.bind_eq_ok_iff.1 h
    obtain rfl := Except.ok.inj h
    rw [pick?, if_neg (by simp), if_neg (by decide)] at hrows
    obtain ⟨found, hfound, hrows⟩ := Result.bind_eq_ok_iff.1 hrows
    simp only [Option.map_none, ite_self] at hfound
    obtain rfl := Except.ok.inj hrows
    have hpage := pick?_page hfound order limit offset
    have hknown' : t.unknownName? (Output.fields .all ++ Condition.fieldsList conditions ++
        sortFields (.page order limit offset)) = none := hknown
    rw [select?]
    dsimp only [bind, Except.bind]
    rw [ht]
    dsimp only
    rw [hknown', hpage]
    by_cases hzero : limit = some 0
    · rw [if_pos hzero, if_pos hzero]
      rfl
    rw [if_neg hzero, if_neg hzero]
    by_cases hfits : fits limit ∧ fits offset
    · rw [if_pos hfits, if_pos hfits]
      exact congrArg Except.ok (map_slice _ _ _ _)
    · rw [if_neg hfits, if_neg hfits]

end Database

/-- What follows the terms of a sort may give a fault other words, but makes none. -/
theorem sortClash?_eq_none {next : List String} {order : List (String × Direction)}
    (h : sortClash? next order = none) (next' : List String) : sortClash? next' order = none := by
  induction order with
  | nil => rfl
  | cons term rest ih =>
    obtain ⟨word, direction⟩ := term
    rw [sortClash?, Option.or_eq_none_iff] at h ⊢
    refine ⟨?_, ih h.2⟩
    have hfirst := h.1
    by_cases hcase : upper word = "CASE"
    · have hnot : ¬ upper word = "NOT" := by
        rw [hcase]
        decide
      rw [if_neg hnot, if_pos hcase] at hfirst
      cases hfirst
    · rw [if_neg hcase] at hfirst ⊢
      exact hfirst

/-- The text of a page is as good as that of the whole. -/
theorem clash?_page {table : String} {conditions : List Condition}
    {order : List (String × Direction)}
    (h : (Statement.select ⟨.all, some table, conditions, .page order none none⟩).clash? = none)
    (limit offset : Option Nat) :
    (Statement.select ⟨.all, some table, conditions, .page order limit offset⟩).clash? = none := by
  have hparams :
      (Statement.select ⟨.all, some table, conditions, .page order limit offset⟩).params =
      (Statement.select ⟨.all, some table, conditions, .page order none none⟩).params := rfl
  rw [Statement.clash?] at h ⊢
  rw [hparams]
  by_cases hmarks : (Statement.select ⟨.all, some table, conditions,
      .page order none none⟩).params.length > maxMarks
  · rw [if_pos hmarks] at h
    cases h
  · rw [if_neg hmarks] at h ⊢
    simp only [firstFault?, List.findSome?_eq_none_iff, List.forall_mem_cons, id] at h ⊢
    exact ⟨h.1, h.2.1, sortClash?_eq_none h.2.2.1 _, h.2.2.2⟩

end Sql

/-! ## Pages -/

namespace Store

open Sql.Database

variable {s : Schema} {f : Filter} {sort : List (String × Direction)} {st : Storage}
  {records : List Record}

/-- The records of the first `n` pages of a size, taken one after the other. -/
def pages (s : Schema) (f : Filter) (sort : List (String × Direction)) (size : Nat) :
    Nat → Program (List Record)
  | 0 => pure []
  | n + 1 => do
    let front ← pages s f sort size n
    let next ← findPage s f ⟨sort, some size, some (n * size)⟩
    pure (front ++ next)

/-- What a page answers, if the whole answer is known. -/
def pageOf (records : List Record) (limit offset : Option Nat) : Except Failure (List Record) :=
  if limit = some 0 then .ok []
  else if fits limit ∧ fits offset then .ok (slice limit offset records)
  else .error (.storage .mismatch)

/-- The records of a filter in an order are those, all of them. -/
def IsWhole (db : Database) (s : Schema) (f : Filter) (sort : List (String × Direction))
    (records : List Record) : Prop :=
  ∃ conditions, f.compile = .ok conditions ∧ sortFault? s sort = none ∧
    (Statement.select (allColumns s conditions (.page sort none none))).clash? = none ∧
    db.select? (allColumns s conditions (.page sort none none)) = .ok records

theorem findPage_of_compile {conditions : List Condition} (hcompile : f.compile = .ok conditions)
    (limit offset : Option Nat) : findPage s f ⟨sort, limit, offset⟩ =
      match sortFault? s sort with
      | some e => .fail e
      | none => query (allColumns s conditions (.page sort limit offset)) := by
  rw [findPage, hcompile]
  rfl

theorem isWhole_of_answer (h : answer (findPage s f ⟨sort, none, none⟩) st = .ok records) :
    ∃ c, st.opened = .ok c ∧ IsWhole c.database s f sort records := by
  cases hcompile : f.compile with
  | error e =>
    rw [answer, findPage, hcompile] at h
    cases h
  | ok conditions =>
    rw [answer, findPage_of_compile hcompile] at h
    cases hsort : sortFault? s sort with
    | some e =>
      rw [hsort] at h
      cases h
    | none =>
      rw [hsort] at h
      obtain ⟨c, hc, hclash, hselect, -⟩ := run_query_eq_ok (Prod.ext h rfl)
      exact ⟨c, hc, conditions, hcompile, hsort, hclash, hselect⟩

section Run

variable {c : Connection} (hwhole : IsWhole c.database s f sort records)
include hwhole

/-- An opened storage whose whole answer is known answers every page, and stays as it is. -/
theorem run_findPage (hc : st.opened = .ok c) (limit offset : Option Nat) :
    (findPage s f ⟨sort, limit, offset⟩).run Storage.engine st =
      (pageOf records limit offset, st.keep c) := by
  obtain ⟨conditions, hcompile, hsort, hclash, hselect⟩ := hwhole
  have hpage := select?_page hselect limit offset
  have hclash' := clash?_page hclash limit offset
  rw [findPage_of_compile hcompile, hsort]
  unfold pageOf
  by_cases hzero : limit = some 0
  · rw [if_pos hzero] at hpage ⊢
    exact run_query_of_select? hc hclash' hpage
  rw [if_neg hzero] at hpage ⊢
  by_cases hfits : fits limit ∧ fits offset
  · rw [if_pos hfits] at hpage ⊢
    exact run_query_of_select? hc hclash' hpage
  · rw [if_neg hfits] at hpage ⊢
    have hrun : c.database.run? (.select ⟨.all, some s.table, conditions,
        .page sort limit offset⟩) = .error .mismatch := by
      rw [run?, hclash']
      exact Result.map_eq_error_iff.2 hpage
    exact run_query_of_error hc hrun

/-- Pages of one size, taken one after the other, are the records up to their end. -/
theorem run_pages (hc : st.opened = .ok c) {size n : Nat} (hsize : n * size < 2 ^ 63) :
    ∃ st', (pages s f sort size n).run Storage.engine st =
      (.ok (records.take (n * size)), st') ∧ st'.opened = .ok c := by
  induction n with
  | zero => exact ⟨st, by simp [pages], hc⟩
  | succ n ih =>
    rw [Nat.succ_mul] at hsize ⊢
    obtain ⟨st', hrun, hc'⟩ := ih (by omega)
    have hnext := run_findPage hwhole hc' (some size) (some (n * size))
    have hpage : pageOf records (some size) (some (n * size)) =
        .ok ((records.drop (n * size)).take size) := by
      unfold pageOf
      by_cases hzero : size = 0
      · simp [hzero]
      · have hfits : fits (some size) ∧ fits (some (n * size)) := by
          rw [fits_iff, fits_iff]
          exact ⟨by simp only [Option.getD_some]; omega, by simp only [Option.getD_some]; omega⟩
        rw [if_neg (by simpa using hzero), if_pos hfits]
        rfl
    refine ⟨st'.keep c, ?_, rfl⟩
    rw [pages, Program.bind_eq, Program.run_bind, hrun]
    dsimp only
    rw [Program.bind_eq, Program.run_bind, hnext, hpage, List.take_add]
    rfl

end Run

theorem sortRows_mixedNotes :
    mixedNotes.sortRows [("colour", .descending)] mixedNotes.rows = mixedNotes.rows.reverse := by
  have hpair : ∀ (le : Row → Row → Bool) (a b : Row),
      [a, b].mergeSort le = if le a b then [a, b] else [b, a] := by
    intro le a b
    simp [List.mergeSort, List.MergeSort.Internal.splitInTwo, List.merge]
  exact (hpair _ _ _).trans (by decide)

end Store
end Daybook
