import Daybook.Proofs.Sql.Update

/-!
# Rows that are found

A scan finds the rows for which conditions hold, or stops at a pattern that is too long. A change of
the first row alone looks at the first row that a scan finds, and then takes all rows with the same
`rowid` (**`targetRows?_first`**). That is the row alone if `rowid` is the number of the row, and no
column of that name (**`OwnRowid.touched_eq`**).

* `Affinity.align_fst`, `Affinity.align_snd`: stored cells are compared as they are;
* `scanRows?_none_iff`, `scanRows?_some_of_none`, `scanRows?_one`: what a scan finds;
* `Table.rowid`, `Table.OwnRowid`, `Table.touched`: the value of `rowid`, and the rows with that of
  the first row.
-/

namespace Daybook.Sql

/-! ## Comparisons of stored cells -/

namespace Affinity

/-- A text that a column of numbers stores is no number. -/
theorem asNumber_eq_of_store {a : Affinity} (ha : a.isNumeric) {c : Cell} (h : a.store c = c) :
    c.asNumber = c := by
  cases c with
  | text s =>
    have hnumber : toNumber (.text s) = .text s := by
      cases a with
      | blob => cases ha
      | text => cases ha
      | numeric => exact h
      | integer => exact h
      | real =>
        rw [store] at h
        split at h
        · cases h
        · exact h
    have hnone : numberOfText? s = none := by
      cases hread : numberOfText? s with
      | none => rfl
      | some x =>
        -- a number that was read has another rank than a text
        rcases toNumber_eq_or (.text s) with _ | ⟨hrank, -⟩
        · have hrank := rank_numberOfText? hread
          rw [toNumber, hread] at hnumber
          cases x with
          | real x =>
            have hshrink := rank_shrink x
            rw [show shrink x = .text s from hnumber] at hshrink
            cases hshrink
          | int n => cases hnumber
          | _ => cases hrank
        · rw [hnumber] at hrank
          cases hrank
    rw [Cell.asNumber, hnone, Option.getD_none]
  | _ => rfl

theorem toText_eq_of_store {c : Cell} (h : Affinity.text.store c = c) : toText c = c := h

/-- Beside any value, a stored cell is compared as it is. -/
theorem align_fst {a : Affinity} {x : Cell} (hx : a.store x = x) (y : Cell) : (a.align x y).1 = x := by
  rw [align]
  split_ifs with hnumeric htext
  · exact asNumber_eq_of_store hnumeric hx
  · rw [Bool.and_eq_true, decide_eq_true_eq] at htext
    obtain ⟨rfl, -⟩ := htext
    exact toText_eq_of_store hx
  · rfl

theorem align_snd {a : Affinity} {y : Cell} (hy : a.store y = y) (x : Cell) : (a.align x y).2 = y := by
  rw [align]
  split_ifs with hnumeric htext
  · exact asNumber_eq_of_store hnumeric hy
  · rw [Bool.and_eq_true, decide_eq_true_eq] at htext
    obtain ⟨rfl, -⟩ := htext
    exact toText_eq_of_store hy
  · rfl

end Affinity

/-- A value equals another as it is compared with it, if neither is null. -/
theorem Reference.compare_eq_iff (r : Reference) (row : Row) (right : Cell) :
    r.compare .eq row right ↔ (r.value row).isNull = false ∧ right.isNull = false ∧
      (r.affinity.align (r.value row) right).1.same (r.affinity.align (r.value row) right).2 := by
  rw [compare]
  dsimp only
  cases (r.value row).isNull <;> cases right.isNull <;> simp [Comparison.test, Cell.same]

namespace Table

variable {t : Table} {conditions : List Condition} {rows found : List Row}

/-! ## Scans -/

theorem scanRows?_empty (t : Table) (conditions : List Condition) (limit : Option Nat) :
    t.scanRows? conditions limit [] = .ok [] := by
  rw [scanRows?.eq_def]
  split
  · rfl
  · rfl
  · rename_i heq
    cases heq

theorem scanRows?_cons (t : Table) (conditions : List Condition) {limit : Option Nat}
    (hlimit : limit ≠ some 0) (r : Row) (rest : List Row) :
    t.scanRows? conditions limit (r :: rest) =
      if Condition.allTrip t r conditions then .error .patternTooLong
      else if Condition.allHold t r conditions then
        (t.scanRows? conditions (limit.map (· - 1)) rest).map (r :: ·)
      else t.scanRows? conditions limit rest := by
  rw [scanRows?]
  exact hlimit

/-- **What a scan finds.** -/
theorem scanRows?_none_iff : t.scanRows? conditions none rows = .ok found ↔
    (∀ r ∈ rows, Condition.allTrip t r conditions = false) ∧
      found = rows.filter fun r => Condition.allHold t r conditions := by
  induction rows generalizing found with
  | nil =>
    rw [scanRows?_empty, Except.ok.injEq, eq_comm]
    exact (and_iff_right fun _ h => absurd h List.not_mem_nil).symm
  | cons r rest ih =>
    rw [scanRows?_cons t conditions (Option.some_ne_none _).symm, List.forall_mem_cons, List.filter_cons]
    cases Condition.allTrip t r conditions with
    | true => exact iff_of_false (fun h => nomatch h) fun h => nomatch h.1.1
    | false =>
      cases Condition.allHold t r conditions with
      | false => simpa using ih
      | true =>
        simp only [Bool.false_eq_true, if_false, if_true, Option.map_none, Result.map_eq_ok_iff, ih,
          true_and]
        constructor
        · rintro ⟨more, ⟨htrip, rfl⟩, rfl⟩
          exact ⟨htrip, rfl⟩
        · rintro ⟨htrip, rfl⟩
          exact ⟨_, ⟨htrip, rfl⟩, rfl⟩

/-- The first row is looked for among all of them. -/
theorem scanRows?_one_cons (t : Table) (conditions : List Condition) (r : Row) (rest : List Row) :
    t.scanRows? conditions (some 1) (r :: rest) =
      if Condition.allTrip t r conditions then .error .patternTooLong
      else if Condition.allHold t r conditions then .ok [r]
      else t.scanRows? conditions (some 1) rest := by
  have hone : some 1 ≠ some 0 := by decide
  have hdone : t.scanRows? conditions ((some 1).map (· - 1)) rest = .ok [] := by
    rw [Option.map_some, scanRows?]
  rw [scanRows?_cons t conditions hone, hdone]
  rfl

/-- **A scan for the first row finds it.** -/
theorem scanRows?_one (h : t.scanRows? conditions (some 1) rows = .ok found) :
    found = (rows.find? fun r => Condition.allHold t r conditions).toList := by
  induction rows with
  | nil =>
    rw [scanRows?_empty] at h
    exact (Except.ok.inj h).symm
  | cons r rest ih =>
    rw [scanRows?_one_cons] at h
    rw [List.find?_cons]
    split_ifs at h with htrip hholds
    · rw [hholds]
      exact (Except.ok.inj h).symm
    · rw [Bool.not_eq_true] at hholds
      rw [hholds]
      exact ih h

/-- Where all rows are found, the first are found as well. -/
theorem scanRows?_some_of_none (h : t.scanRows? conditions none rows = .ok found) (k : Nat) :
    t.scanRows? conditions (some k) rows = .ok (found.take k) := by
  obtain ⟨htrip, rfl⟩ := scanRows?_none_iff.1 h
  clear h
  induction rows generalizing k with
  | nil => simp [scanRows?_empty]
  | cons r rest ih =>
    rw [List.forall_mem_cons] at htrip
    cases k with
    | zero => rw [scanRows?, List.take_zero]
    | succ k =>
      rw [scanRows?_cons t conditions (by simp), htrip.1]
      by_cases hholds : Condition.allHold t r conditions
      · simp [hholds, ih k htrip.2, Except.map]
      · simp [hholds, ih (k + 1) htrip.2]

/-- The first row is found if all are. -/
theorem scanRows?_one_of_none (h : t.scanRows? conditions none rows = .ok found) :
    t.scanRows? conditions (some 1) rows =
      .ok (rows.find? fun r => Condition.allHold t r conditions).toList := by
  rw [scanRows?_some_of_none h, (scanRows?_none_iff.1 h).2, List.take_one, List.head?_filter]

/-- Where there is no first row, there is none. -/
theorem scanRows?_none_of_one (h : t.scanRows? conditions (some 1) rows = .ok []) :
    t.scanRows? conditions none rows = .ok [] := by
  induction rows with
  | nil => exact scanRows?_empty _ _ _
  | cons r rest ih =>
    rw [scanRows?_one_cons] at h
    rw [scanRows?_cons t conditions (Option.some_ne_none _).symm]
    split_ifs at h ⊢
    · cases h
    · exact ih h

/-- A search for all rows fails only for a pattern that is too long. A search for the first row fails
as well, or has found it before. -/
theorem scanRows?_one_of_error {fault : Fault} (h : t.scanRows? conditions none rows = .error fault) :
    fault = .patternTooLong ∧ (t.scanRows? conditions (some 1) rows = .error fault ∨
      ∃ r ∈ rows, Condition.allHold t r conditions ∧
        t.scanRows? conditions (some 1) rows = .ok [r]) := by
  induction rows with
  | nil =>
    rw [scanRows?_empty] at h
    cases h
  | cons r rest ih =>
    rw [scanRows?_cons t conditions (Option.some_ne_none _).symm] at h
    rw [scanRows?_one_cons]
    split_ifs at h ⊢ with htrip hholds
    · obtain rfl := Except.error.inj h
      exact ⟨rfl, .inl rfl⟩
    · exact ⟨(ih (Result.map_eq_error_iff.1 h)).1, .inr ⟨r, List.mem_cons_self, hholds, rfl⟩⟩
    · obtain ⟨hfault, hone | ⟨r', hr', hholds', hone⟩⟩ := ih h
      · exact ⟨hfault, .inl hone⟩
      · exact ⟨hfault, .inr ⟨r', List.mem_cons_of_mem _ hr', hholds', hone⟩⟩

/-! ## The value of `rowid` -/

/-- What `rowid` stands for: the number of the row, unless a column has the name. -/
def rowidReference (t : Table) : Reference := (t.resolve? "rowid").getD .number

/-- The value of `rowid` in a row. -/
def rowid (t : Table) (r : Row) : Cell := t.rowidReference.value r

/-- The rows with the `rowid` of a row. -/
def sharing (t : Table) (first : Row) : List Row :=
  t.rows.filter fun r => decide ((t.rowid r).Meets (t.rowid first))

/-- The rows that a change of a first row touches: those with its `rowid`. -/
def touched (t : Table) (first : Option Row) : List Row := first.elim [] t.sharing

/-- No column is called `rowid`, but for one that is the number of the row. -/
def OwnRowid (t : Table) : Prop :=
  t.position? "rowid" = none ∨ t.position? "rowid" = t.numberColumn?

instance (t : Table) : Decidable t.OwnRowid :=
  inferInstanceAs (Decidable (_ ∨ _))

/-- The numbers of the rows are in the range of integers. -/
def InRange (t : Table) : Prop := ∀ r ∈ t.rows, -(2 ^ 63) ≤ r.id ∧ r.id < 2 ^ 63

instance (t : Table) : Decidable t.InRange :=
  inferInstanceAs (Decidable (∀ r ∈ t.rows, _))

theorem resolve?_rowid_of_none (h : t.position? "rowid" = none) :
    t.resolve? "rowid" = some .number := by
  rw [resolve?, h]
  rfl

theorem resolve?_of_position? {column : String} {i : Nat} (h : t.position? column = some i)
    {c : ColumnDef} (hc : t.columns[i]? = some c) :
    t.resolve? column = some (.cell i c.affinity) := by
  rw [resolve?, h]
  dsimp only
  rw [hc]
  rfl

/-- The cell of a sound row at a position. -/
theorem Sound.holds_getD (h : t.Sound) {r : Row} (hr : r ∈ t.rows) {i : Nat} {c : ColumnDef}
    (hc : t.columns[i]? = some c) : c.Holds r.id (r.cells.getD i .null) := by
  have hfits := h.fits r hr
  have hlt : i < r.cells.length := by
    rw [hfits.width]
    exact (List.getElem?_eq_some_iff.1 hc).1
  have hcell := List.getElem?_eq_getElem hlt
  rw [List.getD_eq_getElem?_getD, hcell, Option.getD_some]
  exact hfits.holds i c _ hc hcell

/-- The value of `rowid` is stored as it is. -/
theorem Sound.store_rowid (h : t.Sound) {r : Row} (hr : r ∈ t.rows) :
    t.rowidReference.affinity.store (t.rowid r) = t.rowid r := by
  rw [rowid, rowidReference]
  cases hi : t.position? "rowid" with
  | none =>
    rw [resolve?_rowid_of_none hi]
    rfl
  | some i =>
    have hlt := (List.findIdx?_eq_some_iff_getElem.1 hi).1
    have hc := List.getElem?_eq_getElem hlt
    rw [resolve?_of_position? hi hc]
    exact (h.holds_getD hr hc).stored

theorem OwnRowid.rowid_eq (hown : t.OwnRowid) (h : t.Sound) {r : Row} (hr : r ∈ t.rows) :
    t.rowid r = .int (Int64.ofInt r.id) := by
  rw [rowid, rowidReference]
  cases hi : t.position? "rowid" with
  | none =>
    rw [resolve?_rowid_of_none hi]
    rfl
  | some i =>
    -- the column is the number of the row under its own name
    have hlt := (List.findIdx?_eq_some_iff_getElem.1 hi).1
    have hc := List.getElem?_eq_getElem hlt
    rw [resolve?_of_position? hi hc]
    refine (h.holds_getD hr hc).number ?_
    rcases hown with hown | hown
    · cases hi.symm.trans hown
    · obtain ⟨_, hnumber, -⟩ := List.findIdx?_eq_some_iff_getElem.1 (hown.symm.trans hi)
      exact hnumber

/-- No two rows have the same `rowid`. -/
def RowidUnique (t : Table) : Prop :=
  ∀ a ∈ t.rows, ∀ b ∈ t.rows, (t.rowid a).Meets (t.rowid b) → a = b

/-- Rows with the same number are the same. -/
theorem Sound.eq_of_meets_id (h : t.Sound) (hrange : t.InRange) {a b : Row} (ha : a ∈ t.rows)
    (hb : b ∈ t.rows) (hmeets : (Cell.int (Int64.ofInt a.id)).Meets (.int (Int64.ofInt b.id))) :
    a = b := by
  rw [Cell.meets_iff] at hmeets
  have hto := mul_right_cancel₀ (pow_ne_zero _ two_ne_zero) (Point.number.inj hmeets.2)
  rw [Int64.toInt_ofInt_of_le (hrange a ha).1 (hrange a ha).2,
    Int64.toInt_ofInt_of_le (hrange b hb).1 (hrange b hb).2] at hto
  exact h.eq_of_id_eq ha hb hto

/-- **The numbers of rows are their own.** -/
theorem OwnRowid.unique (hown : t.OwnRowid) (h : t.Sound) (hrange : t.InRange) :
    t.RowidUnique := by
  intro a ha b hb hmeets
  rw [hown.rowid_eq h ha, hown.rowid_eq h hb] at hmeets
  exact h.eq_of_meets_id hrange ha hb hmeets

theorem Sound.nodup_rows (h : t.Sound) : t.rows.Nodup :=
  h.ascending.imp fun hlt heq => by
    rw [heq] at hlt
    exact Int.lt_irrefl _ hlt

/-- A row stands alone under a condition that holds for no other. -/
theorem Sound.filter_eq_singleton (h : t.Sound) {p : Row → Bool} {row : Row} (hrow : row ∈ t.rows)
    (hp : ∀ r ∈ t.rows, p r ↔ r = row) : t.rows.filter p = [row] := by
  have hdecide : ∀ r ∈ t.rows, p r = decide (r = row) := fun r hr => by
    rw [Bool.eq_iff_iff, decide_eq_true_iff, hp r hr]
  rw [List.filter_congr hdecide, List.filter_eq, List.count_eq_one_of_mem h.nodup_rows hrow]
  rfl

/-- **A row shares its `rowid` with no other**, if no two rows have the same. -/
theorem Sound.sharing_eq (h : t.Sound) (hunique : t.RowidUnique) {first : Row}
    (hfirst : first ∈ t.rows) (hnull : (t.rowid first).isNull = false) :
    t.sharing first = [first] := by
  refine h.filter_eq_singleton hfirst fun r hr => ?_
  rw [decide_eq_true_iff]
  constructor
  · exact hunique r hr first hfirst
  · rintro rfl
    rw [Cell.meets_iff, ne_eq, ← Cell.isNull_iff, hnull]
    exact ⟨Bool.false_ne_true, rfl⟩

/-- Null is the `rowid` of no row. -/
theorem sharing_of_isNull {first : Row} (hnull : (t.rowid first).isNull) : t.sharing first = [] := by
  refine List.filter_eq_nil_iff.2 fun r _ hmeets => ?_
  have hfirst := (of_decide_eq_true hmeets).2.1
  rw [hnull] at hfirst
  exact absurd hfirst Bool.false_ne_true

/-- **The first row is touched alone**, if `rowid` is the number of the row. -/
theorem OwnRowid.touched_eq (hown : t.OwnRowid) (h : t.Sound) (hrange : t.InRange)
    {first : Option Row} (hfirst : ∀ r ∈ first, r ∈ t.rows) : t.touched first = first.toList := by
  cases first with
  | none => rfl
  | some r =>
    have hr := hfirst r rfl
    refine h.sharing_eq (hown.unique h hrange) hr ?_
    rw [hown.rowid_eq h hr]
    rfl

/-- One row at most is touched, if no two rows have the same `rowid`. -/
theorem Sound.length_touched_le (h : t.Sound) (hunique : t.RowidUnique) {first : Option Row}
    (hfirst : ∀ r ∈ first, r ∈ t.rows) : (t.touched first).length ≤ 1 := by
  cases first with
  | none => exact Nat.zero_le 1
  | some r =>
    rw [touched, Option.elim_some]
    cases hnull : (t.rowid r).isNull with
    | true =>
      rw [sharing_of_isNull hnull]
      exact Nat.zero_le 1
    | false =>
      rw [h.sharing_eq hunique (hfirst r rfl) hnull]
      exact Nat.le_refl 1

end Table

namespace Database

variable {t : Table} {conditions : List Condition} {rows : List Row}

/-- Rows are met in some order. -/
theorem perm_metOrder (t : Table) (conditions : List Condition) (order : List (String × Direction))
    (rows : List Row) : (metOrder t conditions order rows).Perm rows := by
  have hsort (order : List (String × Direction)) : (t.sortRows order rows).Perm rows := by
    rw [Table.sortRows]
    split_ifs
    · exact List.Perm.refl _
    · exact List.mergeSort_perm _ _
  rw [metOrder.eq_def]
  split
  · exact hsort _
  · split_ifs
    · exact List.reverse_perm _
    · exact List.Perm.refl _
  · exact List.Perm.refl _

/-- **The rows of a change of the first row**: those with its `rowid`. -/
theorem targetRows?_first (h : t.Sound) (hok : targetRows? t (.first conditions) = .ok rows) :
    rows = t.touched (t.rows.find? fun r => Condition.allHold t r conditions) := by
  obtain ⟨found, hfound, hrows⟩ := Result.bind_eq_ok_iff.1 hok
  have hfilter := (Except.ok.inj hrows).symm
  rw [Table.scanRows?_one hfound] at hfilter
  rw [hfilter]
  rw [Table.touched]
  cases hfirst : t.rows.find? fun r => Condition.allHold t r conditions with
  | none =>
    rw [Option.toList_none, List.map_nil]
    exact List.filter_eq_nil_iff.2 fun r _ => Bool.false_ne_true
  | some first =>
    have hmem := List.mem_of_find?_eq_some hfirst
    refine List.filter_congr fun r hr => ?_
    rw [Option.toList_some, List.map_singleton, Bool.eq_iff_iff, decide_eq_true_iff]
    show (t.rowidReference.compare .eq r (t.rowid first) || false) = true ↔ _
    have hvalue : t.rowidReference.value r = t.rowid r := rfl
    rw [Bool.or_false, Reference.compare_eq_iff, hvalue, Affinity.align_fst (h.store_rowid hr),
      Affinity.align_snd (h.store_rowid hmem), Cell.Meets, Bool.not_eq_true', Bool.not_eq_true']

end Database
end Daybook.Sql
