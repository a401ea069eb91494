import Daybook.Proofs.Sql.Scan

/-!
# What is looked for in a column

A cell that is looked for in a column is not the cell that the column would store: beside numbers a
text is read as a number, but an integer stays one. So a column of floating-point numbers may store
another number than the one that is looked for. Every other column finds what it stores
(**`store_meets_sought`**), and where a number was rounded nothing is found
(`not_meets_sought`).

* `Affinity.sought`, **`same_align_iff`**: what a cell stands for beside stored cells;
* `Affinity.rounds`: the column stores another number.
-/

namespace Daybook.Sql.Affinity

/-! ## Cells beside stored ones -/

/-- What a cell stands for beside the cells of a column. -/
def sought (a : Affinity) (c : Cell) : Cell :=
  if a.isNumeric then c.asNumber else if a = .text then toText c else c

theorem isText_of_store_text {x : Cell} (hx : Affinity.text.store x = x) :
    x.isText ∨ x.rank = 0 ∨ x.rank = 3 := by
  cases x with
  | int n => cases hx
  | real x => cases hx
  | text s => exact .inl rfl
  | null => exact .inr (.inl rfl)
  | blob b => exact .inr (.inr rfl)

/-- **A stored cell equals another just if it is what that stands for.** -/
theorem same_align_iff {a : Affinity} {x : Cell} (hx : a.store x = x) (c : Cell) :
    (a.align x c).1.same (a.align x c).2 ↔ x.point = (a.sought c).point := by
  rw [align_fst hx, Cell.same, beq_iff_eq, Cell.order_eq_iff, align, sought]
  split_ifs with hnumeric htext ha ha
  · exact Iff.rfl
  · exact Iff.rfl
  · rw [Bool.and_eq_true, decide_eq_true_eq] at htext
    exact absurd htext.1 ha
  · -- neither side is a text, and a number is not stored as it is
    obtain rfl := ha
    rw [Bool.and_eq_true, Bool.or_eq_true, and_iff_right (decide_eq_true rfl), not_or] at htext
    have hrank := (isText_of_store_text hx).resolve_left htext.1
    rw [← Cell.rank_point x] at hrank
    have hne (y : Cell) (hy : y.rank = 1 ∨ y.rank = 2) : x.point ≠ y.point := fun h => by
      rw [h, Cell.rank_point] at hrank
      omega
    cases c with
    | int n => exact iff_of_false (hne _ (.inl rfl)) (hne _ (.inr rfl))
    | real y => exact iff_of_false (hne _ (.inl rfl)) (hne _ (.inr rfl))
    | _ => exact Iff.rfl
  · exact Iff.rfl

/-! ## Numbers that are stored -/

theorem point_of_toInt? {x : Binary64} {n : Int64} (h : x.toInt? = some n.toInt) :
    (Cell.real x).point = (Cell.int n).point := by
  obtain ⟨hfinite, hline⟩ := Binary64.line_of_toInt? h
  rw [Cell.point, Cell.point, if_pos hfinite, hline]

theorem point_shrink (x : Binary64) : (shrink x).point = (Cell.real x).point := by
  rcases shrink_eq_or x with ⟨n, h, hn⟩ | h
  · rw [h, point_of_toInt? hn]
  · rw [h]

/-- To be read as a number changes the kind of a cell, and not its value. -/
theorem point_toNumber (c : Cell) : (toNumber c).point = c.asNumber.point := by
  cases c with
  | text s =>
    rw [toNumber, Cell.asNumber]
    cases hread : numberOfText? s with
    | none => rfl
    | some d =>
      cases d with
      | real x => exact point_shrink x
      | _ => rfl
  | real x => exact point_shrink x
  | _ => rfl

theorem toNumber_of_asNumber {c : Cell} {n : Int64} (h : c.asNumber = .int n) :
    toNumber c = .int n := by
  cases c with
  | text s =>
    rw [Cell.asNumber] at h
    rw [toNumber]
    cases hread : numberOfText? s with
    | none =>
      rw [hread] at h
      cases h
    | some d =>
      rw [hread, Option.getD_some] at h
      rw [h]
  | int m => exact h
  | _ => cases h

/-- The column stores another number: an integer that is no floating-point number. -/
def rounds (a : Affinity) (c : Cell) : Bool :=
  match a, c.asNumber with
  | .real, .int n => Binary64.compareInt n.toInt (Binary64.ofInt n.toInt) != .eq
  | _, _ => false

theorem rounds_eq_true_iff (a : Affinity) (c : Cell) : a.rounds c ↔ a = .real ∧
    ∃ n, c.asNumber = .int n ∧ Binary64.compareInt n.toInt (Binary64.ofInt n.toInt) ≠ .eq := by
  rw [rounds.eq_def]
  split
  · rename_i n hn
    rw [bne_iff_ne]
    constructor
    · exact fun h => ⟨rfl, n, hn, h⟩
    · rintro ⟨-, m, hm, h⟩
      obtain rfl := Cell.int.inj (hn.symm.trans hm)
      exact h
  · rename_i hnot
    refine iff_of_false Bool.false_ne_true ?_
    rintro ⟨rfl, n, hn, -⟩
    exact hnot n rfl hn

/-- An integer that a floating-point number equals is not rounded. -/
theorem compareInt_ofInt_of_point {n : Int64} {x : Binary64}
    (h : (Cell.real x).point = (Cell.int n).point) :
    Binary64.compareInt n.toInt (Binary64.ofInt n.toInt) = .eq := by
  have hcompare := (Cell.point_int_eq_iff n.toInt x).1 h.symm
  obtain ⟨hfinite, hline⟩ := (Binary64.compareInt_eq_iff _ _).1 hcompare
  by_cases hn : n.toInt = 0
  · rw [hn]
    decide +kernel
  · rwa [Binary64.ofInt_eq_of_line hfinite hn hline.symm]

/-- A column of floating-point numbers stores the value of a cell, unless it rounds it. -/
theorem point_store_real {c : Cell} (h : Affinity.real.rounds c = false) :
    (Affinity.real.store c).point = c.asNumber.point := by
  rw [← Bool.not_eq_true, rounds_eq_true_iff] at h
  by_cases hint : ∃ n, toNumber c = .int n
  · obtain ⟨n, hn⟩ := hint
    have hpoint := point_toNumber c
    rw [hn] at hpoint
    -- the integer was read as one, or from a floating-point number
    have hexact : Binary64.compareInt n.toInt (Binary64.ofInt n.toInt) = .eq := by
      cases hread : c.asNumber with
      | int m =>
        obtain rfl := Cell.int.inj (hn.symm.trans (toNumber_of_asNumber hread))
        by_contra hne
        exact h ⟨rfl, n, hread, hne⟩
      | real x =>
        rw [hread] at hpoint
        exact compareInt_ofInt_of_point hpoint.symm
      | _ =>
        rw [hread] at hpoint
        cases hpoint
    rw [store_real_of_int hn, ← hpoint]
    exact ((Cell.point_int_eq_iff _ _).2 hexact).symm
  · rw [store_real_of_ne fun n hn => hint ⟨n, hn⟩, point_toNumber]

/-! ## What is found -/

/-- **A column stores what is found by the cell**, unless it rounds it. -/
theorem store_meets_sought {a : Affinity} {c : Cell} (hc : c ≠ .null) (h : a.rounds c = false) :
    (a.store c).Meets (a.sought c) := by
  rw [Cell.meets_iff]
  refine ⟨fun hnull => hc ?_, ?_⟩
  · rwa [← Cell.isNull_iff, isNull_store, Cell.isNull_iff] at hnull
  · cases a with
    | blob => rfl
    | text => rfl
    | numeric => exact point_toNumber c
    | integer => exact point_toNumber c
    | real => exact point_store_real h

/-- Where a column rounds a cell, no cell that it stores is found. -/
theorem not_meets_sought {a : Affinity} {c x : Cell} (h : a.rounds c) (hx : a.store x = x) :
    ¬ x.Meets (a.sought c) := by
  obtain ⟨rfl, n, hn, hne⟩ := (rounds_eq_true_iff a c).1 h
  have hsought : Affinity.real.sought c = .int n := hn
  rw [hsought, Cell.meets_iff]
  rintro ⟨-, hpoint⟩
  cases x with
  | real y => exact hne (compareInt_ofInt_of_point hpoint)
  | int m => cases hx
  | _ => cases hpoint

end Daybook.Sql.Affinity
