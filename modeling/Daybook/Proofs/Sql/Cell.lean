import Daybook.Proofs.Number.Binary64
import Daybook.Sql.Change

/-!
# Equal cells

Cells that compare as equal need not be the same cell: `1` and `1.0` do. Every cell has a point on
one line, and cells compare as equal just if their points are the same (`order_eq_iff`), so that to
be equal is an equivalence. Keys meet if they are equal and not null (`Meets`).

* `Cell.point`, `Cell.Meets`;
* `sameKey_map_iff`: keys of several cells;
* `isNull_store`, **`store_store`**: what a column stores.
-/

namespace Daybook.Sql

/-! ## Points -/

/-- The place of a cell in the order of all cells. -/
inductive Point where
  | null
  | number (n : Int)
  /-- A pattern beyond all numbers. -/
  | beyond (n : Int)
  | text (s : String)
  | blob (b : Bytes)
  deriving DecidableEq

/-- The rank of a point: null, numbers, texts, byte strings. -/
def Point.rank : Point → Nat
  | .null => 0
  | .number _ | .beyond _ => 1
  | .text _ => 2
  | .blob _ => 3

namespace Cell

theorem isNull_iff (a : Cell) : a.isNull ↔ a = .null := by
  cases a <;> simp [isNull]

theorem isNull_ofJson_iff (v : Json) : (ofJson v).isNull ↔ v = .null := by
  cases v with
  | null => exact iff_of_true rfl rfl
  | int n =>
    rw [ofJson, ofInt?]
    split_ifs
    · exact iff_of_false Bool.false_ne_true fun h => nomatch h
    · exact iff_of_false Bool.false_ne_true fun h => nomatch h
  | _ => exact iff_of_false Bool.false_ne_true Json.noConfusion

theorem ofInt?_toInt (n : Int64) : ofInt? n.toInt = some (.int n) := by
  have hle := n.le_toInt
  have hlt := n.toInt_lt
  rw [ofInt?, if_pos ⟨hle, hlt⟩, Int64.ofInt_toInt]

/-- The point of a cell; numbers that are equal have one point. -/
def point : Cell → Point
  | .null => .null
  | .int n => .number (n.toInt * 2 ^ 1074)
  | .real x => if x.isFinite then .number x.line else .beyond x.line
  | .text s => .text s
  | .blob b => .blob b

theorem orderBytes_eq_iff (a b : Bytes) : orderBytes a b = .eq ↔ a = b := by
  induction a generalizing b with
  | nil => cases b <;> simp [orderBytes]
  | cons x xs ih =>
    cases b with
    | nil => simp [orderBytes]
    | cons y ys =>
      rw [orderBytes, Ordering.then_eq_eq, ih, Std.LawfulEqCmp.compare_eq_iff_eq, List.cons.injEq]

theorem point_real_eq_iff (x y : Binary64) :
    (Cell.real x).point = (Cell.real y).point ↔ x.line = y.line := by
  have hfinite : x.line = y.line → x.isFinite = y.isFinite := by
    intro h
    rw [Bool.eq_iff_iff, Binary64.isFinite_iff, Binary64.isFinite_iff, h]
  rw [point, point]
  cases hx : x.isFinite <;> cases hy : y.isFinite <;> simp_all

theorem point_int_eq_iff (n : Int) (x : Binary64) :
    Point.number (n * 2 ^ 1074) = (Cell.real x).point ↔ Binary64.compareInt n x = .eq := by
  rw [Binary64.compareInt_eq_iff, point]
  by_cases h : x.isFinite
  · rw [if_pos h, Point.number.injEq, and_iff_right h]
  · rw [if_neg h]
    exact iff_of_false (fun h' => nomatch h') fun h' => h h'.1

theorem order_of_rank_ne {a b : Cell} (h : a.rank ≠ b.rank) :
    a.order b = compare a.rank b.rank := by
  cases a <;> cases b <;> first | rfl | exact absurd rfl h

theorem rank_point (a : Cell) : a.point.rank = a.rank := by
  cases a with
  | real x =>
    rw [point]
    split_ifs <;> rfl
  | _ => rfl

/-- **Cells compare as equal just if their points are the same.** -/
theorem order_eq_iff (a b : Cell) : a.order b = .eq ↔ a.point = b.point := by
  by_cases hr : a.rank = b.rank
  · match a, b with
    | .null, .null => simp [order, point]
    | .int m, .int n =>
      rw [order, Std.LawfulEqCmp.compare_eq_iff_eq, point, point, Point.number.injEq,
        mul_left_inj' (pow_ne_zero _ two_ne_zero)]
    | .int m, .real y => rw [order, ← point_int_eq_iff, point]
    | .real x, .int n =>
      rw [order, Ordering.swap_eq_eq, ← point_int_eq_iff, eq_comm, point, point]
    | .real x, .real y => rw [order, Binary64.compare_eq_iff, point_real_eq_iff]
    | .text s, .text t =>
      rw [order, Std.LawfulEqCmp.compare_eq_iff_eq, point, point, Point.text.injEq]
    | .blob s, .blob t => rw [order, orderBytes_eq_iff, point, point, Point.blob.injEq]
  · rw [order_of_rank_ne hr, Std.LawfulEqCmp.compare_eq_iff_eq]
    exact iff_of_false hr fun h => hr (by rw [← rank_point, h, rank_point])

/-! ## Keys -/

/-- The cells are equal, and not null. -/
def Meets (a b : Cell) : Prop := !a.isNull ∧ !b.isNull ∧ a.same b

instance (a b : Cell) : Decidable (a.Meets b) :=
  inferInstanceAs (Decidable (!a.isNull ∧ !b.isNull ∧ a.same b))

theorem meets_iff (a b : Cell) : a.Meets b ↔ a ≠ .null ∧ a.point = b.point := by
  have hnull : ∀ c : Cell, !c.isNull ↔ c.rank ≠ 0 := by
    intro c
    cases c <;> simp [isNull, rank]
  have hne : a ≠ .null ↔ a.rank ≠ 0 := by cases a <;> simp [rank]
  rw [Meets, same, beq_iff_eq, order_eq_iff, hnull, hnull, hne]
  constructor
  · rintro ⟨h, -, heq⟩
    exact ⟨h, heq⟩
  · rintro ⟨h, heq⟩
    exact ⟨h, by rwa [← rank_point, ← heq, rank_point], heq⟩

theorem Meets.symm {a b : Cell} (h : a.Meets b) : b.Meets a := by
  obtain ⟨ha, hb, hab⟩ := h
  refine ⟨hb, ha, ?_⟩
  rw [same, beq_iff_eq, order_eq_iff] at hab ⊢
  exact hab.symm

theorem Meets.trans {a b c : Cell} (h : a.Meets b) (h' : b.Meets c) : a.Meets c := by
  rw [meets_iff] at h h' ⊢
  exact ⟨h.1, h.2.trans h'.2⟩

theorem meets_text_left_iff (s : String) (v : Cell) : (Cell.text s).Meets v ↔ v = .text s := by
  rw [meets_iff]
  refine (and_iff_right Cell.noConfusion).trans ?_
  cases v with
  | text x =>
    show Point.text s = .text x ↔ _
    rw [Point.text.injEq, Cell.text.injEq, eq_comm]
  | real x =>
    refine iff_of_false ?_ Cell.noConfusion
    show Point.text s ≠ if x.isFinite then .number x.line else .beyond x.line
    split_ifs <;> exact Point.noConfusion
  | _ => exact iff_of_false Point.noConfusion Cell.noConfusion

theorem meets_text_iff (s t : String) : (Cell.text s).Meets (.text t) ↔ s = t := by
  rw [meets_text_left_iff, Cell.text.injEq, eq_comm]

end Cell

/-- Keys are the same just if their cells meet. -/
theorem Table.sameKey_map_iff {α : Type} (f g : α → Cell) (xs : List α) :
    sameKey (xs.map f) (xs.map g) ↔ ∀ x ∈ xs, (f x).Meets (g x) := by
  simp only [sameKey, List.zip_map', List.all_map, List.all_eq_true, Function.comp_apply,
    Bool.and_eq_true, Cell.Meets, and_assoc]

/-! ## What columns store -/

namespace Affinity

theorem rank_shrink (x : Binary64) : (shrink x).rank = 1 := by
  rw [shrink]
  split
  · split_ifs <;> rfl
  · rfl

theorem rank_toCell (n : NumberText) : n.toCell.rank = 1 := by
  have hint : ∀ c, n.integer? = some c → c.rank = 1 := by
    intro c hc
    rw [NumberText.integer?] at hc
    split_ifs at hc
    all_goals
      rw [Cell.ofInt?] at hc
      split_ifs at hc
      rw [← Option.some.inj hc]
      rfl
  rw [NumberText.toCell]
  cases h : n.integer? with
  | none => rfl
  | some c => exact hint c h

theorem rank_numberOfText? {s : String} {c : Cell} (h : numberOfText? s = some c) : c.rank = 1 := by
  simp only [numberOfText?] at h
  split_ifs at h
  rw [← Option.some.inj h, rank_toCell]

/-- Reading a cell as a number leaves it as it is, or makes a number of a number or a text. -/
theorem toNumber_eq_or (c : Cell) :
    toNumber c = c ∨ ((toNumber c).rank = 1 ∧ (c.rank = 1 ∨ c.rank = 2)) := by
  cases c with
  | text s =>
    rw [toNumber]
    split
    · exact .inr ⟨rank_shrink _, .inr rfl⟩
    · rename_i h
      exact .inr ⟨rank_numberOfText? h, .inr rfl⟩
    · exact .inl rfl
  | real x => exact .inr ⟨rank_shrink x, .inl rfl⟩
  | _ => exact .inl rfl

/-- A column stores a cell as it is, or a number or text for a number or text. -/
theorem store_eq_or (a : Affinity) (c : Cell) :
    a.store c = c ∨
      (((a.store c).rank = 1 ∨ (a.store c).rank = 2) ∧ (c.rank = 1 ∨ c.rank = 2)) := by
  have hnumber : toNumber c = c ∨
      (((toNumber c).rank = 1 ∨ (toNumber c).rank = 2) ∧ (c.rank = 1 ∨ c.rank = 2)) :=
    (toNumber_eq_or c).imp_right fun h => ⟨.inl h.1, h.2⟩
  cases a with
  | blob => exact .inl rfl
  | integer => exact hnumber
  | numeric => exact hnumber
  | text =>
    cases c with
    | int n => exact .inr ⟨.inr rfl, .inl rfl⟩
    | real x => exact .inr ⟨.inr rfl, .inl rfl⟩
    | _ => exact .inl rfl
  | real =>
    rw [store]
    split
    · rename_i n h
      rw [h] at hnumber
      refine .inr ⟨.inl rfl, ?_⟩
      rcases hnumber with rfl | h
      · exact .inl rfl
      · exact h.2
    · exact hnumber

/-- A column stores null just for null. -/
@[simp] theorem isNull_store (a : Affinity) (c : Cell) : (a.store c).isNull = c.isNull := by
  have hrank : ∀ c : Cell, c.rank = 1 ∨ c.rank = 2 → c.isNull = false := by
    intro c
    cases c <;> simp [Cell.rank, Cell.isNull]
  rcases store_eq_or a c with h | ⟨h, h'⟩
  · rw [h]
  · rw [hrank _ h, hrank _ h']

theorem toInt_ofInt {n : Int} (h : -(2 ^ 63) < n ∧ n < 2 ^ 63 - 1) : (Int64.ofInt n).toInt = n :=
  Int64.toInt_ofInt_of_le (by omega) (by omega)

/-- A floating-point number is an integer of its value, or stays as it is. -/
theorem shrink_eq_or (x : Binary64) :
    (∃ n : Int64, shrink x = .int n ∧ x.toInt? = some n.toInt) ∨ shrink x = .real x := by
  rw [shrink]
  split
  · rename_i n h
    split_ifs with hn
    · exact .inl ⟨_, rfl, by rw [h, toInt_ofInt hn]⟩
    · exact .inr rfl
  · exact .inr rfl

theorem toNumber_shrink (x : Binary64) : toNumber (shrink x) = shrink x := by
  rcases shrink_eq_or x with ⟨n, h, -⟩ | h
  · rw [h]
    rfl
  · rw [h]
    exact h

theorem toNumber_toNumber (c : Cell) : toNumber (toNumber c) = toNumber c := by
  cases c with
  | text s =>
    rw [toNumber]
    split
    · exact toNumber_shrink _
    · rename_i c hne h
      have hrank := rank_numberOfText? h
      cases c with
      | real x => exact absurd rfl (hne x)
      | int n => rfl
      | _ => simp [Cell.rank] at hrank
    · rename_i h
      rw [toNumber, h]
  | real x => exact toNumber_shrink x
  | _ => rfl

/-- A text is stored as it is, unless the column stores numbers and the text is one. -/
theorem store_text {a : Affinity} {s : String} (h : a = .text ∨ numberOfText? s = none) :
    a.store (.text s) = .text s := by
  rcases h with rfl | h
  · rfl
  · have hnumber : toNumber (.text s) = .text s := by rw [toNumber, h]
    cases a with
    | blob => rfl
    | text => rfl
    | real => rw [store, hnumber]
    | _ => exact hnumber

theorem store_real_of_int {c : Cell} {n : Int64} (h : toNumber c = .int n) :
    Affinity.real.store c = .real (Binary64.ofInt n.toInt) := by
  rw [store, h]

theorem store_real_of_ne {c : Cell} (h : ∀ n, toNumber c ≠ .int n) :
    Affinity.real.store c = toNumber c := by
  rw [store]
  split
  · rename_i n hn
    exact absurd hn (h n)
  · rfl

/-- **To store a cell once more changes nothing.** -/
@[simp] theorem store_store (a : Affinity) (c : Cell) : a.store (a.store c) = a.store c := by
  cases a with
  | blob => rfl
  | integer => exact toNumber_toNumber c
  | numeric => exact toNumber_toNumber c
  | text => cases c <;> rfl
  | real =>
    by_cases hint : ∃ n, toNumber c = .int n
    · obtain ⟨n, hn⟩ := hint
      rw [store_real_of_int hn]
      rcases shrink_eq_or (Binary64.ofInt n.toInt) with ⟨m, hm, hto⟩ | hm
      · rw [store_real_of_int (c := .real _) hm, Binary64.ofInt_toInt? hto]
      · refine (store_real_of_ne fun k hk => ?_).trans hm
        exact nomatch hm.symm.trans hk
    · have hne : ∀ n, toNumber c ≠ .int n := fun n hn => hint ⟨n, hn⟩
      have hnumber := toNumber_toNumber c
      rw [store_real_of_ne hne, store_real_of_ne (by rwa [hnumber]), hnumber]

end Affinity
end Daybook.Sql
