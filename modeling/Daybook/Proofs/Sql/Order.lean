import Daybook.Proofs.Bytes.Gzip
import Daybook.Sql.Affinity
import Mathlib.Data.Char
import Mathlib.Data.List.Basic

/-!
# The order of texts

Texts are ordered character by character (`compare_toList`), and that is the order in which the
database sorts them and compares them. It is the order of their bytes as well
(**`orderBytes_ofText`**): the bytes of a greater character are greater, whatever follows.

* `compare_append`: what decides between two lists that begin with parts of one length;
* `compare_lists`: lists are compared as their order says;
* `utf8Codes`, `utf8Codes_lt`: the bytes of a character, and their order.
-/

namespace Daybook

/-! ## Lists -/

/-- Of two lists that begin with parts of one length, the parts decide first. -/
theorem compare_append {α : Type} [Ord α] {a b : List α} (h : a.length = b.length) (s t : List α) :
    compare (a ++ s) (b ++ t) = (compare a b).then (compare s t) := by
  induction a generalizing b with
  | nil =>
    obtain rfl := List.length_eq_zero_iff.1 h.symm
    rfl
  | cons x a ih =>
    obtain ⟨y, b, rfl⟩ := List.exists_cons_of_length_eq_add_one h.symm
    rw [List.cons_append, List.cons_append, List.compare_cons_cons, List.compare_cons_cons,
      ih (Nat.succ.inj h), Ordering.then_assoc]

/-- Lists are compared as their order says. -/
theorem compare_lists {α : Type} [LinearOrder α] (s t : List α) :
    compare s t = compareOfLessAndEq s t := by
  induction s generalizing t with
  | nil =>
    cases t with
    | nil => rfl
    | cons y t => simp [compareOfLessAndEq]
  | cons x s ih =>
    cases t with
    | nil => simp [compareOfLessAndEq]
    | cons y t =>
      rw [List.compare_cons_cons, ih, LinearOrder.compare_eq_compareOfLessAndEq]
      simp only [compareOfLessAndEq, List.cons_lt_cons_iff, List.cons.injEq]
      rcases lt_trichotomy x y with h | rfl | h
      · simp [h]
      · simp
      · simp [not_lt_of_gt h, ne_of_gt h]

theorem compare_eq_lt {s t : List Nat} (h : s < t) : compare s t = .lt := by
  rw [compare_lists, compareOfLessAndEq, if_pos h]

theorem compare_eq_gt {s t : List Nat} (h : t < s) : compare s t = .gt := by
  rw [compare_lists, compareOfLessAndEq, if_neg (List.lt_asymm h),
    if_neg fun heq => List.lt_irrefl _ (heq ▸ h)]

/-! ## Characters and texts -/

theorem Char.compare_self (c : Char) : compare c c = .eq := by
  show compareOfLessAndEq c c = .eq
  simp [compareOfLessAndEq]

theorem compare_cons_self (c : Char) (s t : List Char) :
    compare (c :: s) (c :: t) = compare s t := by
  rw [List.compare_cons_cons, Char.compare_self]
  rfl

theorem Char.compare_eq (c d : Char) : compare c d = compare c.toNat d.toNat := by
  have hlt : c < d ↔ c.toNat < d.toNat := Iff.rfl
  have heq : c = d ↔ c.toNat = d.toNat := ⟨congrArg _, fun h => Char.toNat_inj.1 h⟩
  show compareOfLessAndEq c d = compareOfLessAndEq c.toNat d.toNat
  simp only [compareOfLessAndEq, hlt, heq]

theorem Char.toNat_lt (c : Char) : c.toNat < 1114112 := by
  rcases c.valid with h | h
  · exact Nat.lt_trans h (by decide)
  · exact h.2

/-- **Texts are compared character by character.** -/
theorem compare_toList (s t : String) : compare s t = compare s.toList t.toList := by
  refine Eq.trans ?_ (compare_lists s.toList t.toList).symm
  show compareOfLessAndEq s t = _
  simp only [compareOfLessAndEq, String.lt_iff, String.toList_inj]

/-! ## Bytes -/

/-- The bytes of a character in UTF-8: its digits to the base 64, and in the first byte how many
there are. -/
def utf8Codes (v : Nat) : List Nat :=
  if v ≤ 127 then [v]
  else if v ≤ 2047 then [v / 64 % 32 + 192, v % 64 + 128]
  else if v ≤ 65535 then [v / 4096 % 16 + 224, v / 64 % 64 + 128, v % 64 + 128]
  else [v / 262144 % 8 + 240, v / 4096 % 64 + 128, v / 64 % 64 + 128, v % 64 + 128]

theorem utf8EncodeChar_eq (c : Char) :
    String.utf8EncodeChar c = (utf8Codes c.toNat).map UInt8.ofNat := by
  show String.utf8EncodeChar c = (utf8Codes c.val.toNat).map UInt8.ofNat
  simp only [String.utf8EncodeChar, utf8Codes]
  split_ifs <;> rfl

theorem exists_utf8Codes_eq_cons (v : Nat) : ∃ n ns, utf8Codes v = n :: ns := by
  simp only [utf8Codes]
  split_ifs <;> exact ⟨_, _, rfl⟩

theorem lt_of_mem_utf8Codes {v : Nat} (hv : v < 1114112) : ∀ n ∈ utf8Codes v, n < 256 := by
  simp only [utf8Codes]
  split_ifs <;> simp <;> omega

/-- The bytes of a greater character are greater, whatever follows. -/
theorem utf8Codes_lt {v w : Nat} (h : v < w) (hw : w < 1114112) (s t : List Nat) :
    utf8Codes v ++ s < utf8Codes w ++ t := by
  have hthird : v / 64 / 64 = v / 4096 ∧ w / 64 / 64 = w / 4096 :=
    ⟨Nat.div_div_eq_div_mul v 64 64, Nat.div_div_eq_div_mul w 64 64⟩
  have hfirst : v / 262144 % 8 = v / 262144 ∧ w / 262144 % 8 = w / 262144 := by omega
  have hlast : v / 64 < w / 64 ∨ v / 64 = w / 64 ∧ v % 64 < w % 64 := by omega
  simp only [utf8Codes]
  -- A longer form begins with a greater byte; in one form the first digit that differs decides.
  split_ifs <;> simp only [List.cons_append, List.nil_append, List.cons_lt_cons_iff] <;> omega

/-- Of two texts, the first characters decide first, with all of their bytes. -/
theorem compare_utf8Codes {v w : Nat} (hv : v < 1114112) (hw : w < 1114112) (s t : List Nat) :
    compare (utf8Codes v ++ s) (utf8Codes w ++ t) = (compare v w).then (compare s t) := by
  rcases Nat.lt_trichotomy v w with h | rfl | h
  · rw [compare_eq_lt (utf8Codes_lt h hw s t), Nat.compare_eq_lt.2 h]
    rfl
  · have hself : compare (utf8Codes v) (utf8Codes v) = .eq := by
      rw [compare_lists, compareOfLessAndEq, if_neg (List.lt_irrefl _), if_pos rfl]
    rw [compare_append rfl, hself, Nat.compare_eq_eq.2 rfl]
  · rw [compare_eq_gt (utf8Codes_lt h hv t s), Nat.compare_eq_gt.2 h]
    rfl

theorem Bytes.ofText_eq (s : String) :
    Bytes.ofText s = (s.toList.flatMap fun c => utf8Codes c.toNat).map UInt8.ofNat := by
  have hlist : Bytes.ofText (String.ofList s.toList) = s.toList.flatMap String.utf8EncodeChar :=
    (Bytes.toList_loop (String.ofList s.toList).toByteArray 0 []).trans
      List.toList_data_toByteArray
  rw [String.ofList_toList] at hlist
  rw [hlist, List.map_flatMap]
  exact List.flatMap_congr fun c _ => utf8EncodeChar_eq c

open Sql in
/-- Bytes are in the order of their numbers. -/
theorem orderBytes_map {s t : List Nat} (hs : ∀ n ∈ s, n < 256) (ht : ∀ n ∈ t, n < 256) :
    Cell.orderBytes (s.map UInt8.ofNat) (t.map UInt8.ofNat) = compare s t := by
  induction s generalizing t with
  | nil => cases t <;> rfl
  | cons m s ih =>
    cases t with
    | nil => rfl
    | cons n t =>
      rw [List.forall_mem_cons] at hs ht
      have hbyte : compare (UInt8.ofNat m) (UInt8.ofNat n) = compare m n := by
        have hlt : UInt8.ofNat m < UInt8.ofNat n ↔ m < n := by
          rw [UInt8.lt_iff_toNat_lt, UInt8.toNat_ofNat', UInt8.toNat_ofNat']
          omega
        have heq : UInt8.ofNat m = UInt8.ofNat n ↔ m = n := by
          rw [← UInt8.toNat_inj, UInt8.toNat_ofNat', UInt8.toNat_ofNat']
          omega
        show compareOfLessAndEq _ _ = compareOfLessAndEq _ _
        simp only [compareOfLessAndEq, hlt, heq]
      rw [List.map_cons, List.map_cons, Cell.orderBytes, hbyte, ih hs.2 ht.2,
        List.compare_cons_cons]

open Sql in
/-- **The order of texts is the order of their bytes.** -/
theorem orderBytes_ofText (s t : String) :
    Cell.orderBytes (Bytes.ofText s) (Bytes.ofText t) = compare s t := by
  have hbytes : ∀ cs : List Char, ∀ n ∈ cs.flatMap fun c => utf8Codes c.toNat, n < 256 := by
    intro cs n hn
    obtain ⟨c, -, hn⟩ := List.mem_flatMap.1 hn
    exact lt_of_mem_utf8Codes (Char.toNat_lt c) n hn
  rw [Bytes.ofText_eq, Bytes.ofText_eq, orderBytes_map (hbytes _) (hbytes _), compare_toList]
  generalize s.toList = s, t.toList = t
  induction s generalizing t with
  | nil =>
    cases t with
    | nil => rfl
    | cons d t =>
      obtain ⟨n, ns, hd⟩ := exists_utf8Codes_eq_cons d.toNat
      rw [List.flatMap_cons, hd]
      rfl
  | cons c s ih =>
    cases t with
    | nil =>
      obtain ⟨n, ns, hc⟩ := exists_utf8Codes_eq_cons c.toNat
      rw [List.flatMap_cons, hc]
      rfl
    | cons d t =>
      rw [List.flatMap_cons, List.flatMap_cons, compare_utf8Codes (Char.toNat_lt c) (Char.toNat_lt d),
        ih, List.compare_cons_cons, Char.compare_eq]

end Daybook
