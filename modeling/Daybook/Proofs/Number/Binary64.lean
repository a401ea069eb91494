import Daybook.Number.Binary64
import Mathlib.Order.Monotone.Basic
import Mathlib.Algebra.Order.Ring.Int
import Mathlib.Tactic.NormNum
import Mathlib.Tactic.Ring

/-!
# The line of floating-point numbers

Multiplied by `2 ^ 1074`, every finite number is an integer (`line`). The order of bit patterns is
the order of these integers, since patterns of the same sign grow with them (`level_strictMono`).

* **`compare_eq_iff`**, `compareInt_eq_iff`: numbers compare as equal just if they are;
* `isFinite_iff`: which numbers are finite;
* **`ofInt_eq_of_line`**, `ofInt_toInt?`: an integer that is a number is not changed by rounding.
-/

namespace Daybook.Binary64

/-- The absolute value of a pattern without its sign, times `2 ^ 1074`. -/
def level (b : Nat) : Nat :=
  if b / 2 ^ 52 = 0 then b % 2 ^ 52 else (2 ^ 52 + b % 2 ^ 52) * 2 ^ (b / 2 ^ 52 - 1)

/-- A number times `2 ^ 1074`, infinities being numbers too large for an exponent. -/
def line (x : Binary64) : Int := x.signed * 2 ^ (x.scale + 1074).toNat

/-! ## Levels -/

theorem level_lt_level_succ (b : Nat) : level b < level (b + 1) := by
  rcases Nat.lt_or_ge (b % 2 ^ 52 + 1) (2 ^ 52) with hf | hf
  · -- the exponent stays, the fraction grows
    have hq : (b + 1) / 2 ^ 52 = b / 2 ^ 52 := by omega
    have hr : (b + 1) % 2 ^ 52 = b % 2 ^ 52 + 1 := by omega
    rw [level, level, hq, hr]
    split_ifs
    · omega
    · exact Nat.mul_lt_mul_of_pos_right (by omega) (Nat.two_pow_pos _)
  · -- the fraction is full: the exponent grows
    have hq : (b + 1) / 2 ^ 52 = b / 2 ^ 52 + 1 := by omega
    have hr : (b + 1) % 2 ^ 52 = 0 := by omega
    have hm : b % 2 ^ 52 = 2 ^ 52 - 1 := by omega
    rw [level, level, hq, hr, hm, if_neg (Nat.succ_ne_zero _), Nat.add_sub_cancel, Nat.add_zero]
    split_ifs with h
    · rw [h]
      norm_num
    · obtain ⟨e, he⟩ := Nat.exists_eq_succ_of_ne_zero h
      rw [he, Nat.succ_sub_one, Nat.succ_eq_add_one, pow_succ (2 : Nat) e, mul_comm (2 ^ e) 2,
        ← mul_assoc]
      exact Nat.mul_lt_mul_of_pos_right (by norm_num) (Nat.two_pow_pos _)

theorem level_strictMono : StrictMono level := strictMono_nat_of_lt_succ level_lt_level_succ

theorem level_zero : level 0 = 0 := by simp [level]

theorem level_eq (x : Binary64) :
    x.magnitude * 2 ^ (x.scale + 1074).toNat = level (x.bits.toNat % 2 ^ 63) := by
  have hq : x.bits.toNat % 2 ^ 63 / 2 ^ 52 = x.exponentField := by
    rw [exponentField]
    omega
  have hr : x.bits.toNat % 2 ^ 63 % 2 ^ 52 = x.fraction := by
    rw [fraction]
    omega
  rw [level, hq, hr, magnitude, scale]
  split_ifs with h
  · simp
  · have he : ((x.exponentField : Int) - 1075 + 1074).toNat = x.exponentField - 1 := by omega
    rw [he]

theorem line_eq (x : Binary64) :
    x.line = if x.isNegative then -(level (x.bits.toNat % 2 ^ 63) : Int)
      else level (x.bits.toNat % 2 ^ 63) := by
  rw [line, signed, ← level_eq]
  split_ifs
  · push_cast
    ring
  · push_cast
    ring

theorem natAbs_line (x : Binary64) : x.line.natAbs = level (x.bits.toNat % 2 ^ 63) := by
  rw [line_eq]
  split_ifs <;> simp

/-- Finite numbers are those before the first infinity. -/
theorem isFinite_iff (x : Binary64) : x.isFinite ↔ x.line.natAbs < level (2047 * 2 ^ 52) := by
  rw [natAbs_line, level_strictMono.lt_iff_lt, isFinite, exponentField, decide_eq_true_eq]
  omega

/-! ## Equality -/

/-- **Numbers compare as equal just if they are the same number.** -/
theorem compare_eq_iff (x y : Binary64) : compare x y = .eq ↔ x.line = y.line := by
  have hx := x.bits.toNat_lt
  have hy := y.bits.toNat_lt
  have hinj : ∀ {b c : Nat}, level b = level c ↔ b = c := level_strictMono.injective.eq_iff
  have hzero : ∀ {b : Nat}, level b = 0 ↔ b = 0 := by
    intro b
    have h := @hinj b 0
    rwa [level_zero] at h
  rw [compare, Std.LawfulEqCmp.compare_eq_iff_eq, line_eq, line_eq, orderKey, orderKey]
  simp only [isNegative, decide_eq_true_eq]
  split_ifs with h1 h2 h2
  · rw [neg_inj, neg_inj, Int.natCast_inj, Int.natCast_inj, hinj]
  · have h := @hzero (x.bits.toNat % 2 ^ 63)
    have h' := @hzero (y.bits.toNat % 2 ^ 63)
    omega
  · have h := @hzero (x.bits.toNat % 2 ^ 63)
    have h' := @hzero (y.bits.toNat % 2 ^ 63)
    omega
  · rw [Int.natCast_inj, Int.natCast_inj, hinj]
    omega

theorem compareInt_eq_iff (n : Int) (x : Binary64) :
    compareInt n x = .eq ↔ x.isFinite ∧ n * 2 ^ 1074 = x.line := by
  rw [compareInt]
  by_cases hf : x.isFinite
  · simp only [hf, Bool.not_true, Bool.false_eq_true, if_false, true_and]
    rw [Std.LawfulEqCmp.compare_eq_iff_eq, line]
    have hscale : -1074 ≤ x.scale := by
      rw [scale]
      split_ifs <;> omega
    obtain ⟨k, hk⟩ : ∃ k : Nat, x.scale = k - 1074 := ⟨(x.scale + 1074).toNat, by omega⟩
    have hpow : ∀ j : Nat, (2 : Int) ^ j ≠ 0 := fun j => pow_ne_zero j two_ne_zero
    rw [show (x.scale + 1074).toNat = k by omega]
    rcases Nat.le_total k 1074 with hle | hle
    · rw [show (-x.scale).toNat = 1074 - k by omega, show x.scale.toNat = 0 by omega, pow_zero,
        mul_one, ← mul_left_inj' (hpow k), mul_assoc, ← pow_add, Nat.sub_add_cancel hle]
    · rw [show (-x.scale).toNat = 0 by omega, show x.scale.toNat = k - 1074 by omega, pow_zero,
        mul_one, ← mul_left_inj' (hpow 1074), mul_assoc, ← pow_add, Nat.sub_add_cancel hle]
  · simp only [hf, Bool.not_false, if_true, Bool.false_eq_true, false_and, iff_false]
    split_ifs <;> simp

/-! ## Integers as numbers -/

theorem roundHalfEven_mul (m den : Nat) (h : 0 < den) : roundHalfEven (m * den) den = m := by
  rw [roundHalfEven, Nat.mul_div_cancel _ h, Nat.mul_mod_left]
  simp [h]

theorem roundHalfEven_bounds (num den : Nat) :
    num / den ≤ roundHalfEven num den ∧ roundHalfEven num den ≤ num / den + 1 := by
  rw [roundHalfEven]
  split_ifs <;> omega

/-- The pattern of given fields. -/
theorem bits_ofFields (negative : Bool) {e f : Nat} (he : e < 2 ^ 11) (hf : f < 2 ^ 52) :
    (ofFields negative e f).bits.toNat = (if negative then 2 ^ 63 else 0) + (e * 2 ^ 52 + f) := by
  rw [ofFields, UInt64.toNat_ofNat', Nat.mod_eq_of_lt, Nat.add_assoc]
  split_ifs <;> omega

theorem line_ofFields (negative : Bool) {e f : Nat} (he : e < 2 ^ 11) (hf : f < 2 ^ 52) :
    (ofFields negative e f).line =
      if negative then -(level (e * 2 ^ 52 + f) : Int) else level (e * 2 ^ 52 + f) := by
  have hneg : (ofFields negative e f).isNegative = negative := by
    rw [isNegative, bits_ofFields negative he hf]
    cases negative
    · simp
      omega
    · simp
  have hmod : (ofFields negative e f).bits.toNat % 2 ^ 63 = e * 2 ^ 52 + f := by
    rw [bits_ofFields negative he hf]
    cases negative <;> simp <;> omega
  rw [line_eq, hneg, hmod]

/-- Scaled to its leading bits, an integer has as many bits. -/
theorem two_pow_le_scaled (k : Nat) {N L : Nat} (hlow : 2 ^ L ≤ N) :
    2 ^ k ≤ N * 2 ^ (-((L : Int) - k)).toNat / 2 ^ ((L : Int) - k).toNat := by
  rw [Nat.le_div_iff_mul_le (Nat.two_pow_pos _)]
  calc 2 ^ k * 2 ^ ((L : Int) - k).toNat = 2 ^ L * 2 ^ (-((L : Int) - k)).toNat := by
        rw [← pow_add, ← pow_add]
        congr 1
        omega
    _ ≤ N * 2 ^ (-((L : Int) - k)).toNat := Nat.mul_le_mul_right _ hlow

theorem scaled_lt_two_pow (k : Nat) {N L : Nat} (hhigh : N < 2 ^ (L + 1)) :
    N * 2 ^ (-((L : Int) - k)).toNat / 2 ^ ((L : Int) - k).toNat < 2 ^ (k + 1) := by
  rw [Nat.div_lt_iff_lt_mul (Nat.two_pow_pos _)]
  calc N * 2 ^ (-((L : Int) - k)).toNat < 2 ^ (L + 1) * 2 ^ (-((L : Int) - k)).toNat :=
        Nat.mul_lt_mul_of_pos_right hhigh (Nat.two_pow_pos _)
    _ = 2 ^ (k + 1) * 2 ^ ((L : Int) - k).toNat := by
        rw [← pow_add, ← pow_add]
        congr 1
        omega

/-- The factor and the exponent with which an integer is rounded. -/
theorem ofInt_eq {n : Int} (hn : n ≠ 0) :
    ofInt n =
      let q : Int := (n.natAbs.log2 : Int) - 52
      let m := roundHalfEven (n.natAbs * 2 ^ (-q).toNat) (2 ^ q.toNat)
      if m = 2 ^ 53 then assemble (n < 0) (2 ^ 52) (q + 1) else assemble (n < 0) m q := by
  have hpos : n.natAbs ≠ 0 := Int.natAbs_ne_zero.2 hn
  have hlow : max ((n.natAbs.log2 : Int) - (Nat.log2 1 : Nat) - 53) (-1074) =
      (n.natAbs.log2 : Int) - 53 := by
    have : Nat.log2 1 = 0 := by decide
    omega
  have hquot := not_lt.2 (two_pow_le_scaled 53 (Nat.log2_self_le hpos))
  rw [Nat.cast_ofNat] at hquot
  rw [ofInt, ofRatio, if_neg hpos]
  simp only [hlow, one_mul, hquot, if_false]
  rw [show (n.natAbs.log2 : Int) - 53 + 1 = n.natAbs.log2 - 52 by omega]

/-- The exponent of a normal number of fifty-three bits. -/
theorem exponent_eq {k N e f L : Nat} (hf : f < 2 ^ 52) (he : 1 ≤ e) (hlow : 2 ^ L ≤ N)
    (hhigh : N < 2 ^ (L + 1)) (h : (2 ^ 52 + f) * 2 ^ (e - 1) = N * 2 ^ k) : e + 51 = L + k := by
  have h1 : 2 ^ (52 + (e - 1)) < 2 ^ (L + 1 + k) := by
    calc 2 ^ (52 + (e - 1)) = 2 ^ 52 * 2 ^ (e - 1) := pow_add _ _ _
      _ ≤ (2 ^ 52 + f) * 2 ^ (e - 1) := Nat.mul_le_mul_right _ (Nat.le_add_right _ _)
      _ = N * 2 ^ k := h
      _ < 2 ^ (L + 1) * 2 ^ k := Nat.mul_lt_mul_of_pos_right hhigh (Nat.two_pow_pos _)
      _ = 2 ^ (L + 1 + k) := (pow_add _ _ _).symm
  have h2 : 2 ^ (L + k) < 2 ^ (53 + (e - 1)) := by
    calc 2 ^ (L + k) = 2 ^ L * 2 ^ k := pow_add _ _ _
      _ ≤ N * 2 ^ k := Nat.mul_le_mul_right _ hlow
      _ = (2 ^ 52 + f) * 2 ^ (e - 1) := h.symm
      _ < 2 ^ 53 * 2 ^ (e - 1) := Nat.mul_lt_mul_of_pos_right (by omega) (Nat.two_pow_pos _)
      _ = 2 ^ (53 + (e - 1)) := (pow_add _ _ _).symm
  have h1' := (Nat.pow_lt_pow_iff_right (by omega)).1 h1
  have h2' := (Nat.pow_lt_pow_iff_right (by omega)).1 h2
  omega

/-- Scaled to fifty-three bits, an integer that is a number is its factor. -/
theorem roundHalfEven_eq_factor {k N e f L : Nat} (hk : 52 ≤ k) (he : e + 51 = L + k)
    (h : (2 ^ 52 + f) * 2 ^ (e - 1) = N * 2 ^ k) :
    roundHalfEven (N * 2 ^ (-((L : Int) - 52)).toNat) (2 ^ ((L : Int) - 52).toNat) =
      2 ^ 52 + f := by
  rcases Nat.le_total L 52 with hL | hL
  · rw [show ((L : Int) - 52).toNat = 0 by omega, show (-((L : Int) - 52)).toNat = 52 - L by omega]
    have hm : N * 2 ^ (52 - L) = 2 ^ 52 + f := by
      have hexp : k = 52 - L + (e - 1) := by omega
      rw [hexp, pow_add, ← mul_assoc] at h
      exact (Nat.eq_of_mul_eq_mul_right (Nat.two_pow_pos _) h).symm
    have hone := roundHalfEven_mul (2 ^ 52 + f) 1 Nat.one_pos
    rw [mul_one] at hone
    rw [hm, pow_zero, hone]
  · rw [show ((L : Int) - 52).toNat = L - 52 by omega, show (-((L : Int) - 52)).toNat = 0 by omega]
    have hm : N = (2 ^ 52 + f) * 2 ^ (L - 52) := by
      have hexp : e - 1 = L - 52 + k := by omega
      rw [hexp, pow_add, ← mul_assoc] at h
      exact (Nat.eq_of_mul_eq_mul_right (Nat.two_pow_pos _) h).symm
    rw [hm, pow_zero, mul_one, roundHalfEven_mul _ _ (Nat.two_pow_pos _)]

/-- The bits of a number are its sign and its magnitude. -/
theorem toNat_bits_eq (x : Binary64) :
    x.bits.toNat = (if x.isNegative then 2 ^ 63 else 0) + x.bits.toNat % 2 ^ 63 := by
  have hbits := x.bits.toNat_lt
  rw [isNegative]
  by_cases hneg : 2 ^ 63 ≤ x.bits.toNat
  · rw [if_pos (decide_eq_true hneg)]
    omega
  · rw [if_neg (by simpa using hneg)]
    omega

/-- A number has the sign of the integer that it is. -/
theorem isNegative_eq_of_line {x : Binary64} {n : Int} (hn : n ≠ 0) (h : x.line = n * 2 ^ 1074) :
    x.isNegative = decide (n < 0) := by
  have hpow : (0 : Int) < 2 ^ 1074 := pow_pos two_pos _
  rw [line_eq] at h
  generalize (2 : Int) ^ 1074 = p at h hpow
  generalize level (x.bits.toNat % 2 ^ 63) = l at h
  cases hs : x.isNegative with
  | true =>
    rw [hs, if_pos rfl] at h
    refine (decide_eq_true (Int.lt_of_not_ge fun hge => ?_)).symm
    have := Int.mul_pos (lt_of_le_of_ne hge (Ne.symm hn)) hpow
    omega
  | false =>
    rw [hs, if_neg Bool.false_ne_true] at h
    refine (decide_eq_false (Int.not_lt.2 (Int.not_lt.1 fun hlt => ?_))).symm
    have := Int.mul_neg_of_neg_of_pos hlt hpow
    omega

/-- **An integer that is a number is rounded to this number.** -/
theorem ofInt_eq_of_line {x : Binary64} {n : Int} (hx : x.isFinite) (hn : n ≠ 0)
    (h : x.line = n * 2 ^ 1074) : ofInt n = x := by
  obtain ⟨e, f, hf, hb⟩ : ∃ e f, f < 2 ^ 52 ∧ x.bits.toNat % 2 ^ 63 = e * 2 ^ 52 + f :=
    ⟨x.bits.toNat % 2 ^ 63 / 2 ^ 52, x.bits.toNat % 2 ^ 63 % 2 ^ 52, by omega, by omega⟩
  have he : e < 2047 := by
    rw [isFinite, exponentField, decide_eq_true_eq] at hx
    omega
  have htwo : Int.natAbs 2 = 2 := rfl
  have hlevel : level (e * 2 ^ 52 + f) = n.natAbs * 2 ^ 1074 := by
    rw [← hb, ← natAbs_line, h, Int.natAbs_mul, Int.natAbs_pow, htwo]
  have hpos : n.natAbs ≠ 0 := Int.natAbs_ne_zero.2 hn
  have hq : (e * 2 ^ 52 + f) / 2 ^ 52 = e := by omega
  have hr : (e * 2 ^ 52 + f) % 2 ^ 52 = f := by omega
  rw [level, hq, hr] at hlevel
  by_cases he0 : e = 0
  · -- no integer but zero is as small as a subnormal number
    rw [if_pos he0] at hlevel
    have hlarge : 2 ^ 52 ≤ n.natAbs * 2 ^ 1074 :=
      (Nat.pow_le_pow_right Nat.two_pos (by decide)).trans
        (Nat.le_mul_of_pos_left _ (Nat.pos_of_ne_zero hpos))
    rw [← hlevel] at hlarge
    omega
  · rw [if_neg he0] at hlevel
    have hexp := exponent_eq hf (by omega) (Nat.log2_self_le hpos) Nat.lt_log2_self hlevel
    have hfactor := roundHalfEven_eq_factor (by omega) hexp hlevel
    rw [ofInt_eq hn]
    simp only [hfactor]
    rw [if_neg (by omega), assemble, if_neg (by omega), if_neg (by omega),
      show ((n.natAbs.log2 : Int) - 52 + 1075).toNat = e by omega, Nat.add_sub_cancel_left,
      ← isNegative_eq_of_line hn h]
    have hto := bits_ofFields x.isNegative (show e < 2 ^ 11 by omega) hf
    have hparts := x.toNat_bits_eq
    rw [hb] at hparts
    exact congrArg mk (UInt64.toNat_inj.1 (hto.trans hparts.symm))

theorem line_ofFields_ne_zero (negative : Bool) {e f : Nat} (he : e < 2 ^ 11) (hf : f < 2 ^ 52)
    (h : e ≠ 0) : (ofFields negative e f).line ≠ 0 := by
  have hlevel : level 0 < level (e * 2 ^ 52 + f) := level_strictMono (by omega)
  rw [level_zero] at hlevel
  rw [line_ofFields negative he hf]
  split_ifs <;> omega

theorem line_assemble_ne_zero (negative : Bool) {m : Nat} {q : Int} (hm : 2 ^ 52 ≤ m)
    (hm' : m < 2 ^ 53) (hq : -52 ≤ q) : (assemble negative m q).line ≠ 0 := by
  rw [assemble, if_neg (by omega)]
  split_ifs
  · exact line_ofFields_ne_zero negative (by omega) (by omega) (by omega)
  · exact line_ofFields_ne_zero negative (by omega) (by omega) (by omega)

theorem line_ofInt_ne_zero {n : Int} (hn : n ≠ 0) : (ofInt n).line ≠ 0 := by
  have hpos : n.natAbs ≠ 0 := Int.natAbs_ne_zero.2 hn
  have hlow := two_pow_le_scaled 52 (Nat.log2_self_le hpos)
  have hhigh := scaled_lt_two_pow 52 (@Nat.lt_log2_self n.natAbs)
  push_cast at hlow hhigh
  have hround := roundHalfEven_bounds (n.natAbs * 2 ^ (-((n.natAbs.log2 : Int) - 52)).toNat)
    (2 ^ ((n.natAbs.log2 : Int) - 52).toNat)
  rw [ofInt_eq hn]
  dsimp only
  split_ifs with h
  · exact line_assemble_ne_zero _ (by omega) (by omega) (by omega)
  · exact line_assemble_ne_zero _ (by omega) (by omega) (by omega)

theorem line_of_toInt? {x : Binary64} {n : Int} (h : x.toInt? = some n) :
    x.isFinite ∧ x.line = n * 2 ^ 1074 := by
  have hscale : -1074 ≤ x.scale := by
    rw [scale]
    split_ifs <;> omega
  obtain ⟨k, hk⟩ : ∃ k : Nat, x.scale = k - 1074 := ⟨(x.scale + 1074).toNat, by omega⟩
  rw [toInt?] at h
  split_ifs at h with hfinite hdvd
  refine ⟨by simpa using hfinite, ?_⟩
  have hn := Option.some.inj h
  rw [line, show (x.scale + 1074).toNat = k by omega, ← hn]
  rcases Nat.le_total k 1074 with hle | hle
  · have hs : (-x.scale).toNat = 1074 - k := by omega
    rw [hs] at hdvd ⊢
    rw [show x.scale.toNat = 0 by omega]
    obtain ⟨c, hc⟩ := Int.dvd_of_emod_eq_zero hdvd
    rw [pow_zero, mul_one, hc, Int.mul_ediv_cancel_left _ (pow_ne_zero _ two_ne_zero),
      mul_comm _ c, mul_assoc, ← pow_add, Nat.sub_add_cancel hle]
  · rw [show (-x.scale).toNat = 0 by omega, show x.scale.toNat = k - 1074 by omega, pow_zero,
      Int.ediv_one, mul_assoc, ← pow_add, Nat.sub_add_cancel hle]

/-- Rounding an integer once more changes nothing. -/
theorem ofInt_toInt? {n m : Int} (h : (ofInt n).toInt? = some m) : ofInt m = ofInt n := by
  obtain ⟨hfinite, hline⟩ := line_of_toInt? h
  by_cases hm : m = 0
  · by_cases hn : n = 0
    · rw [hm, hn]
    · rw [hm, Int.zero_mul] at hline
      exact absurd hline (line_ofInt_ne_zero hn)
  · exact ofInt_eq_of_line hfinite hm hline

end Daybook.Binary64
