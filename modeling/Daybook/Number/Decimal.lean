import Daybook.Number.Binary64

/-!
# Decimal texts of binary numbers

A text is made in two steps. First the digits are selected: the fewest that read back to the same
number, or a given count of them. Then they are laid out as a `Layout` says.

* `Decimal`: digits and a power of ten;
* `readsBack`: a decimal lies among the reals that round to the number;
* `shortest`: the fewest digits that read back, the nearest such, a tie to the even neighbour;
* `significant`: a fixed count of digits, a half away from zero;
* `Layout.render`.
-/

namespace Daybook

-- Powers are those of the core library.
attribute [local instance (high)] instPowNat instNatPowNat Int.instNatPow

/-- The number `digits * 10 ^ exponent`. -/
structure Decimal where
  digits : Nat
  exponent : Int
  deriving DecidableEq, Repr

namespace Decimal

/-- Compares `a * 10 ^ i` with `n * 2 ^ j`, exactly. -/
def compareScaled (a : Nat) (i : Int) (n : Nat) (j : Int) : Ordering :=
  compare (a * 10 ^ i.toNat * 2 ^ (-j).toNat) (n * 2 ^ j.toNat * 10 ^ (-i).toNat)

/-- The decimal lies among the reals that round to the magnitude of `x`: between the midpoints to
its two neighbours, these included when the factor of `x` is even. The gap below a power of two is
half the gap above it. -/
def readsBack (x : Binary64) (d : Decimal) : Bool :=
  let m := x.magnitude
  let narrow := x.fraction = 0 && 1 < x.exponentField
  let low := if narrow then 4 * m - 1 else 4 * m - 2
  let closed := m % 2 = 0
  let below := compareScaled d.digits d.exponent low (x.scale - 2)
  let above := compareScaled d.digits d.exponent (4 * m + 2) (x.scale - 2)
  (below = .gt || (closed && below = .eq)) && (above = .lt || (closed && above = .eq))

/-- The least power of ten above the magnitude of a number that is not zero. -/
def ceilingPower (x : Binary64) : Int :=
  let estimate := Int.fdiv (((x.magnitude.log2 : Int) + x.scale) * 30103) 100000 - 1
  let above (k : Int) : Bool := compareScaled 1 k x.magnitude x.scale = .gt
  ((List.range 4).map fun (i : Nat) => estimate + (i : Int)).find? above |>.getD (estimate + 4)

/-- The magnitude of `x` in units of `10 ^ exponent`, as a fraction. -/
def inUnits (x : Binary64) (exponent : Int) : Nat × Nat :=
  (x.magnitude * 2 ^ x.scale.toNat * 10 ^ (-exponent).toNat,
   2 ^ (-x.scale).toNat * 10 ^ exponent.toNat)

/-- Of the two neighbours of `x` among the multiples of `10 ^ exponent`, the one that reads back;
of two the nearer, and on a tie the even one. -/
def onGrid? (x : Binary64) (exponent : Int) : Option Decimal :=
  let (num, den) := inUnits x exponent
  let low : Decimal := ⟨num / den, exponent⟩
  let high : Decimal := ⟨num / den + 1, exponent⟩
  match readsBack x low, readsBack x high with
  | true, true => some ⟨Binary64.roundHalfEven num den, exponent⟩
  | true, false => some low
  | false, true => some high
  | false, false => none

/-- Moves the trailing zeros of the digits into the exponent; `fuel` bounds their count. -/
def stripZeros : Nat → Decimal → Decimal
  | 0, d => d
  | fuel + 1, d =>
    if d.digits ≠ 0 ∧ d.digits % 10 = 0 then stripZeros fuel ⟨d.digits / 10, d.exponent + 1⟩ else d

/-- The decimal without trailing zeros. -/
def normalize (d : Decimal) : Decimal := stripZeros (Binary64.digitCount d.digits) d

/-- The decimal with the fewest digits that reads back to the magnitude of `x`. Seventeen digits
are always enough; the exact value stands in for a search without a hit. -/
def shortest (x : Binary64) : Decimal :=
  if x.magnitude = 0 then ⟨0, 0⟩
  else
    let k := ceilingPower x
    let hit := (List.range 17).findSome? fun (n : Nat) => onGrid? x (k - ((n : Int) + 1))
    normalize (hit.getD
      ⟨x.magnitude * 2 ^ x.scale.toNat * 5 ^ (-x.scale).toNat, -((-x.scale).toNat : Int)⟩)

/-- The magnitude of `x` rounded to `count` digits, a half away from zero. -/
def significant (count : Nat) (x : Binary64) : Decimal :=
  if x.magnitude = 0 then ⟨0, 0⟩
  else
    let exponent := ceilingPower x - (count : Int)
    let (num, den) := inUnits x exponent
    normalize ⟨(2 * num + den) / (2 * den), exponent⟩

end Decimal

/-! ## Layout -/

/-- The decisions of a number format. -/
structure Layout where
  /-- The least exponent of the leading digit that is written positionally. -/
  plainFrom : Int
  /-- The least larger exponent that is not. -/
  plainBelow : Int
  /-- A lone digit before the exponent gets `.0`. -/
  scientificPoint : Bool
  /-- The least count of digits in the exponent. -/
  exponentWidth : Nat

namespace Layout

/-- `n` in decimal digits. -/
def digitsOf (n : Nat) : List Char := Nat.toDigits 10 n

/-- `n` in decimal digits, padded with zeros on the left. -/
def padded (width n : Nat) : List Char :=
  List.replicate (width - (digitsOf n).length) '0' ++ digitsOf n

/-- The layout of a decimal without trailing zeros: positional with a point in every case, or one
digit before the point and a signed exponent. -/
def render (f : Layout) (d : Decimal) : List Char :=
  let ds := digitsOf d.digits
  let lead : Int := if d.digits = 0 then 0 else d.exponent + ds.length - 1
  if f.plainFrom ≤ lead ∧ lead < f.plainBelow then
    if 0 ≤ d.exponent then ds ++ List.replicate d.exponent.toNat '0' ++ ['.', '0']
    else if 0 ≤ lead then
      ds.take (lead.toNat + 1) ++ '.' :: ds.drop (lead.toNat + 1)
    else '0' :: '.' :: List.replicate (-lead - 1).toNat '0' ++ ds
  else
    let fractionPart :=
      if ds.length = 1 then (if f.scientificPoint then ['.', '0'] else [])
      else '.' :: ds.drop 1
    ds.take 1 ++ fractionPart ++ 'e' :: (if lead < 0 then '-' else '+') ::
      padded f.exponentWidth lead.natAbs

end Layout
end Daybook
