/-!
# Binary floating-point numbers of sixty-four bits

A number is its bit pattern. All arithmetic is exact on integers and rounds once, to nearest with
ties to even, so that every operation is a plain function of the bits.

* `Binary64`, `magnitude`, `scale`: a finite number is `± magnitude * 2 ^ scale`;
* `ofRatio`, `ofDecimal`, `ofInt`: the nearest number to a fraction, a decimal, an integer;
* `compare`, `compareInt`, `toInt?`, `add`.
-/

namespace Daybook

-- Powers are those of the core library.
attribute [local instance (high)] instPowNat instNatPowNat Int.instNatPow

/-- A binary floating-point number: sign, eleven bits of exponent, fifty-two of fraction. -/
structure Binary64 where
  bits : UInt64
  deriving DecidableEq, Repr, Inhabited

namespace Binary64

/-! ## Fields -/

/-- The sign bit is set. -/
def isNegative (x : Binary64) : Bool := 2 ^ (63 : Nat) ≤ x.bits.toNat

/-- The eleven bits of the exponent. -/
def exponentField (x : Binary64) : Nat := x.bits.toNat / 2 ^ (52 : Nat) % 2 ^ (11 : Nat)

/-- The fifty-two bits of the fraction. -/
def fraction (x : Binary64) : Nat := x.bits.toNat % 2 ^ (52 : Nat)

/-- Neither infinite nor a NaN. -/
def isFinite (x : Binary64) : Bool := x.exponentField < 2047

/-- Not a number. -/
def isNaN (x : Binary64) : Bool := x.exponentField = 2047 && x.fraction ≠ 0

/-- The integer factor of a finite number. -/
def magnitude (x : Binary64) : Nat :=
  if x.exponentField = 0 then x.fraction else 2 ^ (52 : Nat) + x.fraction

/-- The power of two of a finite number. -/
def scale (x : Binary64) : Int :=
  if x.exponentField = 0 then -1074 else (x.exponentField : Int) - 1075

/-- Zero of either sign. -/
def isZero (x : Binary64) : Bool := x.bits.toNat % 2 ^ (63 : Nat) = 0

/-- The number with the given fields. -/
def ofFields (negative : Bool) (exponent fraction : Nat) : Binary64 :=
  ⟨UInt64.ofNat ((if negative then 2 ^ (63 : Nat) else 0) + exponent * 2 ^ (52 : Nat) + fraction)⟩

/-- Zero. -/
def zero : Binary64 := ⟨0⟩

/-- Infinity of the given sign. -/
def infinity (negative : Bool) : Binary64 := ofFields negative 2047 0

/-- The quiet NaN. -/
def nan : Binary64 := ofFields false 2047 (2 ^ (51 : Nat))

/-! ## Rounding -/

/-- `num / den` rounded to an integer, ties to even. -/
def roundHalfEven (num den : Nat) : Nat :=
  let q := num / den
  let r := num % den
  if 2 * r < den then q
  else if 2 * r > den then q + 1
  else if q % 2 = 0 then q else q + 1

/-- The number `± m * 2 ^ q` for a factor of at most fifty-three bits; infinity where the exponent
does not fit. -/
def assemble (negative : Bool) (m : Nat) (q : Int) : Binary64 :=
  if m < 2 ^ (52 : Nat) then ofFields negative 0 m
  else if 971 < q then infinity negative
  else ofFields negative (q + 1075).toNat (m - 2 ^ (52 : Nat))

/-- The number nearest to `± num / den`, ties to even. -/
def ofRatio (negative : Bool) (num den : Nat) : Binary64 :=
  if num = 0 then ofFields negative 0 0
  else
    let low : Int := max ((num.log2 : Int) - den.log2 - 53) (-1074)
    let quotient (q : Int) : Nat := num * 2 ^ (-q).toNat / (den * 2 ^ q.toNat)
    let q := if quotient low < 2 ^ (53 : Nat) then low else low + 1
    let m := roundHalfEven (num * 2 ^ (-q).toNat) (den * 2 ^ q.toNat)
    if m = 2 ^ (53 : Nat) then assemble negative (2 ^ (52 : Nat)) (q + 1) else assemble negative m q

/-- The count of decimal digits of a number, one for zero. -/
def digitCount (n : Nat) : Nat := (Nat.toDigits 10 n).length

/-- The number nearest to `± digits * 10 ^ exponent`. Exponents beyond the range of the format are
settled without computing the power. -/
def ofDecimal (negative : Bool) (digits : Nat) (exponent : Int) : Binary64 :=
  if digits = 0 then ofFields negative 0 0
  else if 310 < exponent + digitCount digits then infinity negative
  else if exponent + digitCount digits < -330 then ofFields negative 0 0
  else ofRatio negative (digits * 10 ^ exponent.toNat) (10 ^ (-exponent).toNat)

/-- The number nearest to an integer. -/
def ofInt (n : Int) : Binary64 := ofRatio (n < 0) n.natAbs 1

/-! ## Order -/

/-- The place of a number on the line, NaN apart: both zeros at zero. -/
def orderKey (x : Binary64) : Int :=
  if x.isNegative then -((x.bits.toNat % 2 ^ (63 : Nat) : Nat) : Int) else x.bits.toNat

/-- The order of two numbers, NaN apart. -/
def compare (x y : Binary64) : Ordering := Ord.compare x.orderKey y.orderKey

/-- A finite number as a signed integer times `2 ^ scale`. -/
def signed (x : Binary64) : Int := if x.isNegative then -(x.magnitude : Int) else x.magnitude

/-- The order of an integer and a number, without rounding the integer. -/
def compareInt (n : Int) (x : Binary64) : Ordering :=
  if !x.isFinite then (if x.isNegative then .gt else .lt)
  else Ord.compare (n * 2 ^ (-x.scale).toNat) (x.signed * 2 ^ x.scale.toNat)

/-- The integer that the number is, if it is one. -/
def toInt? (x : Binary64) : Option Int :=
  if !x.isFinite then none
  else if x.signed % 2 ^ (-x.scale).toNat = 0 then
    some (x.signed * 2 ^ x.scale.toNat / 2 ^ (-x.scale).toNat)
  else none

/-! ## Addition -/

/-- The sum, rounded once. -/
def add (x y : Binary64) : Binary64 :=
  if x.isNaN || y.isNaN then nan
  else if !x.isFinite then (if y.isFinite || x.isNegative = y.isNegative then x else nan)
  else if !y.isFinite then y
  else
    let q := min x.scale y.scale
    let sum := x.signed * 2 ^ (x.scale - q).toNat + y.signed * 2 ^ (y.scale - q).toNat
    let negative := if sum = 0 then x.isNegative && y.isNegative else decide (sum < 0)
    ofRatio negative (sum.natAbs * 2 ^ q.toNat) (2 ^ (-q).toNat)

end Binary64
end Daybook
