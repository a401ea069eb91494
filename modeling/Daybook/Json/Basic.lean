import Daybook.KeyMap
import Daybook.Number.Binary64

/-!
# JSON values

Integers and floating-point numbers are kept apart: an integer is exact, from `-2 ^ 63` to
`2 ^ 64 - 1`, and anything else is a `Binary64`. The members of an object are a `KeyMap`.

* `Json`, `Record`: a value, and the members of an object;
* `int64?`, `toBinary64?`: a number seen as one kind or the other;
* `instDecidableEqJson`: equality is decidable;
* `same`: equality up to the signs of zeros.
-/

namespace Daybook

-- Powers are those of the core library.
attribute [local instance (high)] instPowNat instNatPowNat Int.instNatPow

/-- A JSON value. -/
inductive Json where
  | null
  | bool (b : Bool)
  | int (n : Int)
  | real (x : Binary64)
  | str (s : String)
  | arr (items : List Json)
  | obj (fields : List (String × Json))
  deriving Inhabited

/-- The members of a JSON object, such as a row of a table by column names. -/
abbrev Record := KeyMap Json

namespace Json

/-- The member of an object; other values have none. -/
def get? (j : Json) (key : String) : Option Json :=
  match j with
  | .obj fields => KeyMap.get? fields key
  | _ => none

/-- The text of a JSON string. -/
def str? : Json → Option String
  | .str s => some s
  | _ => none

/-- The number as a signed integer of sixty-four bits, if it is an integer in that range. -/
def int64? : Json → Option Int
  | .int n => if n < 2 ^ (63 : Nat) then some n else none
  | _ => none

/-- The number as a floating-point number. -/
def toBinary64? : Json → Option Binary64
  | .int n => some (Binary64.ofInt n)
  | .real x => some x
  | _ => none

/-! ## Equality -/

mutual

/-- Decides equality of values. -/
def decEq : (a b : Json) → Decidable (a = b)
  | .null, .null => isTrue rfl
  | .bool a, .bool b => decidable_of_iff (a = b) (by simp)
  | .int a, .int b => decidable_of_iff (a = b) (by simp)
  | .real a, .real b => decidable_of_iff (a = b) (by simp)
  | .str a, .str b => decidable_of_iff (a = b) (by simp)
  | .arr a, .arr b => @decidable_of_iff _ (a = b) (by simp) (decEqList a b)
  | .obj a, .obj b => @decidable_of_iff _ (a = b) (by simp) (decEqFields a b)
  | .null, .bool _ | .null, .int _ | .null, .real _ | .null, .str _ | .null, .arr _
  | .null, .obj _ => isFalse (by simp)
  | .bool _, .null | .bool _, .int _ | .bool _, .real _ | .bool _, .str _ | .bool _, .arr _
  | .bool _, .obj _ => isFalse (by simp)
  | .int _, .null | .int _, .bool _ | .int _, .real _ | .int _, .str _ | .int _, .arr _
  | .int _, .obj _ => isFalse (by simp)
  | .real _, .null | .real _, .bool _ | .real _, .int _ | .real _, .str _ | .real _, .arr _
  | .real _, .obj _ => isFalse (by simp)
  | .str _, .null | .str _, .bool _ | .str _, .int _ | .str _, .real _ | .str _, .arr _
  | .str _, .obj _ => isFalse (by simp)
  | .arr _, .null | .arr _, .bool _ | .arr _, .int _ | .arr _, .real _ | .arr _, .str _
  | .arr _, .obj _ => isFalse (by simp)
  | .obj _, .null | .obj _, .bool _ | .obj _, .int _ | .obj _, .real _ | .obj _, .str _
  | .obj _, .arr _ => isFalse (by simp)
termination_by structural a => a

/-- Decides equality of lists of values. -/
def decEqList : (a b : List Json) → Decidable (a = b)
  | [], [] => isTrue rfl
  | x :: xs, y :: ys =>
    match decEq x y, decEqList xs ys with
    | isTrue h, isTrue h' => isTrue (by rw [h, h'])
    | isFalse h, _ => isFalse (by simp [h])
    | _, isFalse h => isFalse (by simp [h])
  | [], _ :: _ | _ :: _, [] => isFalse (by simp)
termination_by structural a => a

/-- Decides equality of members. -/
def decEqField : (a b : String × Json) → Decidable (a = b)
  | (k, x), (k', y) =>
    match decEq x y with
    | isTrue h => decidable_of_iff (k = k') (by simp [h])
    | isFalse h => isFalse (by simp [h])
termination_by structural a => a

/-- Decides equality of lists of members. -/
def decEqFields : (a b : List (String × Json)) → Decidable (a = b)
  | [], [] => isTrue rfl
  | x :: xs, y :: ys =>
    match decEqField x y, decEqFields xs ys with
    | isTrue h, isTrue h' => isTrue (by rw [h, h'])
    | isFalse h, _ => isFalse (by simp [h])
    | _, isFalse h => isFalse (by simp [h])
  | [], _ :: _ | _ :: _, [] => isFalse (by simp)
termination_by structural a => a

end

instance instDecidableEqJson : DecidableEq Json := decEq

/-! ## Equality as values -/

mutual

/-- The values are equal, floating-point numbers as numbers: a zero equals a zero of the other
sign. -/
def same : (a b : Json) → Bool
  | .real x, .real y => x.compare y == .eq
  | .arr xs, .arr ys => sameItems xs ys
  | .obj xs, .obj ys => sameFields xs ys
  | a, b => a = b
termination_by structural a => a

/-- The lists have equal values. -/
def sameItems : (a b : List Json) → Bool
  | [], [] => true
  | x :: xs, y :: ys => same x y && sameItems xs ys
  | [], _ :: _ | _ :: _, [] => false
termination_by structural a => a

/-- The members have one key and equal values. -/
def sameField : (a b : String × Json) → Bool
  | (k, x), (k', y) => k = k' && same x y
termination_by structural a => a

/-- The objects have equal members. -/
def sameFields : (a b : List (String × Json)) → Bool
  | [], [] => true
  | p :: ps, q :: qs => sameField p q && sameFields ps qs
  | [], _ :: _ | _ :: _, [] => false
termination_by structural a => a

end

end Json
end Daybook
