/-!
# Moments

What an operation takes from its surroundings: the time, and identifiers that were never used.

* `Moment`, `Moment.skip`;
* `identifier`: the identifier of a number.
-/

namespace Daybook

/-- The lowest hexadecimal digits of a number, the highest of them first. -/
def hexDigits : (width n : Nat) → List Char
  | 0, _ => []
  | width + 1, n => hexDigits width (n / 16) ++ [Nat.digitChar (n % 16)]

/-- The identifier of a number: thirty-two hexadecimal digits, of which two say that the others are
random. -/
def identifier (n : Nat) : String :=
  let digits := hexDigits 30 n
  String.ofList (digits.take 12 ++ '4' :: (digits.drop 12).take 3 ++ '8' :: digits.drop 15)

/-- The time at which an operation runs, and fresh identifiers for it. -/
structure Moment where
  /-- The time as a text. -/
  now : String
  /-- Identifiers that differ from each other and from all others. -/
  freshId : Nat → String

/-- The moment without the first `n` identifiers. -/
def Moment.skip (m : Moment) (n : Nat) : Moment := { m with freshId := fun i => m.freshId (n + i) }

end Daybook
