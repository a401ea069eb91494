import Daybook.Sql.Affinity

/-!
# Patterns

In a pattern `%` stands for any sequence of characters and `_` for any one character; the letters
from `a` to `z` match in either case.

* `like`: a pattern matches a text;
* `Cell.likeText?`: the text that a cell is matched as;
* `maxPatternBytes`.
-/

namespace Daybook.Sql

/-- A list and all its proper ends, the empty one included. -/
def suffixes {α : Type} : List α → List (List α)
  | [] => [[]]
  | c :: s => (c :: s) :: suffixes s

/-- The two characters are equal up to the case of the letters from `a` to `z`. -/
def sameLetter (c d : Char) : Bool := c = d || c.toLower = d.toLower

/-- The pattern matches the whole text. -/
def like : List Char → List Char → Bool
  | [], s => s.isEmpty
  | c :: p, s =>
    if c = '%' then (suffixes s).any (like p)
    else
      match s with
      | [] => false
      | d :: t => (c = '_' || sameLetter c d) && like p t

/-- The longest pattern that is matched, in bytes. -/
def maxPatternBytes : Nat := 50000

/-- A text as patterns see it: up to its first NUL. -/
def beforeNul (s : List Char) : List Char := s.takeWhile (· ≠ '\x00')

/-- The characters that a cell is matched as: numbers as their texts, byte strings as the text they
encode. -/
def Cell.likeText? : Cell → Option (List Char)
  | .null => none
  | .int n => some (intText n).toList
  | .real x => some (realText x).toList
  | .text s => some (beforeNul s.toList)
  | .blob b =>
    some (beforeNul (match Bytes.toText? b with
      | some s => s.toList
      | none => b.map fun byte => Char.ofNat byte.toNat))

/-- The bytes of the text of a pattern. -/
def Cell.patternBytes : Cell → Nat
  | .null => 0
  | .int n => (intText n).utf8ByteSize
  | .real x => (realText x).utf8ByteSize
  | .text s => s.utf8ByteSize
  | .blob b => b.length

end Daybook.Sql
