/-!
# White space

The characters with the White_Space property, and trimming by them.

* `isBlank`: the property, as closed ranges of code points;
* `trim`: a text without its blank ends;
* `isBlankText`: nothing but white space.
-/

namespace Daybook.Text

/-- The code points with the White_Space property, as closed ranges, ascending and apart. -/
def blankRanges : List (Nat × Nat) :=
  [(0x09, 0x0D), (0x20, 0x20), (0x85, 0x85), (0xA0, 0xA0), (0x1680, 0x1680), (0x2000, 0x200A),
   (0x2028, 0x2029), (0x202F, 0x202F), (0x205F, 0x205F), (0x3000, 0x3000)]

/-- `n` lies in one of the closed ranges. -/
def inRanges (ranges : List (Nat × Nat)) (n : Nat) : Bool :=
  ranges.any fun r => r.1 ≤ n && n ≤ r.2

/-- The White_Space property. -/
def isBlank (c : Char) : Bool := inRanges blankRanges c.toNat

/-- The characters after the leading blanks. -/
def trimStart (s : List Char) : List Char := s.dropWhile isBlank

/-- The characters before the trailing blanks. -/
def trimEnd (s : List Char) : List Char := (s.reverse.dropWhile isBlank).reverse

/-- A text without the blanks at its two ends. -/
def trim (s : String) : String := String.ofList (trimEnd (trimStart s.toList))

/-- The text holds white space only, or nothing. -/
def isBlankText (s : String) : Bool := s.toList.all isBlank

end Daybook.Text
