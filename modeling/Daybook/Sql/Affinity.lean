import Daybook.Sql.Cell

/-!
# Affinities, and the order of cells

A column has an affinity, given by its declared type: what it stores is converted where nothing is
lost, and so is what it is compared with. Between cells of different kinds there is one order: null,
then numbers, then texts, then byte strings.

* `Affinity`, `Affinity.ofDeclared`, `Affinity.store`;
* `Cell.order`: the order of all cells;
* `Affinity.align`: both sides of a comparison as it sees them;
* `Cell.increment`: the sum of a cell and one.
-/

namespace Daybook.Sql

-- Powers are those of the core library.
attribute [local instance (high)] instPowNat instNatPowNat Int.instNatPow

/-! ## Numbers in texts -/

/-- The blanks that may surround a number in a text. -/
def isNumberSpace (c : Char) : Bool := c = ' ' || ('\t' ≤ c && c ≤ '\r')

/-- A number at the start of a text. -/
structure NumberText where
  negative : Bool
  whole : List Char
  /-- The digits after a point, if there is a point. -/
  fraction : Option (List Char)
  exponent : Option Int
  /-- What follows the number. -/
  rest : List Char

namespace NumberText

/-- The exponent part at the start of a text, if it is complete. -/
def exponent? (s : List Char) : Option (Int × List Char) :=
  match s with
  | c :: rest =>
    if c = 'e' ∨ c = 'E' then
      let (negative, rest) : Bool × List Char :=
        match rest with
        | '+' :: r => (false, r)
        | '-' :: r => (true, r)
        | r => (false, r)
      let ds := rest.takeWhile Char.isDigit
      let n : Int := ds.foldl (fun n c => n * 10 + (c.toNat - 48 : Nat)) (0 : Nat)
      if ds.isEmpty then none
      else some (if negative then -n else n, rest.dropWhile Char.isDigit)
    else none
  | [] => none

/-- Reads the number at the start of a text, blanks before it skipped. -/
def read (text : List Char) : NumberText :=
  let (negative, s) : Bool × List Char :=
    match text.dropWhile isNumberSpace with
    | '-' :: r => (true, r)
    | '+' :: r => (false, r)
    | r => (false, r)
  let whole := s.takeWhile Char.isDigit
  let s := s.dropWhile Char.isDigit
  let (fraction, s) : Option (List Char) × List Char :=
    match s with
    | '.' :: r => (some (r.takeWhile Char.isDigit), r.dropWhile Char.isDigit)
    | r => (none, r)
  match exponent? s with
  | some (e, rest) => ⟨negative, whole, fraction, some e, rest⟩
  | none => ⟨negative, whole, fraction, none, s⟩

/-- There is at least one digit before the exponent. -/
def hasDigits (n : NumberText) : Bool := !n.whole.isEmpty || !(n.fraction.getD []).isEmpty

/-- The value of a list of digits. -/
def digitsValue (ds : List Char) : Nat := ds.foldl (fun n c => n * 10 + (c.toNat - 48)) 0

/-- The integer of a number without point and exponent. -/
def integer? (n : NumberText) : Option Cell :=
  if n.fraction.isSome || n.exponent.isSome then none
  else
    let v : Int := digitsValue n.whole
    Cell.ofInt? (if n.negative then -v else v)

/-- The value as a floating-point number. -/
def toBinary64 (n : NumberText) : Binary64 :=
  let fraction := n.fraction.getD []
  Binary64.ofDecimal n.negative (digitsValue (n.whole ++ fraction))
    (n.exponent.getD 0 - fraction.length)

/-- The number as a cell: an integer if it is written as one and fits. -/
def toCell (n : NumberText) : Cell := n.integer?.getD (.real n.toBinary64)

end NumberText

/-- The number that a whole text is, blanks around it aside. -/
def numberOfText? (s : String) : Option Cell :=
  let n := NumberText.read s.toList
  if n.hasDigits && (n.rest.dropWhile isNumberSpace).isEmpty then some n.toCell else none

/-! ## Texts of numbers -/

/-- Numbers are positional while the exponent of the leading digit is in `-4 ≤ e < 15`; outside, the
exponent has at least two digits. -/
def realLayout : Layout where
  plainFrom := -4
  plainBelow := 15
  scientificPoint := true
  exponentWidth := 2

/-- The text of a floating-point number, to fifteen significant digits. -/
def realText (x : Binary64) : String :=
  let sign := if x.isNegative && !x.isZero then ['-'] else []
  let body :=
    if x.isFinite then realLayout.render (Decimal.significant 15 x) else ['I', 'n', 'f']
  String.ofList (sign ++ body)

/-- The text of an integer. -/
def intText (n : Int64) : String := String.ofList (Json.writeInt n.toInt)

/-! ## Affinities -/

/-- What a column prefers to store. -/
inductive Affinity where
  | blob
  | text
  | numeric
  | integer
  | real
  deriving DecidableEq, Repr, Inhabited

/-- `part` occurs in `s`. -/
def containsPart (part : List Char) : List Char → Bool
  | [] => part.isEmpty
  | c :: s => part.isPrefixOf (c :: s) || containsPart part s

namespace Affinity

/-- The affinity of a declared type: the first of the rules whose words it contains, in any case of
letters. -/
def ofDeclared (type : String) : Affinity :=
  let s := type.toList.map Char.toUpper
  let has (word : String) : Bool := containsPart word.toList s
  if has "INT" then .integer
  else if has "CHAR" || has "CLOB" || has "TEXT" then .text
  else if has "BLOB" || s.isEmpty then .blob
  else if has "REAL" || has "FLOA" || has "DOUB" then .real
  else .numeric

/-- Numbers are preferred. -/
def isNumeric : Affinity → Bool
  | .numeric | .integer | .real => true
  | .blob | .text => false

/-- A floating-point number as an integer cell, where it is a whole number inside the range of
integers. -/
def shrink (x : Binary64) : Cell :=
  match x.toInt? with
  | some n =>
    if -(2 ^ (63 : Nat)) < n ∧ n < 2 ^ (63 : Nat) - 1 then .int (Int64.ofInt n) else .real x
  | none => .real x

/-- A cell as a number, where it is one. -/
def toNumber : Cell → Cell
  | .text s =>
    match numberOfText? s with
    | some (.real x) => shrink x
    | some c => c
    | none => .text s
  | .real x => shrink x
  | c => c

/-- A number as its text. -/
def toText : Cell → Cell
  | .int n => .text (intText n)
  | .real x => .text (realText x)
  | c => c

/-- The cell that a column stores for a given one. -/
def store (a : Affinity) (c : Cell) : Cell :=
  match a with
  | .blob => c
  | .text => toText c
  | .integer | .numeric => toNumber c
  | .real =>
    match toNumber c with
    | .int n => .real (Binary64.ofInt n.toInt)
    | c => c

end Affinity

/-! ## Order -/

namespace Cell

/-- The order of byte strings: byte by byte, a proper beginning first. -/
def orderBytes : Bytes → Bytes → Ordering
  | [], [] => .eq
  | [], _ :: _ => .lt
  | _ :: _, [] => .gt
  | x :: xs, y :: ys => (compare x y).then (orderBytes xs ys)

/-- The rank of the kind of a cell: null, numbers, texts, byte strings. -/
def rank : Cell → Nat
  | .null => 0
  | .int _ | .real _ => 1
  | .text _ => 2
  | .blob _ => 3

/-- The order of cells. Numbers compare by value, texts by their characters. -/
def order : Cell → Cell → Ordering
  | .int m, .int n => compare m.toInt n.toInt
  | .int m, .real y => Binary64.compareInt m.toInt y
  | .real x, .int n => (Binary64.compareInt n.toInt x).swap
  | .real x, .real y => Binary64.compare x y
  | .text s, .text t => compare s t
  | .blob a, .blob b => orderBytes a b
  | a, b => compare a.rank b.rank

/-- The cells are equal as values: `1` and `1.0` are. -/
def same (a b : Cell) : Bool := order a b == .eq

/-- The cell is null. -/
def isNull : Cell → Bool
  | .null => true
  | _ => false

/-- The cell is a text. -/
def isText : Cell → Bool
  | .text _ => true
  | _ => false

/-- A text that is a number, as that number. -/
def asNumber : Cell → Cell
  | .text s => (numberOfText? s).getD (.text s)
  | c => c

end Cell

/-- The two sides of a comparison with a column of the given affinity: beside a column of numbers a
text is read as a number, beside a column of texts a number becomes its text. -/
def Affinity.align (a : Affinity) (left right : Cell) : Cell × Cell :=
  if a.isNumeric then (left.asNumber, right.asNumber)
  else if a = .text && (left.isText || right.isText) then
    (Affinity.toText left, Affinity.toText right)
  else (left, right)

/-! ## Arithmetic -/

/-- The number that an arithmetic operation takes a cell for: of a text or byte string, the number
it starts with. -/
def Cell.arithmetic : Cell → Cell
  | .null => .null
  | .int n => .int n
  | .real x => .real x
  | .text s => ofChars s.toList
  | .blob b => ofChars (b.map fun byte => Char.ofNat byte.toNat)
where
  /-- The number at the start of a text, zero where there is none. -/
  ofChars (s : List Char) : Cell :=
    let n := NumberText.read s
    if n.hasDigits then n.toCell else .int 0

/-- A cell plus one, null counting as zero; an integer sum that does not fit becomes a
floating-point number. -/
def Cell.increment (c : Cell) : Cell :=
  match c.arithmetic with
  | .int n => (ofInt? (n.toInt + 1)).getD (.real (Binary64.ofInt (n.toInt + 1)))
  | .real x => .real (x.add (Binary64.ofInt 1))
  | _ => .int 1

end Daybook.Sql
