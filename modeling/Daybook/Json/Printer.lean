import Daybook.Json.Basic
import Daybook.Number.Decimal

/-!
# JSON as text

Two layouts: compact, without any blank, and pretty, with two spaces of indentation to the level,
`": "` after a key and empty containers closed at once. Characters beyond ASCII stand for
themselves.

* `numberLayout`: how a floating-point number is laid out;
* `compact`, `pretty`.
-/

namespace Daybook.Json

/-- Numbers are positional while the exponent of the leading digit is in `-5 ≤ e < 16`; outside,
the exponent carries its sign and as few digits as it has. -/
def numberLayout : Layout where
  plainFrom := -5
  plainBelow := 16
  scientificPoint := false
  exponentWidth := 1

/-- The text of a floating-point number; a whole one keeps its point. -/
def writeReal (x : Binary64) : List Char :=
  (if x.isNegative then ['-'] else []) ++ numberLayout.render (Decimal.shortest x)

/-- The text of an integer. -/
def writeInt (n : Int) : List Char :=
  (if n < 0 then ['-'] else []) ++ Layout.digitsOf n.natAbs

/-- A digit of base sixteen. -/
def hexDigit (n : Nat) : Char := if n < 10 then Char.ofNat (48 + n) else Char.ofNat (87 + n)

/-- The written form of one character inside a string. -/
def writeChar (c : Char) : List Char :=
  if c = '"' then ['\\', '"']
  else if c = '\\' then ['\\', '\\']
  else if c = '\n' then ['\\', 'n']
  else if c = '\t' then ['\\', 't']
  else if c = '\r' then ['\\', 'r']
  else if c = '\x08' then ['\\', 'b']
  else if c = '\x0c' then ['\\', 'f']
  else if c.toNat < 32 then
    ['\\', 'u', '0', '0', hexDigit (c.toNat / 16), hexDigit (c.toNat % 16)]
  else [c]

/-- A string in its quotes. -/
def writeStr (s : String) : List Char := '"' :: s.toList.flatMap writeChar ++ ['"']

/-! ## Compact -/

mutual

/-- The compact text of a value. -/
def write : Json → List Char
  | .null => ['n', 'u', 'l', 'l']
  | .bool true => ['t', 'r', 'u', 'e']
  | .bool false => ['f', 'a', 'l', 's', 'e']
  | .int n => writeInt n
  | .real x => writeReal x
  | .str s => writeStr s
  | .arr items => '[' :: writeItems items ++ [']']
  | .obj fields => '\x7b' :: writeFields fields ++ ['\x7d']
termination_by structural j => j

/-- The items of an array, commas between them. -/
def writeItems : List Json → List Char
  | [] => []
  | j :: rest => write j ++ (if rest.isEmpty then [] else [',']) ++ writeItems rest
termination_by structural items => items

/-- One member of an object. -/
def writeField : String × Json → List Char
  | (key, j) => writeStr key ++ ':' :: write j
termination_by structural field => field

/-- The members of an object, commas between them. -/
def writeFields : List (String × Json) → List Char
  | [] => []
  | field :: rest => writeField field ++ (if rest.isEmpty then [] else [',']) ++ writeFields rest
termination_by structural fields => fields

end

/-- The text of a value without any blank. -/
def compact (j : Json) : String := String.ofList (write j)

/-! ## Pretty -/

/-- A line break and the indentation of a level. -/
def newline (level : Nat) : List Char := '\n' :: List.replicate (2 * level) ' '

mutual

/-- The pretty text of a value that stands at a level of nesting. -/
def layOut (level : Nat) : Json → List Char
  | .null => ['n', 'u', 'l', 'l']
  | .bool true => ['t', 'r', 'u', 'e']
  | .bool false => ['f', 'a', 'l', 's', 'e']
  | .int n => writeInt n
  | .real x => writeReal x
  | .str s => writeStr s
  | .arr [] => ['[', ']']
  | .arr (item :: items) =>
    '[' :: newline (level + 1) ++ layOut (level + 1) item ++ layOutItems (level + 1) items ++
      newline level ++ [']']
  | .obj [] => ['\x7b', '\x7d']
  | .obj (field :: fields) =>
    '\x7b' :: newline (level + 1) ++ layOutField (level + 1) field ++
      layOutFields (level + 1) fields ++ newline level ++ ['\x7d']
termination_by structural j => j

/-- The items after the first, each after a comma on a line of its own. -/
def layOutItems (level : Nat) : List Json → List Char
  | [] => []
  | j :: rest => ',' :: newline level ++ layOut level j ++ layOutItems level rest
termination_by structural items => items

/-- One member of an object. -/
def layOutField (level : Nat) : String × Json → List Char
  | (key, j) => writeStr key ++ ':' :: ' ' :: layOut level j
termination_by structural field => field

/-- The members after the first, each after a comma on a line of its own. -/
def layOutFields (level : Nat) : List (String × Json) → List Char
  | [] => []
  | field :: rest => ',' :: newline level ++ layOutField level field ++ layOutFields level rest
termination_by structural fields => fields

end

/-- The text of a value over several lines. -/
def pretty (j : Json) : String := String.ofList (layOut 0 j)

end Daybook.Json
