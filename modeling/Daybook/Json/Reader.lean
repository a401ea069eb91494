import Daybook.Json.Basic
import Daybook.Bytes.Basic

/-!
# Reading JSON

The grammar is the strict one: no trailing characters, no leading zeros, no bare control
characters, surrogate escapes in pairs only, at most `maxDepth` levels of nesting. Of equal keys in
an object the last wins.

A number without fraction and exponent is an integer while it fits; `-0` is a floating-point zero.
Any other number keeps the leading digits that fit in sixty-four bits; they are rounded, and the
power of ten is applied with one more rounding, as `scaled` says. A number too large for the format
is refused.

* `read?`, `readBytes?`: the value of a text, of a byte string.
-/

namespace Daybook.Json

-- Powers are those of the core library.
attribute [local instance (high)] instPowNat instNatPowNat Int.instNatPow

/-- The levels of nesting that a text may have. -/
def maxDepth : Nat := 127

/-- The blanks between tokens. -/
def isSpace (c : Char) : Bool := c = ' ' || c = '\n' || c = '\t' || c = '\r'

/-- The rest of a text after its leading blanks. -/
def skipSpace (s : List Char) : List Char := s.dropWhile isSpace

/-! ## Strings -/

/-- The value of a digit in base sixteen. -/
def hexValue? (c : Char) : Option Nat :=
  if '0' ≤ c ∧ c ≤ '9' then some (c.toNat - 48)
  else if 'a' ≤ c ∧ c ≤ 'f' then some (c.toNat - 87)
  else if 'A' ≤ c ∧ c ≤ 'F' then some (c.toNat - 55)
  else none

/-- Four digits in base sixteen, and the rest. -/
def readUnit? : List Char → Option (Nat × List Char)
  | a :: b :: c :: d :: rest => do
    let a ← hexValue? a
    let b ← hexValue? b
    let c ← hexValue? c
    let d ← hexValue? d
    pure (((a * 16 + b) * 16 + c) * 16 + d, rest)
  | _ => none

/-- The character of a `\u` escape, given what follows the `u`. A leading surrogate needs its
trailing one. -/
def readEscape? (s : List Char) : Option (Char × List Char) := do
  let (unit, rest) ← readUnit? s
  if unit < 0xD800 ∨ 0xE000 ≤ unit then pure (Char.ofNat unit, rest)
  else if 0xDC00 ≤ unit then none
  else
    match rest with
    | '\\' :: 'u' :: rest =>
      let (low, rest) ← readUnit? rest
      if 0xDC00 ≤ low ∧ low < 0xE000 then
        pure (Char.ofNat (0x10000 + (unit - 0xD800) * 0x400 + (low - 0xDC00)), rest)
      else none
    | _ => none

/-- The characters of a string up to its closing quote, and the rest; `fuel` bounds the steps. -/
def readChars? : Nat → List Char → Option (List Char × List Char)
  | 0, _ => none
  | fuel + 1, s =>
    let next (c : Char) (rest : List Char) : Option (List Char × List Char) := do
      let (cs, rest) ← readChars? fuel rest
      pure (c :: cs, rest)
    match s with
    | [] => none
    | '"' :: rest => some ([], rest)
    | '\\' :: '"' :: rest => next '"' rest
    | '\\' :: '\\' :: rest => next '\\' rest
    | '\\' :: '/' :: rest => next '/' rest
    | '\\' :: 'b' :: rest => next '\x08' rest
    | '\\' :: 'f' :: rest => next '\x0c' rest
    | '\\' :: 'n' :: rest => next '\n' rest
    | '\\' :: 'r' :: rest => next '\r' rest
    | '\\' :: 't' :: rest => next '\t' rest
    | '\\' :: 'u' :: rest => do
      let (c, rest) ← readEscape? rest
      next c rest
    | '\\' :: _ => none
    | c :: rest => if c.toNat < 32 then none else next c rest

/-- A string after its opening quote; `fuel` is more than the length of the text. -/
def readString? (fuel : Nat) (s : List Char) : Option (String × List Char) := do
  let (cs, rest) ← readChars? fuel s
  pure (String.ofList cs, rest)

/-! ## Numbers -/

/-- The largest exponent of a power of ten that is applied in one step. -/
def maxPower : Nat := 308

/-- The product of a number with `10 ^ exponent` for an exponent within `maxPower`: the power is
rounded to a `Binary64`, and so is the product or quotient. -/
def timesPower (x : Binary64) (exponent : Int) : Binary64 :=
  let power := Binary64.ofDecimal false 1 exponent.natAbs
  let num := x.magnitude * 2 ^ x.scale.toNat
  let den := 2 ^ (-x.scale).toNat
  let powerNum := power.magnitude * 2 ^ power.scale.toNat
  let powerDen := 2 ^ (-power.scale).toNat
  if 0 ≤ exponent then Binary64.ofRatio false (num * powerNum) (den * powerDen)
  else Binary64.ofRatio false (num * powerDen) (den * powerNum)

/-- A number times `10 ^ exponent`; an exponent below the one-step range is worked off in steps of
that range, of which three suffice to reach zero. -/
def scaleDown : Nat → Binary64 → Int → Binary64
  | 0, x, _ => x
  | steps + 1, x, exponent =>
    if -(maxPower : Int) ≤ exponent then timesPower x exponent
    else if x.isZero then x
    else scaleDown steps (timesPower x (-(maxPower : Int))) (exponent + maxPower)

/-- The number `± significand * 10 ^ exponent`, unless it is too large for the format. -/
def scaled (negative : Bool) (significand : Nat) (exponent : Int) : Option Binary64 :=
  let x := Binary64.ofInt significand
  let magnitude? : Option Binary64 :=
    if (maxPower : Int) < exponent then (if x.isZero then some x else none)
    else
      let y := scaleDown 4 x exponent
      if y.isFinite then some y else none
  magnitude?.map fun y => if negative then ⟨y.bits + 2 ^ (63 : Nat)⟩ else y

/-- The value of a digit. -/
def digitValue (c : Char) : Nat := c.toNat - 48

/-- Adds digits to a significand while it fits in sixty-four bits; answers the significand and the
count of digits taken. -/
def takeDigits (significand : Nat) : List Char → Nat × Nat
  | [] => (significand, 0)
  | c :: rest =>
    let next := significand * 10 + digitValue c
    if next < 2 ^ (64 : Nat) then
      let (s, n) := takeDigits next rest
      (s, n + 1)
    else (significand, 0)

/-- The value of a list of digits. -/
def digitsValue (ds : List Char) : Nat := ds.foldl (fun n c => n * 10 + digitValue c) 0

/-- An exponent part, if the text has one: its signed value, and the rest. A text that breaks off
inside the part is refused. -/
def readExponent? : List Char → Option (Option Int × List Char)
  | c :: rest =>
    if c = 'e' ∨ c = 'E' then
      let (negative, rest) : Bool × List Char :=
        match rest with
        | '+' :: r => (false, r)
        | '-' :: r => (true, r)
        | r => (false, r)
      let ds := rest.takeWhile Char.isDigit
      if ds.isEmpty then none
      else
        let n : Int := digitsValue ds
        some (some (if negative then -n else n), rest.dropWhile Char.isDigit)
    else some (none, c :: rest)
  | [] => some (none, [])

/-- A number after its sign. -/
def readNumber? (negative : Bool) (s : List Char) : Option (Json × List Char) := do
  let whole := s.takeWhile Char.isDigit
  let rest := s.dropWhile Char.isDigit
  if whole.isEmpty then none
  else if whole.length ≠ 1 ∧ whole.head? = some '0' then none
  else
    let (significand, taken) := takeDigits 0 whole
    let dropped := whole.length - taken
    let (fraction, rest) : Option (List Char) × List Char :=
      match rest with
      | '.' :: r => (some (r.takeWhile Char.isDigit), r.dropWhile Char.isDigit)
      | r => (none, r)
    if fraction = some [] then none
    else
      let (exponent, rest) ← readExponent? rest
      if fraction.isNone ∧ exponent.isNone ∧ dropped = 0 then
        if negative then
          if significand = 0 then pure (.real ⟨2 ^ (63 : Nat)⟩, rest)
          else if significand ≤ 2 ^ (63 : Nat) then pure (.int (-(significand : Int)), rest)
          else
            let x ← scaled true significand 0
            pure (.real x, rest)
        else pure (.int significand, rest)
      else
        let (significand, places) := takeDigits significand (fraction.getD [])
        let x ← scaled negative significand ((dropped : Int) - places + exponent.getD 0)
        pure (.real x, rest)

/-! ## Values -/

mutual

/-- A value with at most `depth` levels of nesting, and the rest; `fuel` bounds the steps. -/
def readValue? (fuel depth : Nat) (s : List Char) : Option (Json × List Char) :=
  match fuel with
  | 0 => none
  | fuel + 1 =>
    match skipSpace s with
    | 'n' :: 'u' :: 'l' :: 'l' :: rest => some (.null, rest)
    | 't' :: 'r' :: 'u' :: 'e' :: rest => some (.bool true, rest)
    | 'f' :: 'a' :: 'l' :: 's' :: 'e' :: rest => some (.bool false, rest)
    | '"' :: rest => do
      let (s, rest) ← readString? fuel rest
      pure (.str s, rest)
    | '-' :: rest => readNumber? true rest
    | '[' :: rest =>
      if depth = 0 then none
      else
        match skipSpace rest with
        | ']' :: rest => some (.arr [], rest)
        | rest => do
          let (items, rest) ← readItems? fuel (depth - 1) rest
          pure (.arr items, rest)
    | '\x7b' :: rest =>
      if depth = 0 then none
      else
        match skipSpace rest with
        | '\x7d' :: rest => some (.obj [], rest)
        | rest => do
          let (fields, rest) ← readFields? fuel (depth - 1) rest
          pure (.obj (KeyMap.ofList fields), rest)
    | rest => readNumber? false rest

/-- The items of an array up to its closing bracket. -/
def readItems? (fuel depth : Nat) (s : List Char) : Option (List Json × List Char) :=
  match fuel with
  | 0 => none
  | fuel + 1 => do
    let (item, rest) ← readValue? fuel depth s
    match skipSpace rest with
    | ']' :: rest => pure ([item], rest)
    | ',' :: rest =>
      let (items, rest) ← readItems? fuel depth rest
      pure (item :: items, rest)
    | _ => none

/-- The members of an object up to its closing brace. -/
def readFields? (fuel depth : Nat) (s : List Char) :
    Option (List (String × Json) × List Char) :=
  match fuel with
  | 0 => none
  | fuel + 1 =>
    match skipSpace s with
    | '"' :: rest => do
      let (key, rest) ← readString? fuel rest
      match skipSpace rest with
      | ':' :: rest =>
        let (value, rest) ← readValue? fuel depth rest
        match skipSpace rest with
        | '\x7d' :: rest => pure ([(key, value)], rest)
        | ',' :: rest =>
          let (fields, rest) ← readFields? fuel depth rest
          pure ((key, value) :: fields, rest)
        | _ => none
      | _ => none
    | _ => none

end

/-- The value of a text with at most `depth` levels of nesting. -/
def readWithin? (depth : Nat) (text : String) : Option Json :=
  let s := text.toList
  match readValue? (2 * s.length + 2) depth s with
  | some (j, rest) => if (skipSpace rest).isEmpty then some j else none
  | none => none

/-- The value of a text. -/
def read? (text : String) : Option Json := readWithin? maxDepth text

/-- The value of the text that the bytes encode. -/
def readBytes? (b : Bytes) : Option Json := (Bytes.toText? b).bind read?

end Daybook.Json
