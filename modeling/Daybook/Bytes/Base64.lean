import Daybook.Bytes.Basic

/-!
# Padded base64

Bytes as text over sixty-four symbols, three bytes to four symbols, padded with `=` to a multiple
of four. Reading is strict: the padding has to be there, and the bits that the last symbol carries
beyond the last byte have to be zero, so each byte string has exactly one text.

* `encode`, `decode`;
* `Fault`: why a text is not the text of any bytes.
-/

namespace Daybook.Base64

/-- Why a text does not decode. -/
inductive Fault where
  /-- A byte that cannot stand at its offset. -/
  | byte (offset : Nat) (value : UInt8)
  /-- One symbol is left over, and it alone is no byte. -/
  | length
  /-- The last symbol carries bits that belong to no byte. -/
  | lastSymbol (offset : Nat) (value : UInt8)
  /-- The padding does not fill the last group of four. -/
  | padding
  deriving DecidableEq, Repr

/-- The wording of a fault. -/
def Fault.message : Fault → String
  | .byte offset value => s!"Invalid byte {value.toNat}, offset {offset}."
  | .length => "Encoded text cannot have a 6-bit remainder."
  | .lastSymbol offset value => s!"Invalid last symbol {value.toNat}, offset {offset}."
  | .padding => "Invalid padding"

/-- The byte of the padding character. -/
def padByte : UInt8 := 61

/-- The symbol of a number below sixty-four, as a byte. -/
def symbol (n : Nat) : UInt8 :=
  if n < 26 then UInt8.ofNat (65 + n)
  else if n < 52 then UInt8.ofNat (97 + (n - 26))
  else if n < 62 then UInt8.ofNat (48 + (n - 52))
  else if n = 62 then 43
  else 47

/-- The number of a symbol. -/
def value? (b : UInt8) : Option Nat :=
  let n := b.toNat
  if 65 ≤ n ∧ n ≤ 90 then some (n - 65)
  else if 97 ≤ n ∧ n ≤ 122 then some (n - 97 + 26)
  else if 48 ≤ n ∧ n ≤ 57 then some (n - 48 + 52)
  else if n = 43 then some 62
  else if n = 47 then some 63
  else none

/-- The byte is one of the sixty-four symbols. -/
def isSymbol (b : UInt8) : Bool := (value? b).isSome

/-! ## Writing -/

/-- The symbols and the padding for a byte string. -/
def encodeBytes : Bytes → Bytes
  | x :: y :: z :: rest =>
    let n := (x.toNat * 256 + y.toNat) * 256 + z.toNat
    symbol (n / 262144) :: symbol (n / 4096 % 64) :: symbol (n / 64 % 64) :: symbol (n % 64) ::
      encodeBytes rest
  | [x, y] =>
    let n := x.toNat * 256 + y.toNat
    [symbol (n / 1024), symbol (n / 16 % 64), symbol (n % 16 * 4), padByte]
  | [x] => [symbol (x.toNat / 4), symbol (x.toNat % 4 * 16), padByte, padByte]
  | [] => []

/-- The base64 text of a byte string. -/
def encode (b : Bytes) : String :=
  String.ofList ((encodeBytes b).map fun s => Char.ofNat s.toNat)

/-! ## Reading -/

/-- The bytes of a list of six-bit numbers, a last group of two or three included. -/
def joinSextets : List Nat → Bytes
  | a :: b :: c :: d :: rest =>
    let n := ((a * 64 + b) * 64 + c) * 64 + d
    UInt8.ofNat (n / 65536) :: UInt8.ofNat (n / 256 % 256) :: UInt8.ofNat (n % 256) ::
      joinSextets rest
  | [a, b, c] =>
    let n := (a * 64 + b) * 64 + c
    [UInt8.ofNat (n / 1024), UInt8.ofNat (n / 4 % 256)]
  | [a, b] => [UInt8.ofNat ((a * 64 + b) / 16)]
  | [_] => []
  | [] => []

/-- The bits of the last group that no byte takes up. -/
def spareBits : List Nat → Nat
  | _ :: _ :: _ :: _ :: rest => spareBits rest
  | [_, _, c] => c % 4
  | [_, b] => b % 16
  | [_] => 0
  | [] => 0

/-- The padding `rest` after `offset` symbols is in order: it starts in the second half of a group
of four, holds nothing but padding and ends with that group at the latest. -/
def isPadding (offset : Nat) (rest : Bytes) : Bool :=
  2 ≤ offset % 4 && rest.all (· == padByte) && rest.length ≤ 4 - offset % 4

/-- The bytes of a base64 text given by its own bytes. -/
def decodeBytes (text : Bytes) : Except Fault Bytes :=
  let symbols := text.takeWhile isSymbol
  let rest := text.dropWhile isSymbol
  let offset := symbols.length
  if text.length % 4 = 1 then
    match text.getLast? with
    | some b =>
      if b ≠ padByte ∧ ¬ isSymbol b then .error (.byte (text.length - 1) b) else .error .length
    | none => .error .length
  else if !rest.isEmpty && !isPadding offset rest then
    .error (.byte offset (rest.headD padByte))
  else if text.length % 4 ≠ 0 then .error .padding
  else
    let sextets := symbols.filterMap value?
    if spareBits sextets ≠ 0 then
      .error (.lastSymbol (offset - 1) (symbols.getLastD padByte))
    else .ok (joinSextets sextets)

/-- The bytes of a base64 text. -/
def decode (text : String) : Except Fault Bytes := decodeBytes (Bytes.ofText text)

end Daybook.Base64
