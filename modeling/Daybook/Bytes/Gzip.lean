import Daybook.Bytes.Inflate

/-!
# Compressed files

A compressed file has a header, compressed data, and the checksum and the length of what it holds.
Files are written with their data as it is; all files are read.

* `pack`: the file of some bytes;
* `unpack?`: the bytes of a file; what follows the first file is passed over.
-/

namespace Daybook.Gzip

-- Powers are those of the core library.
attribute [local instance (high)] instPowNat instNatPowNat Int.instNatPow

open Bytes

/-! ## Writing -/

/-- The header of a file without a name. -/
def header : Bytes := [0x1f, 0x8b, 8, 0, 0, 0, 0, 0, 0, 255]

/-- The longest block of bytes as they are. -/
def maxBlock : Nat := 65535

/-- A block of bytes as they are. -/
def storedBlock (last : Bool) (b : Bytes) : Bytes :=
  (if last then 1 else 0) :: ofNat 2 b.length ++ ofNat 2 (maxBlock - b.length) ++ b

/-- Blocks of bytes as they are; `fuel` is at least the number of bytes. -/
def storedBlocks : Nat → Bytes → Bytes
  | 0, b => storedBlock true b
  | fuel + 1, b =>
    if b.length ≤ maxBlock then storedBlock true b
    else storedBlock false (b.take maxBlock) ++ storedBlocks fuel (b.drop maxBlock)

/-- The file of some bytes. -/
def pack (b : Bytes) : Bytes :=
  header ++ storedBlocks b.length b ++ ofNat 4 (checksum b).toNat ++ ofNat 4 b.length

/-! ## Reading -/

/-- The flag of a header is set. -/
def hasFlag (flags : UInt8) (bit : Nat) : Bool := flags.toNat / 2 ^ bit % 2 = 1

/-- The longest text in a header. -/
def maxText : Nat := 65535

/-- What follows a text that ends with a zero byte. -/
def afterText? (b : Bytes) : Option Bytes :=
  let text := b.takeWhile (· ≠ 0)
  if maxText < text.length then none
  else
    match b.drop text.length with
    | _ :: rest => some rest
    | [] => none

/-- What follows the header of a file. -/
def afterHeader? (b : Bytes) : Option Bytes := do
  let (head, rest) ← splitAt? 10 b
  match head with
  | 0x1f :: 0x8b :: 8 :: flags :: _ =>
    if 32 ≤ flags.toNat then none
    else
      let rest ←
        if hasFlag flags 2 then do
          let (size, rest) ← splitAt? 2 rest
          let (_, rest) ← splitAt? (toNat size) rest
          pure rest
        else pure rest
      let rest ← if hasFlag flags 3 then afterText? rest else pure rest
      let rest ← if hasFlag flags 4 then afterText? rest else pure rest
      if hasFlag flags 1 then
        let (stored, after) ← splitAt? 2 rest
        let sum := checksum (b.take (b.length - rest.length))
        if toNat stored = sum.toNat % 65536 then pure after else none
      else pure rest
  | _ => none

/-- The bytes of the first file, if its checksum and its length are right. -/
def unpack? (b : Bytes) : Option Bytes := do
  let data ← afterHeader? b
  let (bytes, rest) ← inflate? data
  let (tail, _) ← splitAt? 8 rest
  if toNat (tail.take 4) = (checksum bytes).toNat &&
      toNat (tail.drop 4) = bytes.length % 2 ^ (32 : Nat) then
    pure bytes
  else none

end Daybook.Gzip
