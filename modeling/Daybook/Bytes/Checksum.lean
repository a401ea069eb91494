import Daybook.Bytes.Basic

/-!
# Checksums

The cyclic redundancy check of thirty-two bits with the polynomial `0xEDB88320`, low bits first.

* `checksum`.
-/

namespace Daybook.Bytes

/-- Takes one bit out of a remainder. -/
def checksumBit (r : UInt32) : UInt32 :=
  if r % 2 = 1 then (r >>> 1) ^^^ 0xEDB88320 else r >>> 1

/-- Takes one byte into a remainder. -/
def checksumByte (r : UInt32) (b : UInt8) : UInt32 :=
  (List.range 8).foldl (fun r _ => checksumBit r) (r ^^^ b.toUInt32)

/-- The checksum of a byte string. -/
def checksum (b : Bytes) : UInt32 := (b.foldl checksumByte 0xFFFFFFFF) ^^^ 0xFFFFFFFF

/-- A number in `count` bytes, low bytes first. -/
def ofNat (count n : Nat) : Bytes :=
  match count with
  | 0 => []
  | count + 1 => UInt8.ofNat n :: ofNat count (n / 256)

/-- The number in bytes with the low bytes first. -/
def toNat : Bytes → Nat
  | [] => 0
  | b :: rest => b.toNat + 256 * toNat rest

/-- The first `count` bytes and the rest, if there are so many. -/
def splitAt? (count : Nat) (b : Bytes) : Option (Bytes × Bytes) :=
  if count ≤ b.length then some (b.take count, b.drop count) else none

end Daybook.Bytes
