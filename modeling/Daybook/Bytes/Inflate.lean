import Daybook.Bytes.Checksum

/-!
# Reading compressed data

Compressed data is a sequence of blocks. A block holds bytes as they are, or symbols in a prefix
code: a symbol is a byte, the end of the block, or a repetition of bytes that came before.

* `BitSource`: bytes taken bit by bit, low bits first;
* `PrefixCode`: a code given by the lengths of its words;
* `inflate?`: the bytes of all blocks, and what follows them.
-/

namespace Daybook.Bytes

-- Powers are those of the core library.
attribute [local instance (high)] instPowNat instNatPowNat Int.instNatPow

/-! ## Bits -/

/-- Bytes from which bits are taken, low bits first. -/
structure BitSource where
  /-- The bits that are left of the byte that was begun. -/
  bits : List Bool
  bytes : Bytes

/-- The bits of a byte, low bits first. -/
def bitsOf (b : UInt8) : List Bool := (List.range 8).map fun i => b.toNat / 2 ^ i % 2 = 1

namespace BitSource

/-- Takes one bit. -/
def bit? (s : BitSource) : Option (Bool × BitSource) :=
  match s.bits, s.bytes with
  | b :: rest, bytes => some (b, ⟨rest, bytes⟩)
  | [], byte :: bytes =>
    match bitsOf byte with
    | b :: rest => some (b, ⟨rest, bytes⟩)
    | [] => none
  | [], [] => none

/-- Takes a number of `count` bits, low bits first. -/
def number? : Nat → BitSource → Option (Nat × BitSource)
  | 0, s => some (0, s)
  | count + 1, s => do
    let (b, s) ← s.bit?
    let (n, s) ← number? count s
    pure ((if b then 1 else 0) + 2 * n, s)

/-- The bytes after the one that was begun. -/
def rest (s : BitSource) : Bytes := s.bytes

/-- More than the number of bits that are left. -/
def fuel (s : BitSource) : Nat := s.bits.length + 8 * s.bytes.length + 1

end BitSource

/-! ## Prefix codes -/

/-- A code in which words of one length follow each other in the order of their symbols, and longer
words after shorter ones. -/
structure PrefixCode where
  /-- How many words there are of the lengths 1, 2 and so on. -/
  counts : List Nat
  /-- The symbols, by the lengths of their words. -/
  symbols : Array Nat

namespace PrefixCode

/-- The longest word. -/
def maxLength : Nat := 15

/-- The code that gives each symbol, from zero on, a word of the given length, none for length
zero. -/
def ofLengths (lengths : List Nat) : PrefixCode :=
  let sizes := (List.range maxLength).map (· + 1)
  { counts := sizes.map fun n => lengths.count n
    symbols := (sizes.flatMap fun n =>
      (lengths.zipIdx.filter fun p => p.1 = n).map Prod.snd).toArray }

/-- How many words of the greatest length are still free; negative if there are too many words. -/
def free (c : PrefixCode) : Int :=
  c.counts.foldl (fun (left : Int) (n : Nat) => 2 * left - n) 1

/-- The words fill the code, or there is at most one word. -/
def isUsable (c : PrefixCode) : Bool :=
  c.free = 0 || (decide (0 < c.free) && decide (c.symbols.size ≤ 1))

/-- Takes one symbol: `code` is the word so far, `first` the first word of its length, and `index`
the number of symbols with shorter words. -/
def symbolFrom? (symbols : Array Nat) (s : BitSource) (code first index : Nat) :
    List Nat → Option (Nat × BitSource)
  | [] => none
  | count :: longer => do
    let (b, s) ← s.bit?
    let code := 2 * code + (if b then 1 else 0)
    let first := 2 * first
    if code < first + count then
      let symbol ← symbols[index + (code - first)]?
      pure (symbol, s)
    else symbolFrom? symbols s code (first + count) (index + count) longer

/-- Takes one symbol. -/
def symbol? (c : PrefixCode) (s : BitSource) : Option (Nat × BitSource) :=
  symbolFrom? c.symbols s 0 0 0 c.counts

end PrefixCode

/-! ## Repetitions -/

/-- The lengths of repetitions: the least length and the number of further bits, from symbol 257
on. -/
def lengthTable : List (Nat × Nat) :=
  [(3, 0), (4, 0), (5, 0), (6, 0), (7, 0), (8, 0), (9, 0), (10, 0), (11, 1), (13, 1), (15, 1),
    (17, 1), (19, 2), (23, 2), (27, 2), (31, 2), (35, 3), (43, 3), (51, 3), (59, 3), (67, 4),
    (83, 4), (99, 4), (115, 4), (131, 5), (163, 5), (195, 5), (227, 5), (258, 0)]

/-- The distances of repetitions: the least distance and the number of further bits. -/
def distanceTable : List (Nat × Nat) :=
  [(1, 0), (2, 0), (3, 0), (4, 0), (5, 1), (7, 1), (9, 2), (13, 2), (17, 3), (25, 3), (33, 4),
    (49, 4), (65, 5), (97, 5), (129, 6), (193, 6), (257, 7), (385, 7), (513, 8), (769, 8),
    (1025, 9), (1537, 9), (2049, 10), (3073, 10), (4097, 11), (6145, 11), (8193, 12), (12289, 12),
    (16385, 13), (24577, 13)]

/-- Takes the further bits of an entry of a table. -/
def entry? (table : List (Nat × Nat)) (i : Nat) (s : BitSource) : Option (Nat × BitSource) := do
  let (least, extra) ← table[i]?
  let (n, s) ← s.number? extra
  pure (least + n, s)

/-- Repeats the bytes at a distance from the end. -/
def repeatBytes (distance : Nat) : Nat → Array UInt8 → Array UInt8
  | 0, out => out
  | n + 1, out => repeatBytes distance n (out.push (out.getD (out.size - distance) 0))

/-! ## Blocks -/

/-- Takes the symbols of a block, up to its end; every step takes a bit, and `fuel` is more than
their number. -/
def symbols? (literals distances : PrefixCode) :
    Nat → BitSource → Array UInt8 → Option (BitSource × Array UInt8)
  | 0, _, _ => none
  | fuel + 1, s, out => do
    let (symbol, s) ← literals.symbol? s
    if symbol < 256 then symbols? literals distances fuel s (out.push (UInt8.ofNat symbol))
    else if symbol = 256 then some (s, out)
    else
      let (length, s) ← entry? lengthTable (symbol - 257) s
      let (i, s) ← distances.symbol? s
      let (distance, s) ← entry? distanceTable i s
      if out.size < distance then none
      else symbols? literals distances fuel s (repeatBytes distance length out)

/-- A block of bytes as they are. -/
def storedBlock? (s : BitSource) (out : Array UInt8) : Option (BitSource × Array UInt8) := do
  let (head, rest) ← splitAt? 4 s.rest
  let length := toNat (head.take 2)
  if length + toNat (head.drop 2) ≠ 65535 then none
  else
    let (bytes, rest) ← splitAt? length rest
    pure (⟨[], rest⟩, out ++ bytes.toArray)

/-- The code of the symbols of a block without codes of its own. -/
def fixedLiterals : PrefixCode :=
  .ofLengths (List.replicate 144 8 ++ List.replicate 112 9 ++ List.replicate 24 7 ++
    List.replicate 8 8)

/-- The code of the distances of a block without codes of its own. -/
def fixedDistances : PrefixCode := .ofLengths (List.replicate 30 5)

/-- The order in which the lengths for the code of lengths are given. -/
def lengthOrder : List Nat := [16, 17, 18, 0, 8, 7, 9, 6, 10, 5, 11, 4, 12, 3, 13, 2, 14, 1, 15]

/-- Takes several numbers of the same number of bits. -/
def numbers? (width : Nat) : Nat → BitSource → Option (List Nat × BitSource)
  | 0, s => some ([], s)
  | count + 1, s => do
    let (n, s) ← s.number? width
    let (ns, s) ← numbers? width count s
    pure (n :: ns, s)

/-- Takes lengths of words until there are `count`; `lengths` holds those so far, last first. -/
def lengths? (code : PrefixCode) (count : Nat) :
    Nat → BitSource → List Nat → Option (List Nat × BitSource)
  | 0, _, _ => none
  | fuel + 1, s, lengths =>
    if lengths.length = count then some (lengths.reverse, s)
    else if count < lengths.length then none
    else do
      let (symbol, s) ← code.symbol? s
      if symbol < 16 then lengths? code count fuel s (symbol :: lengths)
      else
        let (value, least, width) ←
          if symbol = 16 then lengths.head?.map fun last => (last, 3, 2)
          else if symbol = 17 then some (0, 3, 3)
          else some (0, 11, 7)
        let (n, s) ← s.number? width
        lengths? code count fuel s (List.replicate (least + n) value ++ lengths)

/-- Takes the codes of a block with codes of its own. -/
def codes? (s : BitSource) : Option (PrefixCode × PrefixCode × BitSource) := do
  let (literalCount, s) ← s.number? 5
  let (distanceCount, s) ← s.number? 5
  let (lengthCount, s) ← s.number? 4
  let literalCount := literalCount + 257
  let distanceCount := distanceCount + 1
  if 286 < literalCount || 30 < distanceCount then none
  else
    let (given, s) ← numbers? 3 (lengthCount + 4) s
    let pairs := lengthOrder.zip given
    let code := PrefixCode.ofLengths ((List.range 19).map fun i => (pairs.lookup i).getD 0)
    if code.free ≠ 0 then none
    else
      let (lengths, s) ← lengths? code (literalCount + distanceCount) s.fuel s []
      let literals := PrefixCode.ofLengths (lengths.take literalCount)
      let distances := PrefixCode.ofLengths (lengths.drop literalCount)
      if literals.isUsable && distances.isUsable then pure (literals, distances, s) else none

/-- Takes one block after its kind. -/
def block? (kind : Nat) (s : BitSource) (out : Array UInt8) :
    Option (BitSource × Array UInt8) :=
  match kind with
  | 0 => storedBlock? s out
  | 1 => symbols? fixedLiterals fixedDistances s.fuel s out
  | 2 => do
    let (literals, distances, s) ← codes? s
    symbols? literals distances s.fuel s out
  | _ => none

/-- Takes blocks up to the one that is marked as the last; every block takes bits, and `fuel` is
more than their number. -/
def blocks? : Nat → BitSource → Array UInt8 → Option (BitSource × Array UInt8)
  | 0, _, _ => none
  | fuel + 1, s, out => do
    let (last, s) ← s.bit?
    let (kind, s) ← s.number? 2
    let (s, out) ← block? kind s out
    if last then pure (s, out) else blocks? fuel s out

/-- The bytes of compressed data, and what follows the data. -/
def inflate? (b : Bytes) : Option (Bytes × Bytes) := do
  let s : BitSource := ⟨[], b⟩
  let (s, out) ← blocks? s.fuel s #[]
  pure (out.toList, s.rest)

end Daybook.Bytes
