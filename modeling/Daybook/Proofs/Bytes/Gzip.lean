import Daybook.Bytes.Gzip
import Mathlib.Data.Nat.ModEq

/-!
# Packed bytes

A file is packed in blocks that hold bytes as they are. Reading takes block after block
(`blocks?_storedBlocks`), and finds the checksum and the length that were written. So what was
packed is unpacked, however long it is (**`unpack?_pack`**), and bytes of a text give it back.

* `toNat_ofNat`, `splitAt?_append`: numbers in bytes, and parts of byte strings;
* `toText?_ofText`: texts in bytes.
-/

namespace Daybook

open Bytes

/-! ## Bytes -/

namespace Bytes

theorem toList_loop (bytes : ByteArray) (i : Nat) (r : List UInt8) :
    ByteArray.toList.loop bytes i r = r.reverse ++ bytes.data.toList.drop i := by
  fun_induction ByteArray.toList.loop bytes i r with
  | case1 i r hi ih =>
    have hlt : i < bytes.data.toList.length := hi
    have hget : bytes.get! i = bytes.data.toList[i] := by
      show bytes.data[i]! = _
      rw [getElem!_pos bytes.data i hi, Array.getElem_toList]
    rw [ih, hget, List.reverse_cons, List.append_assoc, List.singleton_append,
      List.getElem_cons_drop]
  | case2 i r hi =>
    have hle : bytes.data.toList.length ≤ i := Nat.le_of_not_lt hi
    rw [List.drop_eq_nil_of_le hle, List.append_nil]

/-- The bytes of a text give it back. -/
theorem toText?_ofText (s : String) : toText? (ofText s) = some s := by
  have hlist : ofText s = s.toByteArray.data.toList := toList_loop s.toByteArray 0 []
  have hbytes : (⟨(ofText s).toArray⟩ : ByteArray) = s.toByteArray := by rw [hlist]
  rw [toText?, hbytes, String.fromUTF8?, dif_pos s.isValidUTF8]
  rfl

theorem length_ofNat (count n : Nat) : (ofNat count n).length = count := by
  induction count generalizing n with
  | zero => rfl
  | succ count ih => rw [ofNat, List.length_cons, ih]

/-- The number in bytes is the number, as far as they reach. -/
theorem toNat_ofNat (count n : Nat) : toNat (ofNat count n) = n % 256 ^ count := by
  induction count generalizing n with
  | zero => rw [ofNat, toNat, pow_zero, Nat.mod_one]
  | succ count ih =>
    rw [ofNat, toNat, ih, pow_succ', Nat.mod_mul, UInt8.toNat_ofNat']

theorem toNat_ofNat_of_lt {count n : Nat} (h : n < 256 ^ count) : toNat (ofNat count n) = n := by
  rw [toNat_ofNat, Nat.mod_eq_of_lt h]

theorem splitAt?_append {count : Nat} {a b : Bytes} (h : a.length = count) :
    splitAt? count (a ++ b) = some (a, b) := by
  rw [splitAt?, List.length_append, if_pos (by omega), List.take_left' h, List.drop_left' h]

end Bytes

/-! ## Blocks -/

namespace Gzip

variable {b : Bytes}

/-- A block of bytes as they are is read back. -/
theorem storedBlock?_eq (h : b.length ≤ maxBlock) (bits : List Bool) (rest : Bytes)
    (out : Array UInt8) :
    storedBlock? ⟨bits, ofNat 2 b.length ++ ofNat 2 (maxBlock - b.length) ++ b ++ rest⟩ out =
      some (⟨[], rest⟩, out ++ b.toArray) := by
  have hpow : (256 : Nat) ^ 2 = maxBlock + 1 := rfl
  have hhead : splitAt? 4 (ofNat 2 b.length ++ ofNat 2 (maxBlock - b.length) ++ b ++ rest) =
      some (ofNat 2 b.length ++ ofNat 2 (maxBlock - b.length), b ++ rest) := by
    rw [List.append_assoc]
    refine splitAt?_append ?_
    rw [List.length_append, length_ofNat, length_ofNat]
  have htake : (ofNat 2 b.length ++ ofNat 2 (maxBlock - b.length)).take 2 = ofNat 2 b.length :=
    List.take_left' (length_ofNat 2 _)
  have hdrop : (ofNat 2 b.length ++ ofNat 2 (maxBlock - b.length)).drop 2 =
      ofNat 2 (maxBlock - b.length) := List.drop_left' (length_ofNat 2 _)
  have hlength : toNat (ofNat 2 b.length) = b.length := toNat_ofNat_of_lt (by omega)
  have hrest : toNat (ofNat 2 (maxBlock - b.length)) = maxBlock - b.length :=
    toNat_ofNat_of_lt (by omega)
  have hsum : b.length + (maxBlock - b.length) = 65535 := Nat.add_sub_cancel' h
  rw [storedBlock?, BitSource.rest, hhead]
  show (if toNat _ + toNat _ ≠ 65535 then none else (splitAt? (toNat _) (b ++ rest)).bind _) = _
  rw [htake, hdrop, hlength, hrest, if_neg (not_not.2 hsum), splitAt?_append rfl]
  rfl

/-- What comes of a block is what comes of the blocks after it. -/
theorem blocks?_storedBlock (h : b.length ≤ maxBlock) (last : Bool) (fuel : Nat) (rest : Bytes)
    (out : Array UInt8) :
    blocks? (fuel + 1) ⟨[], storedBlock last b ++ rest⟩ out =
      if last then some (⟨[], rest⟩, out ++ b.toArray)
      else blocks? fuel ⟨[], rest⟩ (out ++ b.toArray) := by
  have hbit : ∀ bytes : Bytes, (⟨[], (if last then 1 else 0) :: bytes⟩ : BitSource).bit? =
      some (last, ⟨List.replicate 7 false, bytes⟩) := by
    intro bytes
    cases last <;> rfl
  have hkind : ∀ bytes : Bytes, BitSource.number? 2 ⟨List.replicate 7 false, bytes⟩ =
      some (0, ⟨List.replicate 5 false, bytes⟩) := fun _ => rfl
  have hblock : ∀ bytes : Bytes, block? 0 ⟨List.replicate 5 false, bytes⟩ out =
      storedBlock? ⟨List.replicate 5 false, bytes⟩ out := fun _ => rfl
  simp only [blocks?, storedBlock, List.cons_append, hbit, hkind, hblock, storedBlock?_eq h,
    Option.bind_eq_bind, Option.bind_some]
  rfl

theorem length_storedBlock (last : Bool) (b : Bytes) :
    (storedBlock last b).length = b.length + 5 := by
  rw [storedBlock, List.length_append, List.length_append, List.length_cons, length_ofNat,
    length_ofNat]
  omega

/-- **Blocks of bytes as they are are read back.** -/
theorem blocks?_storedBlocks {k fuel : Nat} (hk : b.length ≤ k)
    (hfuel : (storedBlocks k b).length ≤ fuel) (rest : Bytes) (out : Array UInt8) :
    blocks? fuel ⟨[], storedBlocks k b ++ rest⟩ out = some (⟨[], rest⟩, out ++ b.toArray) := by
  induction k generalizing b fuel out with
  | zero =>
    rw [storedBlocks, length_storedBlock] at hfuel
    obtain ⟨fuel, rfl⟩ := Nat.exists_eq_add_one.2 (Nat.lt_of_lt_of_le (Nat.succ_pos _) hfuel)
    have hshort : b.length ≤ maxBlock := hk.trans (Nat.zero_le _)
    rw [storedBlocks, blocks?_storedBlock hshort, if_pos rfl]
  | succ k ih =>
    rw [storedBlocks] at hfuel ⊢
    split_ifs at hfuel ⊢ with hshort
    · rw [length_storedBlock] at hfuel
      obtain ⟨fuel, rfl⟩ := Nat.exists_eq_add_one.2 (Nat.lt_of_lt_of_le (Nat.succ_pos _) hfuel)
      rw [blocks?_storedBlock hshort, if_pos rfl]
    · -- one full block, and the blocks of the bytes after it
      rw [List.length_append, length_storedBlock] at hfuel
      obtain ⟨fuel, rfl⟩ : ∃ n, fuel = n + 1 := Nat.exists_eq_add_one.2 (by omega)
      have htake : (b.take maxBlock).length ≤ maxBlock := List.length_take_le _ _
      have hdrop : (b.drop maxBlock).length ≤ k := by
        have hpos : 0 < maxBlock := by decide
        rw [List.length_drop]
        omega
      rw [List.append_assoc, blocks?_storedBlock htake, if_neg Bool.false_ne_true,
        ih hdrop (by omega)]
      have hparts : (b.take maxBlock).toArray ++ (b.drop maxBlock).toArray = b.toArray := by
        rw [List.append_toArray, List.take_append_drop]
      rw [Array.append_assoc, hparts]

/-! ## Files -/

theorem inflate?_storedBlocks (b rest : Bytes) :
    inflate? (storedBlocks b.length b ++ rest) = some (b, rest) := by
  have hfuel : (storedBlocks b.length b).length ≤
      (⟨[], storedBlocks b.length b ++ rest⟩ : BitSource).fuel := by
    rw [BitSource.fuel, List.length_append]
    omega
  rw [inflate?]
  show (blocks? _ _ _).bind _ = _
  rw [blocks?_storedBlocks le_rfl hfuel]
  show some ((#[] ++ b.toArray).toList, rest) = _
  rw [Array.empty_append]

theorem afterHeader?_header (rest : Bytes) : afterHeader? (header ++ rest) = some rest := by
  have hsplit : splitAt? 10 (header ++ rest) = some (header, rest) := splitAt?_append rfl
  rw [afterHeader?, hsplit]
  rfl

/-- **What was packed is unpacked.** -/
theorem unpack?_pack (b : Bytes) : unpack? (pack b) = some b := by
  have hdata : pack b = header ++ (storedBlocks b.length b ++
      (ofNat 4 (checksum b).toNat ++ ofNat 4 b.length)) := by
    rw [pack, List.append_assoc, List.append_assoc]
  have htail : splitAt? 8 (ofNat 4 (checksum b).toNat ++ ofNat 4 b.length) =
      some (ofNat 4 (checksum b).toNat ++ ofNat 4 b.length, []) := by
    have happend : splitAt? 8 (ofNat 4 (checksum b).toNat ++ ofNat 4 b.length ++ []) =
        some (ofNat 4 (checksum b).toNat ++ ofNat 4 b.length, []) := splitAt?_append
      (by rw [List.length_append, length_ofNat, length_ofNat])
    rwa [List.append_nil] at happend
  have htake : (ofNat 4 (checksum b).toNat ++ ofNat 4 b.length).take 4 =
      ofNat 4 (checksum b).toNat := List.take_left' (length_ofNat 4 _)
  have hdrop : (ofNat 4 (checksum b).toNat ++ ofNat 4 b.length).drop 4 = ofNat 4 b.length :=
    List.drop_left' (length_ofNat 4 _)
  have hsum : toNat (ofNat 4 (checksum b).toNat) = (checksum b).toNat :=
    toNat_ofNat_of_lt (checksum b).toNat_lt
  have hlength : toNat (ofNat 4 b.length) = b.length % 2 ^ 32 := toNat_ofNat 4 b.length
  rw [unpack?, hdata]
  simp only [afterHeader?_header, inflate?_storedBlocks, htail, htake, hdrop, hsum, hlength,
    Option.bind_eq_bind, Option.bind_some, decide_true, Bool.and_self, if_true, Option.pure_def]

end Gzip
end Daybook
