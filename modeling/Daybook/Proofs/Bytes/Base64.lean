import Daybook.Bytes.Base64
import Daybook.Proofs.Sql.Order
import Mathlib.Data.Nat.Digits.Lemmas

/-!
# Base64 texts of byte strings

A byte string has one base64 text, and no other text reads as it: with symbols of other kinds, with
padding missing or padding too much, or with bits set that belong to no byte, a text reads as
nothing (**`decode_eq_ok_iff`**). The text writes down the number that the bytes are in base 256,
moved up by two bits for each character of padding, in base 64 (**`spells_iff`**).

* `alphabet`, `Spells`: the format, without regard to how texts are written or read;
* `sextets`, `padCount`: the six-bit numbers of a byte string, and how much padding follows them;
* `IsLayout`, `IsLayout.decodeBytes_eq_ok`, `exists_isLayout`: what a text has to be made of to be
  read.
-/

namespace Daybook.Base64

/-! ## The format -/

/-- The symbols in the order of their numbers. -/
def alphabet : List Char :=
  "ABCDEFGHIJKLMNOPQRSTUVWXYZabcdefghijklmnopqrstuvwxyz0123456789+/".toList

/-- The symbol of a number below sixty-four. -/
def letter (v : Nat) : Char := alphabet.getD v '='

/-- The numbers and so many characters of padding make up the text of the bytes: four characters
stand for three bytes, and the numbers are the digits of the number of the bytes, which is moved up
by two bits for each character of padding. -/
structure IsSpelling (text : String) (b : Bytes) (vs : List Nat) (pads : Nat) : Prop where
  toList_eq : text.toList = vs.map letter ++ List.replicate pads '='
  lt : ∀ v ∈ vs, v < 64
  few : pads < 3
  length_eq : 3 * (vs.length + pads) = 4 * (b.length + pads)
  digits_eq : Nat.ofDigits 64 vs.reverse =
    4 ^ pads * Nat.ofDigits 256 (b.map UInt8.toNat).reverse

/-- The text is the padded base64 text of the bytes. -/
def Spells (text : String) (b : Bytes) : Prop := ∃ vs pads, IsSpelling text b vs pads

/-! ## Symbols -/

theorem value?_symbol {n : Nat} (h : n < 64) : value? (symbol n) = some n := by
  revert n
  decide

theorem isSymbol_symbol {n : Nat} (h : n < 64) : isSymbol (symbol n) = true := by
  rw [isSymbol, value?_symbol h, Option.isSome_some]

theorem isSymbol_padByte : isSymbol padByte = false := by decide

/-- A symbol is that of its number. -/
theorem symbol_of_value? {x : UInt8} {n : Nat} (h : value? x = some n) :
    n < 64 ∧ symbol n = x := by
  have hx := x.toNat_lt
  unfold value? at h
  dsimp only at h
  rw [← UInt8.toNat_inj]
  split_ifs at h
  all_goals
    obtain rfl := Option.some.inj h
    refine ⟨by omega, ?_⟩
    unfold symbol
    split_ifs <;> simp only [UInt8.toNat_ofNat', UInt8.reduceToNat] <;> omega

/-! ## Six-bit numbers -/

/-- The six-bit numbers of a byte string, the last of them filled up with zeros. -/
def sextets : Bytes → List Nat
  | x :: y :: z :: rest =>
    let n := (x.toNat * 256 + y.toNat) * 256 + z.toNat
    n / 262144 :: n / 4096 % 64 :: n / 64 % 64 :: n % 64 :: sextets rest
  | [x, y] =>
    let n := x.toNat * 256 + y.toNat
    [n / 1024, n / 16 % 64, n % 16 * 4]
  | [x] => [x.toNat / 4, x.toNat % 4 * 16]
  | [] => []

/-- How much padding follows the symbols of a byte string. -/
def padCount (b : Bytes) : Nat := 2 * b.length % 3

theorem encodeBytes_eq (b : Bytes) :
    encodeBytes b = (sextets b).map symbol ++ List.replicate (padCount b) padByte := by
  induction b using sextets.induct with
  | case1 x y z rest ih =>
    have hcount : padCount (x :: y :: z :: rest) = padCount rest := by
      simp only [padCount, List.length_cons]
      omega
    simp only [encodeBytes, sextets, List.map_cons, List.cons_append, hcount, ih]
  | case2 x y => simp [encodeBytes, sextets, padCount]
  | case3 x => simp [encodeBytes, sextets, padCount]
  | case4 => rfl

theorem lt_of_mem_sextets {b : Bytes} : ∀ v ∈ sextets b, v < 64 := by
  induction b using sextets.induct with
  | case1 x y z rest ih =>
    have hx := x.toNat_lt
    have hy := y.toNat_lt
    have hz := z.toNat_lt
    simp only [sextets, List.forall_mem_cons]
    exact ⟨by omega, by omega, by omega, by omega, ih⟩
  | case2 x y =>
    have hx := x.toNat_lt
    have hy := y.toNat_lt
    simp only [sextets, List.forall_mem_cons, List.not_mem_nil, false_imp_iff, implies_true,
      and_true]
    omega
  | case3 x =>
    have hx := x.toNat_lt
    simp only [sextets, List.forall_mem_cons, List.not_mem_nil, false_imp_iff, implies_true,
      and_true]
    omega
  | case4 => simp [sextets]

/-- Symbols and padding stand in groups of four, each for three bytes. -/
theorem length_sextets (b : Bytes) :
    3 * ((sextets b).length + padCount b) = 4 * (b.length + padCount b) := by
  induction b using sextets.induct with
  | case1 x y z rest ih =>
    simp only [sextets, padCount, List.length_cons] at ih ⊢
    omega
  | case2 x y => simp [sextets, padCount]
  | case3 x => simp [sextets, padCount]
  | case4 => rfl

/-- No bits are left over. -/
theorem spareBits_sextets (b : Bytes) : spareBits (sextets b) = 0 := by
  induction b using sextets.induct with
  | case1 x y z rest ih => simpa only [sextets, spareBits] using ih
  | case2 x y =>
    simp only [sextets, spareBits]
    omega
  | case3 x =>
    simp only [sextets, spareBits]
    omega
  | case4 => rfl

/-- The six-bit numbers of bytes give the bytes back. -/
theorem joinSextets_sextets (b : Bytes) : joinSextets (sextets b) = b := by
  induction b using sextets.induct with
  | case1 x y z rest ih =>
    have hx := x.toNat_lt
    have hy := y.toNat_lt
    have hz := z.toNat_lt
    simp only [sextets, joinSextets, ih, List.cons.injEq, and_true, ← UInt8.toNat_inj,
      UInt8.toNat_ofNat']
    omega
  | case2 x y =>
    have hx := x.toNat_lt
    have hy := y.toNat_lt
    simp only [sextets, joinSextets, List.cons.injEq, and_true, ← UInt8.toNat_inj,
      UInt8.toNat_ofNat']
    omega
  | case3 x =>
    have hx := x.toNat_lt
    simp only [sextets, joinSextets, List.cons.injEq, and_true, ← UInt8.toNat_inj,
      UInt8.toNat_ofNat']
    omega
  | case4 => rfl

/-- Six-bit numbers without bits left over are those of their bytes. -/
theorem sextets_joinSextets {vs : List Nat} (hlt : ∀ v ∈ vs, v < 64) (hspare : spareBits vs = 0)
    (hlength : vs.length % 4 ≠ 1) : sextets (joinSextets vs) = vs := by
  induction vs using joinSextets.induct with
  | case1 a b c d rest ih =>
    simp only [List.forall_mem_cons] at hlt
    obtain ⟨ha, hb, hc, hd, hrest⟩ := hlt
    have hih := ih hrest hspare (by
      simp only [List.length_cons] at hlength
      omega)
    simp only [joinSextets, sextets, hih, List.cons.injEq, and_true, UInt8.toNat_ofNat']
    omega
  | case2 a b c =>
    simp only [List.forall_mem_cons] at hlt
    simp only [spareBits] at hspare
    simp only [joinSextets, sextets, List.cons.injEq, and_true, UInt8.toNat_ofNat']
    omega
  | case3 a b =>
    simp only [List.forall_mem_cons] at hlt
    simp only [spareBits] at hspare
    simp only [joinSextets, sextets, List.cons.injEq, and_true, UInt8.toNat_ofNat']
    omega
  | case4 a => exact absurd rfl hlength
  | case5 => rfl

/-! ## Reading bytes -/

/-- What a text is made of that reads as bytes: symbols without bits left over, and the padding
that fills the last group of four. -/
structure IsLayout (text : Bytes) (vs : List Nat) (pads : Nat) : Prop where
  text_eq : text = vs.map symbol ++ List.replicate pads padByte
  lt : ∀ v ∈ vs, v < 64
  whole : (vs.length + pads) % 4 = 0
  few : pads < 3
  spare : spareBits vs = 0

theorem isLayout_encodeBytes (b : Bytes) : IsLayout (encodeBytes b) (sextets b) (padCount b) := by
  have hlength := length_sextets b
  refine ⟨encodeBytes_eq b, lt_of_mem_sextets, by omega, ?_, spareBits_sextets b⟩
  unfold padCount
  omega

/-- The layout of a text is that of its bytes. -/
theorem IsLayout.eq_encodeBytes {text : Bytes} {vs : List Nat} {pads : Nat}
    (h : IsLayout text vs pads) : text = encodeBytes (joinSextets vs) := by
  have hwhole := h.whole
  have hfew := h.few
  have hsextets := sextets_joinSextets h.lt h.spare (by omega)
  have hlength := length_sextets (joinSextets vs)
  have hpads : padCount (joinSextets vs) = pads := by
    have hcount : padCount (joinSextets vs) < 3 := (isLayout_encodeBytes _).few
    rw [hsextets] at hlength
    omega
  rw [encodeBytes_eq, hsextets, hpads, h.text_eq]

/-- A text that begins with symbols and goes on with padding is cut between them. -/
theorem takeWhile_isSymbol {vs : List Nat} (hlt : ∀ v ∈ vs, v < 64) (pads : Nat) :
    (vs.map symbol ++ List.replicate pads padByte).takeWhile isSymbol = vs.map symbol ∧
      (vs.map symbol ++ List.replicate pads padByte).dropWhile isSymbol =
        List.replicate pads padByte := by
  have hsymbols : ∀ x ∈ vs.map symbol, isSymbol x = true := by
    intro x hx
    obtain ⟨v, hv, rfl⟩ := List.mem_map.1 hx
    exact isSymbol_symbol (hlt v hv)
  rw [List.takeWhile_append_of_pos hsymbols, List.dropWhile_append_of_pos hsymbols]
  cases pads with
  | zero => simp
  | succ pads => simp [List.replicate_succ, isSymbol_padByte]

theorem filterMap_value?_symbol {vs : List Nat} (hlt : ∀ v ∈ vs, v < 64) :
    (vs.map symbol).filterMap value? = vs := by
  rw [List.filterMap_map]
  induction vs with
  | nil => rfl
  | cons v vs ih =>
    rw [List.forall_mem_cons] at hlt
    have hv : (value? ∘ symbol) v = some v := value?_symbol hlt.1
    rw [List.filterMap_cons_some hv, ih hlt.2]

/-- Symbols are those of their numbers. -/
theorem map_symbol_filterMap {symbols : Bytes} (h : ∀ x ∈ symbols, isSymbol x = true) :
    (symbols.filterMap value?).map symbol = symbols ∧
      ∀ v ∈ symbols.filterMap value?, v < 64 := by
  induction symbols with
  | nil => simp
  | cons x symbols ih =>
    rw [List.forall_mem_cons] at h
    obtain ⟨v, hv⟩ := Option.isSome_iff_exists.1 h.1
    obtain ⟨hlt, hx⟩ := symbol_of_value? hv
    rw [List.filterMap_cons_some hv, List.map_cons, hx, (ih h.2).1, List.forall_mem_cons]
    exact ⟨rfl, hlt, (ih h.2).2⟩

/-- The padding that fills the last group is in order. -/
theorem IsLayout.isPadding {text : Bytes} {vs : List Nat} {pads : Nat} (h : IsLayout text vs pads)
    (hpads : pads ≠ 0) :
    Base64.isPadding vs.length (List.replicate pads padByte) = true := by
  have hwhole := h.whole
  have hfew := h.few
  have htwo : 2 ≤ vs.length % 4 := by omega
  have hfit : pads ≤ 4 - vs.length % 4 := by omega
  simp [Base64.isPadding, htwo, hfit]

/-- A text with such a layout is read. -/
theorem IsLayout.decodeBytes_eq_ok {text : Bytes} {vs : List Nat} {pads : Nat}
    (h : IsLayout text vs pads) : decodeBytes text = .ok (joinSextets vs) := by
  obtain ⟨htake, hdrop⟩ := takeWhile_isSymbol h.lt pads
  have hlength : text.length = vs.length + pads := by simp [h.text_eq]
  have hwhole : text.length % 4 = 0 := by rw [hlength, h.whole]
  rw [← h.text_eq] at htake hdrop
  have hpadding : ¬ ((!(List.replicate pads padByte).isEmpty &&
      !Base64.isPadding (vs.map symbol).length (List.replicate pads padByte)) = true) := by
    rw [List.length_map]
    by_cases hpads : pads = 0
    · simp [hpads]
    · simp [h.isPadding hpads]
  unfold decodeBytes
  dsimp only
  rw [if_neg (by omega), htake, hdrop, if_neg hpadding, if_neg (not_not.2 hwhole),
    filterMap_value?_symbol h.lt, if_neg (not_not.2 h.spare)]

/-- What follows the symbols is padding, if it is empty or in order. -/
theorem padding_of_isPadding {offset : Nat} {rest : Bytes}
    (h : ¬ ((!rest.isEmpty && !isPadding offset rest) = true)) :
    (∀ x ∈ rest, x = padByte) ∧ rest.length < 3 := by
  by_cases hempty : rest = []
  · simp [hempty]
  · simp only [Bool.and_eq_true, Bool.not_eq_true', List.isEmpty_eq_false_iff, not_and,
      Bool.not_eq_false, isPadding, decide_eq_true_eq, List.all_eq_true, beq_iff_eq] at h
    obtain ⟨⟨htwo, hall⟩, hfew⟩ := h hempty
    exact ⟨hall, by omega⟩

/-- **What a text has to be made of to be read.** -/
theorem exists_isLayout {text b : Bytes} (h : decodeBytes text = .ok b) :
    ∃ vs pads, IsLayout text vs pads ∧ joinSextets vs = b := by
  unfold decodeBytes at h
  dsimp only at h
  split_ifs at h with hone hpadding hgroups hspare
  · split at h
    · split_ifs at h
    · cases h
  · have hsymbols : ∀ x ∈ text.takeWhile isSymbol, isSymbol x = true :=
      fun x hx => List.all_eq_true.1 List.all_takeWhile x hx
    have hparts : text.takeWhile isSymbol ++ text.dropWhile isSymbol = text :=
      List.takeWhile_append_dropWhile
    obtain ⟨hmap, hlt⟩ := map_symbol_filterMap hsymbols
    obtain ⟨hall, hfew⟩ := padding_of_isPadding hpadding
    refine ⟨_, (text.dropWhile isSymbol).length, ⟨?_, hlt, ?_, hfew, not_not.1 hspare⟩,
      Except.ok.inj h⟩
    · rw [hmap, ← List.eq_replicate_of_mem hall, hparts]
    · have hcount := congrArg List.length hmap
      have hlengths := congrArg List.length hparts
      rw [List.length_map] at hcount
      rw [List.length_append] at hlengths
      omega

/-- **A byte string has one base64 text, in bytes.** -/
theorem decodeBytes_eq_ok_iff {text b : Bytes} :
    decodeBytes text = .ok b ↔ text = encodeBytes b := by
  constructor
  · intro h
    obtain ⟨vs, pads, hlayout, rfl⟩ := exists_isLayout h
    exact hlayout.eq_encodeBytes
  · rintro rfl
    have h := (isLayout_encodeBytes b).decodeBytes_eq_ok
    rwa [joinSextets_sextets] at h

/-! ## Reading texts -/

theorem symbol_lt {n : Nat} (h : n < 64) : (symbol n).toNat < 128 := by
  revert n
  decide

theorem lt_of_mem_encodeBytes {b : Bytes} : ∀ x ∈ encodeBytes b, x.toNat < 128 := by
  intro x hx
  rw [encodeBytes_eq, List.mem_append] at hx
  obtain hx | hx := hx
  · obtain ⟨v, hv, rfl⟩ := List.mem_map.1 hx
    exact symbol_lt (lt_of_mem_sextets v hv)
  · rw [List.eq_of_mem_replicate hx]
    decide

/-- The bytes of the text are those that were written. -/
theorem ofText_encode (b : Bytes) : Bytes.ofText (encode b) = encodeBytes b := by
  have hbytes := lt_of_mem_encodeBytes (b := b)
  rw [Bytes.ofText_eq, encode, String.toList_ofList, List.flatMap_map]
  generalize encodeBytes b = bytes at hbytes
  induction bytes with
  | nil => rfl
  | cons x bytes ih =>
    rw [List.forall_mem_cons] at hbytes
    have hchar : (Char.ofNat x.toNat).toNat = x.toNat := by
      rw [Char.ofNat, dif_pos (Or.inl (by omega))]
      rfl
    have hcodes : utf8Codes x.toNat = [x.toNat] := if_pos (by omega)
    rw [List.flatMap_cons, hchar, hcodes, List.singleton_append, List.map_cons, ih hbytes.2,
      UInt8.ofNat_toNat]

/-- **A byte string has one base64 text.** -/
theorem decode_eq_ok_iff {text : String} {b : Bytes} : decode text = .ok b ↔ text = encode b := by
  rw [decode, decodeBytes_eq_ok_iff, ← ofText_encode]
  constructor
  · intro h
    have htext := congrArg Bytes.toText? h
    rw [Bytes.toText?_ofText, Bytes.toText?_ofText] at htext
    exact Option.some.inj htext
  · rintro rfl
    rfl

/-! ## Texts as numbers -/

/-- The six-bit numbers of a byte string are the digits of one number. -/
theorem ofDigits_sextets (b : Bytes) : Nat.ofDigits 64 (sextets b).reverse =
    4 ^ padCount b * Nat.ofDigits 256 (b.map UInt8.toNat).reverse := by
  induction b using sextets.induct with
  | case1 x y z rest ih =>
    have hx := x.toNat_lt
    have hy := y.toNat_lt
    have hz := z.toNat_lt
    have hcount : padCount (x :: y :: z :: rest) = padCount rest := by
      simp only [padCount, List.length_cons]
      omega
    have hpow : 64 ^ (sextets rest).length = 4 ^ padCount rest * 256 ^ rest.length := by
      have hlength := length_sextets rest
      rw [show 64 = 4 ^ 3 from rfl, show 256 = 4 ^ 4 from rfl, ← pow_mul, ← pow_mul,
        ← pow_add]
      congr 1
      omega
    simp only [sextets, List.map_cons, Nat.ofDigits_reverse_cons, List.length_cons,
      List.length_map, ih, hcount, pow_succ, hpow]
    generalize hn : (x.toNat * 256 + y.toNat) * 256 + z.toNat = n
    generalize 4 ^ padCount rest = p, 256 ^ rest.length = q
    have hdigits : n % 64 + 64 * (n / 64 % 64) + 4096 * (n / 4096 % 64) +
        262144 * (n / 262144) = n := by omega
    calc _ = p * Nat.ofDigits 256 (rest.map UInt8.toNat).reverse + p * q * (n % 64 +
            64 * (n / 64 % 64) + 4096 * (n / 4096 % 64) + 262144 * (n / 262144)) := by ring
      _ = _ := by
        rw [hdigits, ← hn]
        ring
  | case2 x y =>
    simp [sextets, padCount, Nat.ofDigits_cons]
    omega
  | case3 x =>
    simp [sextets, padCount, Nat.ofDigits_cons]
    omega
  | case4 => rfl

theorem ofNat_symbol {n : Nat} (h : n < 64) : Char.ofNat (symbol n).toNat = letter n := by
  revert n
  decide

/-- The text of a byte string keeps to the format. -/
theorem isSpelling_encode (b : Bytes) : IsSpelling (encode b) b (sextets b) (padCount b) := by
  refine ⟨?_, lt_of_mem_sextets, (isLayout_encodeBytes b).few, length_sextets b,
    ofDigits_sextets b⟩
  rw [encode, String.toList_ofList, encodeBytes_eq, List.map_append, List.map_map,
    List.map_replicate]
  congr 1
  exact List.map_congr_left fun v hv => ofNat_symbol (lt_of_mem_sextets v hv)

/-- The numbers and the padding of a text are determined by the bytes. -/
theorem IsSpelling.unique {text text' : String} {b : Bytes} {vs vs' : List Nat} {pads pads' : Nat}
    (h : IsSpelling text b vs pads) (h' : IsSpelling text' b vs' pads') : text = text' := by
  have hlength := h.length_eq
  have hlength' := h'.length_eq
  have hfew := h.few
  have hfew' := h'.few
  obtain rfl : pads = pads' := by omega
  obtain rfl : vs = vs' := by
    refine List.reverse_injective (Nat.ofDigits_inj_of_len_eq (b := 64) (by decide) ?_ ?_ ?_
      (h.digits_eq.trans h'.digits_eq.symm))
    · rw [List.length_reverse, List.length_reverse]
      omega
    · exact fun v hv => h.lt v (List.mem_reverse.1 hv)
    · exact fun v hv => h'.lt v (List.mem_reverse.1 hv)
  exact String.toList_inj.1 (h.toList_eq.trans h'.toList_eq.symm)

/-- **The text of a byte string is the only one that keeps to the format.** -/
theorem spells_iff {text : String} {b : Bytes} : Spells text b ↔ text = encode b := by
  constructor
  · rintro ⟨vs, pads, h⟩
    exact h.unique (isSpelling_encode b)
  · rintro rfl
    exact ⟨_, _, isSpelling_encode b⟩

end Daybook.Base64
