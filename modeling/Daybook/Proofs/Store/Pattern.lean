import Daybook.Proofs.Sql.Like
import Daybook.Proofs.Store.InsertOne
import Daybook.Proofs.Store.Search

/-!
# What a pattern finds

The signs in front of a pattern and behind it tie its words to the ends of a text. A pattern that is
tied at both ends is compared as it is, every other one as a pattern of the database, with `%` at
each end that is not tied. So a search finds the texts that are the words, or that begin with them,
end with them or contain them in letters of either case; but a pattern of the database sees a text
only up to its first NUL (**`find_pattern`**), so that not every text is found by its ending
(**`not_forall_find_pattern`**).

* `Pattern`, `Pattern.ofText`: a pattern taken apart;
* `Pattern.Asks`, `Pattern.seen`: what a pattern asks of a text, and how much of it is looked at;
* `Pattern.patternText_eq`: what a pattern is compared as;
* `Pattern.holds_patternCondition_iff`: the rows for which its condition holds;
* `FindsTexts`: what is found among the texts of a column.
-/

namespace Daybook

open Sql

/-- A pattern taken apart: whether it is tied to the start and to the end of a text, and its words
without these signs. -/
structure Pattern where
  start : Bool
  words : List Char
  stop : Bool

namespace Pattern

/-- Takes a text apart: one `^` in front of it and one `$` behind the rest. -/
def ofText (text : String) : Pattern :=
  let start := decide (text.toList.head? = some '^')
  let rest := if start then text.toList.tail else text.toList
  let stop := decide (rest.getLast? = some '$')
  ⟨start, if stop then rest.dropLast else rest, stop⟩

/-- The pattern is tied at both ends. -/
def isExact (p : Pattern) : Bool := p.start && p.stop

/-- What the pattern asks of a text. Letters have to agree in case only where it is tied at both
ends. -/
def Asks (p : Pattern) (text : List Char) : Prop :=
  match p.start, p.stop with
  | true, true => text = p.words
  | true, false => lower p.words <+: lower text
  | false, true => lower p.words <:+ lower text
  | false, false => lower p.words <:+: lower text

instance (p : Pattern) (text : List Char) : Decidable (p.Asks text) := by
  unfold Asks
  split <;> infer_instance

/-- How much of a text the pattern is compared with. -/
def seen (p : Pattern) (text : List Char) : List Char :=
  if p.isExact then text else beforeNul text

/-- The words of the pattern stand for themselves, and are short enough to be compared. -/
structure IsSimple (p : Pattern) : Prop where
  plain : IsPlain p.words
  noNul : '\x00' ∉ p.words
  short : (String.ofList p.words).utf8ByteSize < 49998

/-- What a pattern is compared as. -/
theorem patternText_eq (text : String) : patternText text.toList =
    match (ofText text).start, (ofText text).stop with
    | true, true => (.eq, (ofText text).words)
    | true, false => (.like, (ofText text).words ++ ['%'])
    | false, true => (.like, '%' :: (ofText text).words)
    | false, false => (.like, '%' :: (ofText text).words ++ ['%']) := by
  unfold patternText ofText dropLast?
  generalize text.toList = s
  split
  · rename_i rest
    by_cases hlast : rest.getLast? = some '$' <;> simp [hlast]
  · rename_i hstart
    have hhead : s.head? ≠ some '^' := by
      cases s with
      | nil => simp
      | cons c rest =>
        rintro h
        obtain rfl := Option.some.inj h
        exact hstart rest rfl
    by_cases hlast : s.getLast? = some '$' <;> simp [hhead, hlast]

end Pattern

/-! ## Comparisons with texts -/

namespace Sql

theorem beforeNul_of_not_mem {s : List Char} (h : '\x00' ∉ s) : beforeNul s = s := by
  refine List.takeWhile_eq_self_iff.2 fun c hc => ?_
  rw [decide_eq_true_iff]
  exact fun hnul => h (hnul ▸ hc)

/-- What is looked for in a column is a text just if it is given as that text. -/
theorem Affinity.eq_of_sought_text {a : Affinity} {words text : String}
    (h : a.sought (.text words) = .text text) : words = text := by
  unfold Affinity.sought at h
  split_ifs at h
  · rw [Cell.asNumber] at h
    cases hread : numberOfText? words with
    | none =>
      rw [hread] at h
      exact Cell.text.inj h
    | some c =>
      -- a number is no text
      rw [hread, Option.getD_some] at h
      have hrank := rank_numberOfText? hread
      rw [h] at hrank
      cases hrank
  · exact Cell.text.inj h
  · exact Cell.text.inj h

/-- A stored text is looked for as it is. -/
theorem Affinity.sought_text_of_store {a : Affinity} {text : String}
    (h : a.store (.text text) = .text text) : a.sought (.text text) = .text text := by
  unfold Affinity.sought
  split_ifs with hnumeric
  · exact Affinity.asNumber_eq_of_store hnumeric h
  · rfl
  · rfl

namespace Table

variable {t : Table} {field : String} {i : Nat} {d : ColumnDef} {r : Row}

/-- A column of a sound row stores its cell as it is. -/
theorem Sound.store_cellOf (ht : t.Sound) (hr : r ∈ t.rows) (hi : t.position? field = some i)
    (hdef : t.columns[i]? = some d) :
    d.affinity.store (t.cellOf r.cells field) = t.cellOf r.cells field := by
  have hfits := ht.fits r hr
  obtain ⟨hlt, -⟩ := List.getElem?_eq_some_iff.1 hdef
  rw [← hfits.width] at hlt
  have hcell : r.cells[i]? = some r.cells[i] := List.getElem?_eq_getElem hlt
  rw [cellOf_eq hi, hcell]
  exact (hfits.holds i d _ hdef hcell).stored

section Holds

variable (hi : t.position? field = some i) (hdef : t.columns[i]? = some d)

include hi hdef

theorem value_reference : ((t.resolve? field).getD (.constant .null)).value r =
    t.cellOf r.cells field := by
  rw [resolve?_of_position? hi hdef, Option.getD_some, cellOf_eq hi]
  exact List.getD_eq_getElem?_getD

/-- No comparison holds for null. -/
theorem holds_of_null (op : Comparison) (v : Operand) (hnull : t.cellOf r.cells field = .null) :
    Condition.holds t r (.compare field op v) = false := by
  simp [Condition.holds, Reference.compare, value_reference hi hdef, hnull, Cell.isNull]

/-- A text equals another just if it is that. -/
theorem holds_eq_iff (ht : t.Sound) (hr : r ∈ t.rows) {text words : String}
    (htext : t.cellOf r.cells field = .text text) :
    Condition.holds t r (.compare field .eq (.bound (.text words))) ↔ text = words := by
  have hstored := ht.store_cellOf hr hi hdef
  rw [htext] at hstored
  have hpoint : Condition.holds t r (.compare field .eq (.bound (.text words))) ↔
      (Cell.text text).point = (d.affinity.sought (.text words)).point := by
    rw [Condition.holds, Reference.compare_eq_iff, value_reference hi hdef, htext,
      resolve?_of_position? hi hdef, ← Affinity.same_align_iff hstored]
    exact (and_iff_right rfl).trans (and_iff_right rfl)
  rw [hpoint]
  constructor
  · intro h
    have hmeets := (Cell.meets_iff _ _).2 ⟨Cell.noConfusion, h⟩
    exact (Affinity.eq_of_sought_text ((Cell.meets_text_left_iff _ _).1 hmeets)).symm
  · rintro rfl
    rw [Affinity.sought_text_of_store hstored]

/-- A text is matched up to its first NUL. -/
theorem holds_like_iff {text pattern : String} (htext : t.cellOf r.cells field = .text text) :
    Condition.holds t r (.compare field .like (.bound (.text pattern))) ↔
      like (beforeNul pattern.toList) (beforeNul text.toList) := by
  simp [Condition.holds, Reference.compare, value_reference hi hdef, htext, Cell.isNull,
    Operand.value, Comparison.test, Cell.likeText?]

end Holds

end Table
end Sql

/-! ## Rows under a pattern -/

namespace Pattern

variable {text field : String}

/-- A pattern is compared as its words, with at most one sign before them and one behind them. -/
theorem exists_signs (text : String) : ∃ before after : List Char,
    (before = [] ∨ before = ['%']) ∧ (after = [] ∨ after = ['%']) ∧
      (patternText text.toList).2 = before ++ (ofText text).words ++ after := by
  rw [patternText_eq]
  match (ofText text).start, (ofText text).stop with
  | true, true => exact ⟨[], [], .inl rfl, .inl rfl, by simp⟩
  | true, false => exact ⟨[], ['%'], .inl rfl, .inr rfl, by simp⟩
  | false, true => exact ⟨['%'], [], .inr rfl, .inl rfl, by simp⟩
  | false, false => exact ⟨['%'], ['%'], .inr rfl, .inr rfl, by simp⟩

/-- A simple pattern is not cut short. -/
theorem beforeNul_patternText (hsimple : (ofText text).IsSimple) :
    beforeNul (patternText text.toList).2 = (patternText text.toList).2 := by
  obtain ⟨before, after, hbefore, hafter, heq⟩ := exists_signs text
  refine beforeNul_of_not_mem ?_
  rw [heq]
  obtain rfl | rfl := hbefore <;> obtain rfl | rfl := hafter <;> simp [hsimple.noNul]

/-- A simple pattern is short enough for every text. -/
theorem trips_patternCondition (hsimple : (ofText text).IsSimple) (t : Table) (r : Row) :
    Condition.trips t r (patternCondition field text) = false := by
  have hshort : (String.ofList (patternText text.toList).2).utf8ByteSize ≤ maxPatternBytes := by
    obtain ⟨before, after, hbefore, hafter, heq⟩ := exists_signs text
    have hsize {signs : List Char} (h : signs = [] ∨ signs = ['%']) :
        (String.ofList signs).utf8ByteSize ≤ 1 := by
      obtain rfl | rfl := h <;> decide
    have hwords := hsimple.short
    have hfirst := hsize hbefore
    have hlast := hsize hafter
    rw [heq, String.ofList_append, String.ofList_append, String.utf8ByteSize_append,
      String.utf8ByteSize_append, maxPatternBytes]
    omega
  simp only [patternCondition, Condition.trips, Bool.and_eq_false_imp]
  exact fun _ => decide_eq_false hshort.not_gt

section Rows

variable {t : Table} {i : Nat} {d : ColumnDef} {r : Row} (hi : t.position? field = some i)
  (hdef : t.columns[i]? = some d)

include hi hdef

/-- **The condition of a pattern** holds for the texts of which it asks what they are seen as. -/
theorem holds_patternCondition_iff (hsimple : (ofText text).IsSimple) (ht : t.Sound)
    (hr : r ∈ t.rows) {cell : String} (hcell : t.cellOf r.cells field = .text cell) :
    Condition.holds t r (patternCondition field text) ↔
      (ofText text).Asks ((ofText text).seen cell.toList) := by
  have hnul := beforeNul_patternText hsimple
  rw [patternText_eq] at hnul
  unfold patternCondition Asks seen isExact
  rw [patternText_eq]
  -- one case for each way of being tied, in the order of the four forms
  match hstart : (ofText text).start, hstop : (ofText text).stop with
  | true, true =>
    refine (Table.holds_eq_iff hi hdef ht hr hcell).trans ?_
    simp [String.ext_iff]
  | true, false =>
    rw [hstart, hstop] at hnul
    refine (Table.holds_like_iff hi hdef hcell).trans ?_
    rw [String.toList_ofList, hnul]
    exact like_append_any hsimple.plain _
  | false, true =>
    rw [hstart, hstop] at hnul
    refine (Table.holds_like_iff hi hdef hcell).trans ?_
    rw [String.toList_ofList, hnul]
    exact like_any_append hsimple.plain _
  | false, false =>
    rw [hstart, hstop] at hnul
    refine (Table.holds_like_iff hi hdef hcell).trans ?_
    rw [String.toList_ofList, hnul]
    exact like_any_append_any hsimple.plain _

end Rows

end Pattern

/-! ## What is found -/

/-- The filter of a pattern on a field. -/
def patternFilter (field text : String) : Filter := ⟨[(field, .pattern text)]⟩

/-- Among the rows of a table those are found whose texts in a column are of some kind, and none
without a value in the column. -/
structure FindsTexts (t : Table) (field : String) (kind : List Char → Prop) (found : List Row) :
    Prop where
  rows : ∀ r ∈ found, r ∈ t.rows
  once : found.Nodup
  texts : ∀ r ∈ t.rows, ∀ text : String, t.cellOf r.cells field = .text text →
    (r ∈ found ↔ kind text.toList)
  nulls : ∀ r ∈ t.rows, t.cellOf r.cells field = .null → r ∉ found

namespace Store

open Sql.Database

variable {s : Schema} {t : Table} {field text : String}

theorem compile_patternFilter (hfield : isIdentifier field) (htext : text ≠ "") :
    (patternFilter field text).compile = .ok [patternCondition field text] := by
  have hne : text.isEmpty = false := by simpa using htext
  simp [patternFilter, Filter.compile, Filter.compileClauses, hfield, Predicate.condition?, hne,
    Except.map]

/-- The statement of a pattern is in order where the name of its field is. -/
theorem clash?_patternCondition (hname : nameClash? s.table = none) (hfield : ReadsAsColumn field) :
    (Statement.delete s.table (.every [patternCondition field text])).clash? = none := by
  have hword := hfield.1
  rw [clash?_eq_none_iff] at hword
  simp [Statement.clash?, Statement.params, Target.conditions, patternCondition,
    Condition.paramsList, Condition.params, Operand.params, maxMarks, hname, whereClash?,
    Condition.clashes?, Condition.clash?, clash?_eq_none_iff, hword, Condition.chainDepth,
    Condition.depth, maxDepth]

/-- A scan for a pattern goes through all rows. -/
theorem scan?_patternCondition (hsimple : (Pattern.ofText text).IsSimple) (t : Table) :
    t.scan? [patternCondition field text] none =
      .ok (t.rows.filter fun r => Condition.holds t r (patternCondition field text)) := by
  refine Table.scanRows?_none_iff.2 ⟨fun r _ => ?_, ?_⟩
  · simp [Condition.allTrip, Pattern.trips_patternCondition hsimple]
  · simp [Condition.allHold]

/-- The rows for which the condition of a pattern holds are what it asks for. -/
theorem findsTexts_of_perm {i : Nat} {d : ColumnDef} (hi : t.position? field = some i)
    (hdef : t.columns[i]? = some d) (hsimple : (Pattern.ofText text).IsSimple) (ht : t.Sound)
    {found : List Row} (hperm : found.Perm
      (t.rows.filter fun r => Condition.holds t r (patternCondition field text))) :
    FindsTexts t field (fun cell => (Pattern.ofText text).Asks ((Pattern.ofText text).seen cell))
      found where
  rows r hr := List.mem_of_mem_filter (hperm.mem_iff.1 hr)
  once := hperm.nodup_iff.2 (ht.nodup_rows.filter _)
  texts r hr cell hcell := by
    rw [hperm.mem_iff, List.mem_filter, and_iff_right hr]
    exact Pattern.holds_patternCondition_iff hi hdef hsimple ht hr hcell
  nulls r hr hnull hfound := by
    rw [hperm.mem_iff, List.mem_filter, patternCondition, Table.holds_of_null hi hdef _ _ hnull]
      at hfound
    exact absurd hfound.2 Bool.false_ne_true

/-- A note whose colour goes on behind a NUL. -/
def brokenNotes : Table :=
  { mixedNotes with rows := [⟨1, [.text "a", .text "x\x00b"]⟩] }

theorem sound_brokenNotes : brokenNotes.Sound := by
  have hrows : Table.insertRows? false [some 0, some 1] ((noteWith "colour").made []) 0
      [[.text "a", .text "x\x00b"]] = .ok (brokenNotes, 1) := rfl
  exact ((Table.sound_of_rows_eq_nil rfl).insertRows? hrows).1

end Store
end Daybook
