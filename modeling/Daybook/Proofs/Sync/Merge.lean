import Daybook.Proofs.Sync.Import
import Daybook.Proofs.Sync.Write

/-!
# Records that are merged with rows

A record is written with its own key, or with a fresh identifier if it has none. Where keys are
texts and nothing else is distinct, rows stand in each other's way by their keys alone: of the
records with one key the last has its row in the end, and a row whose key no record is written with
stays as it is (**`written_of_writeMany`**).

* `Schema.Mergeable`: the schemas that this is about;
* `writtenKey`: the key with which a record is written;
* `HoldsValue`, `Written`: what becomes of the rows of a table;
* `written_of_writeTables`: each table is written so.
-/

namespace Daybook

open Sql Store

/-! ## Schemas with keys that are texts -/

/-- The key of the schema is a text, and no other column is distinct. -/
structure Schema.Mergeable (s : Schema) : Prop where
  valid : s.fault? = none
  keyed : ∃ key, s.key? = some key ∧ key.type = .text
  noOtherKeys : ∀ c ∈ s.columns, c.unique = false

theorem Schema.Portable.mergeable {s : Schema} (hs : s.Portable) : s.Mergeable := by
  obtain ⟨key, hkey, htype, -⟩ := hs.keyed
  exact ⟨hs.valid, ⟨key, hkey, htype⟩, hs.noOtherKeys⟩

namespace Schema.Mergeable

variable {s : Schema} {key : Column} {t : Table}

theorem type_key (hs : s.Mergeable) (hkey : s.key? = some key) : key.type = .text := by
  obtain ⟨key', hkey', htype⟩ := hs.keyed
  rwa [← Option.some.inj (hkey.symm.trans hkey')] at htype

/-- No column is the number of the row. -/
theorem isNumberColumn_eq_false (hs : s.Mergeable) {c : Column} (hc : c ∈ s.columns) :
    Table.isNumberColumn c.toDef = false := by
  rw [← Bool.not_eq_true, isNumberColumn_toDef_iff]
  rintro ⟨hprimary, hinteger⟩
  have htype := hs.type_key ((key?_eq_some_iff hs.valid hc).2 hprimary)
  exact nomatch htype.symm.trans hinteger

/-- A distinct column is the key. -/
theorem key?_of_isDistinct (hs : s.Mergeable) (hserves : t.Serves s) {c : Column}
    (hc : c ∈ s.columns) (h : t.IsDistinct c.name) : s.key? = some c := by
  have hprimary : c.primaryKey := (hserves.distinct c hc h).resolve_right
    (by rw [hs.noOtherKeys c hc]; exact Bool.false_ne_true)
  exact (key?_eq_some_iff hs.valid hc).2 hprimary

/-- Rows with the same text as key are the same row. -/
theorem eq_of_key (hs : s.Mergeable) (hserves : t.Serves s) (hkey : s.key? = some key) {id : String}
    {a b : Row} (ha : a ∈ t.rows) (hb : b ∈ t.rows) (hida : t.cellOf a.cells key.name = .text id)
    (hidb : t.cellOf b.cells key.name = .text id) : a = b := by
  obtain ⟨hmem, hprimary⟩ := mem_key? hkey
  have hnumber := hs.isNumberColumn_eq_false hmem
  refine hserves.sound.unique a ha b hb ?_
  rw [hserves.made.collides_iff_meets]
  refine ⟨key, hmem, hnumber, hserves.made.keyed key hmem hprimary hnumber, ?_⟩
  rw [hida, hidb, Cell.meets_text_iff]

end Schema.Mergeable

namespace Sync

variable {s : Schema} {record : Record} {key : Column}

/-! ## Keys of records -/

/-- The key with which a record is written: its own, or the fresh identifier of its place. -/
def writtenKey (m : Moment) (key : Column) (i : Nat) (record : Record) : Cell :=
  if isMissingKey (record.get? key.name) then .text (m.freshId i) else cellFor key record

/-- A column of texts stores a text for a value that is not null. -/
theorem exists_cellFor_of_text {c : Column} (htype : c.type = .text) {v : Json}
    (hv : record.get? c.name = some v) (hnull : v ≠ .null) : ∃ id, cellFor c record = .text id := by
  rw [cellFor, hv, Option.getD_some, affinity_of_text htype]
  cases v with
  | null => exact absurd rfl hnull
  | int n =>
    rw [Cell.ofJson, Cell.ofInt?]
    split_ifs <;> exact ⟨_, rfl⟩
  | _ => exact ⟨_, rfl⟩

theorem exists_writtenKey (htype : key.type = .text) (m : Moment) (i : Nat) (record : Record) :
    ∃ id, writtenKey m key i record = .text id := by
  rw [writtenKey]
  split_ifs with hmissing
  · exact ⟨_, rfl⟩
  · cases hv : record.get? key.name with
    | none => exact absurd (by rw [hv]; rfl) hmissing
    | some v =>
      refine exists_cellFor_of_text htype hv ?_
      rintro rfl
      exact hmissing (by rw [hv]; rfl)

/-! ## Values of records -/

/-- The row has in the column what the record says of it; where rows are replaced, a default stands
in for a null that must not be. -/
def HoldsValue (replace : Bool) (t : Table) (record : Record) (r : Row) (c : Column) : Prop :=
  ∀ v, record.get? c.name = some v → ∃ a, c.cell v = .ok a ∧
    t.cellOf r.cells c.name = Table.storedCell replace c.toDef a

section Batch

variable {batch : List Record} {values : List Cell} {replace : Bool}

/-- A column stores for a record what its value gives. -/
theorem storedFor_of_get? (hs : s.Mergeable) (hrecord : record ∈ batch)
    (hvalues : Values (presentColumns s batch) record values) {c : Column} (hc : c ∈ s.columns)
    {v : Json} (hv : record.get? c.name = some v) : ∃ a, c.cell v = .ok a ∧
      ∀ replace, storedFor replace batch record c = Table.storedCell replace c.toDef a := by
  have hcontains : record.contains c.name := by
    rw [KeyMap.contains, hv]
    rfl
  have hpresent : batch.any fun r => r.contains c.name :=
    List.any_eq_true.2 ⟨record, hrecord, hcontains⟩
  obtain ⟨a, -, ha⟩ := (Result.exists_of_forall₂ hvalues).2 c
    (mem_presentColumns_iff.2 ⟨hc, hpresent⟩)
  have hcell : c.cell v = .ok a := by rwa [valueOf, hv] at ha
  refine ⟨a, hcell, fun replace => ?_⟩
  rw [storedFor, hs.isNumberColumn_eq_false hc, if_neg Bool.false_ne_true, given, if_pos hpresent,
    ha]
  rfl

theorem storedCell_of_ne_null {c : ColumnDef} {v : Cell} (h : v.isNull = false) :
    Table.storedCell replace c v = c.affinity.store v := by
  rw [Table.storedCell, h, Bool.and_false, if_neg Bool.false_ne_true]

/-- The key column stores the key with which a record is written. -/
theorem storedFor_key (hs : s.Mergeable) (hkey : s.key? = some key) {m : Moment} {i : Nat}
    (hmem : withDefaults s m.now (m.freshId i) record ∈ batch)
    (hvalues : Values (presentColumns s batch) (withDefaults s m.now (m.freshId i) record) values) :
    storedFor replace batch (withDefaults s m.now (m.freshId i) record) key =
      writtenKey m key i record := by
  have htype := hs.type_key hkey
  have hkeys : ∃ v, (withDefaults s m.now (m.freshId i) record).get? key.name = some v ∧
      v ≠ .null ∧ writtenKey m key i record = key.toDef.affinity.store (Cell.ofJson v) := by
    cases hmissing : isMissingKey (record.get? key.name) with
    | true =>
      refine ⟨.str (m.freshId i), get?_withDefaults ?_ m.now, Json.noConfusion, ?_⟩
      · rw [withKey, hkey]
        dsimp only
        rw [if_pos hmissing, htype]
        exact KeyMap.get?_insert_self _ _ _
      · rw [writtenKey, if_pos hmissing, affinity_of_text htype]
        rfl
    | false =>
      cases hv : record.get? key.name with
      | none =>
        rw [hv] at hmissing
        cases hmissing
      | some v =>
        refine ⟨v, get?_withDefaults ?_ m.now, ?_, ?_⟩
        · rw [withKey_of_present hkey hmissing, hv]
        · rintro rfl
          rw [hv] at hmissing
          cases hmissing
        · rw [writtenKey, hmissing, if_neg Bool.false_ne_true, cellFor, hv, Option.getD_some]
  obtain ⟨v, hv, hnull, hwritten⟩ := hkeys
  obtain ⟨a, ha, hstored⟩ := storedFor_of_get? hs hmem hvalues
    (Schema.mem_key? hkey).1 hv
  have hcell : a = Cell.ofJson v := by
    have hblob : key.type ≠ .blob := by
      rw [htype]
      exact Sql.ColumnType.noConfusion
    exact Except.ok.inj (ha.symm.trans (cell_of_ne_blob hblob v))
  have hne : a.isNull = false := by
    rw [hcell, ← Bool.not_eq_true, Cell.isNull_ofJson_iff]
    exact hnull
  rw [hstored, storedCell_of_ne_null hne, hwritten, hcell]

/-- A row with another key than the one with which a record is written is spared by its values. -/
theorem spares_of_writtenKey_ne (hs : s.Mergeable) {t : Table} (hserves : t.Serves s)
    (hkey : s.key? = some key) {m : Moment} {i : Nat}
    (hmem : withDefaults s m.now (m.freshId i) record ∈ batch)
    (hvalues : Values (presentColumns s batch) (withDefaults s m.now (m.freshId i) record) values)
    {row : Row} (hrow : writtenKey m key i record ≠ t.cellOf row.cells key.name) :
    t.Spares replace (positions t (presentColumns s batch)) values row := by
  constructor
  · intro v hv
    obtain ⟨c, hc, hnumber, -⟩ := (numberBy_eq_some_iff hserves.made hvalues v).1 hv
    rw [hs.isNumberColumn_eq_false hc] at hnumber
    exact absurd hnumber Bool.false_ne_true
  · intro id
    rw [← Bool.not_eq_true, hserves.made.collides_iff_meets]
    rintro ⟨c, hc, hnumber, hdistinct, hmeets⟩
    obtain rfl := Option.some.inj ((hs.key?_of_isDistinct hserves hc hdistinct).symm.trans hkey)
    obtain ⟨x, hx⟩ := exists_writtenKey (hs.type_key hkey) m i record
    rw [cellOf_newRow hserves.made hvalues hc hnumber, storedFor_key hs hkey hmem hvalues, hx]
      at hmeets
    rw [hx] at hrow
    exact hrow ((Cell.meets_text_left_iff _ _).1 hmeets.symm).symm

end Batch

/-! ## Records of a batch -/

/-- A record keeps its values when the rest is filled in, unless the value is a missing key. -/
theorem get?_withDefaults_of_get? (hkey : s.key? = some key) {name : String} {v : Json}
    (hv : record.get? name = some v)
    (hname : name = key.name → isMissingKey (record.get? key.name) = false) (now fresh : String) :
    (withDefaults s now fresh record).get? name = some v := by
  refine get?_withDefaults ?_ now
  cases hmissing : isMissingKey (record.get? key.name) with
  | false => rw [withKey_of_present hkey hmissing, hv]
  | true =>
    have hne : name ≠ key.name := fun h => Bool.noConfusion (hmissing.symm.trans (hname h))
    rw [withKey, hkey]
    dsimp only
    rw [if_pos hmissing]
    split
    · rw [KeyMap.get?_erase_of_ne _ hne, hv]
    · rw [KeyMap.get?_insert_of_ne _ _ hne, hv]

/-- A record of a batch with what is filled in, and the records after it. -/
theorem exists_allWithDefaults_eq {m : Moment} {records : List Record} {i : Nat}
    (h : records[i]? = some record) : ∃ xs ys,
      allWithDefaults s m records = xs ++ withDefaults s m.now (m.freshId i) record :: ys ∧
        ∀ y ∈ ys, ∃ j r, i < j ∧ records[j]? = some r ∧
          y = withDefaults s m.now (m.freshId j) r := by
  have hget : ∀ j, (allWithDefaults s m records)[j]? =
      records[j]?.map fun r => withDefaults s m.now (m.freshId j) r := by
    intro j
    rw [allWithDefaults, List.getElem?_map, List.getElem?_zipIdx, Option.map_map, Nat.zero_add]
    rfl
  obtain ⟨hlt, hi⟩ := List.getElem?_eq_some_iff.1 ((hget i).trans (congrArg _ h))
  refine ⟨(allWithDefaults s m records).take i, (allWithDefaults s m records).drop (i + 1), ?_,
    fun y hy => ?_⟩
  · have hget : (allWithDefaults s m records)[i] = withDefaults s m.now (m.freshId i) record := hi
    rw [← hget, List.getElem_cons_drop, List.take_append_drop]
  · obtain ⟨k, hk⟩ := List.mem_iff_getElem?.1 hy
    rw [List.getElem?_drop, hget, Option.map_eq_some_iff] at hk
    obtain ⟨r, hr, rfl⟩ := hk
    exact ⟨i + 1 + k, r, by omega, hr, rfl⟩

/-! ## Rows of a batch -/

/-- What becomes of the rows of a table when records are written to it: the last record that is
written with a key is the content of its row, and a row stays as it is, or is not there, where no
record is written with its key. -/
structure Written (s : Schema) (key : Column) (m : Moment) (replace : Bool) (records : List Record)
    (t t' : Table) : Prop where
  alike : t.Alike t'
  serves : t'.Serves s
  last : ∀ {i record}, records[i]? = some record →
    (∀ j r, i < j → records[j]? = some r → writtenKey m key j r ≠ writtenKey m key i record) →
    ∃ row ∈ t'.rows, t'.cellOf row.cells key.name = writtenKey m key i record ∧
      ∀ c ∈ s.columns, (c.name = key.name → isMissingKey (record.get? key.name) = false) →
        HoldsValue replace t' record row c
  others : ∀ {row}, (∀ i r, records[i]? = some r →
    writtenKey m key i r ≠ t.cellOf row.cells key.name) → (row ∈ t'.rows ↔ row ∈ t.rows)

section Insertion

variable (hs : s.Mergeable) {t t' : Table} (hserves : t.Serves s) (hkey : s.key? = some key)
  {m : Moment} {replace : Bool} {records : List Record} {rows : List (List Cell)} {k : Int}
  (hrows : List.Forall₂ (Values (presentColumns s (allWithDefaults s m records)))
    (allWithDefaults s m records) rows)
  (hinsert : Table.insertRows? replace (positions t (presentColumns s (allWithDefaults s m records)))
    t 0 rows = .ok (t', k))

include hs hserves hkey hrows hinsert

/-- A record is the content of its row, where the records after it are written with other keys. -/
theorem exists_row_of_last {i : Nat} (hi : records[i]? = some record)
    (hlater : ∀ j r, i < j → records[j]? = some r →
      writtenKey m key j r ≠ writtenKey m key i record) :
    ∃ row ∈ t'.rows, t'.cellOf row.cells key.name = writtenKey m key i record ∧
      ∀ c ∈ s.columns, (c.name = key.name → isMissingKey (record.get? key.name) = false) →
        HoldsValue replace t' record row c := by
  have hmemkey := (Schema.mem_key? hkey).1
  have hcell := (hserves.sound.insertRows? hinsert).2.cellOf_eq
  obtain ⟨xs, ys, hbatch, hys⟩ := exists_allWithDefaults_eq (s := s) (m := m) hi
  generalize hall : allWithDefaults s m records = batch at hbatch hrows hinsert
  have hmem : withDefaults s m.now (m.freshId i) record ∈ batch := by
    rw [hbatch]
    exact List.mem_append_right _ List.mem_cons_self
  have hsplit : List.Forall₂ (Values (presentColumns s batch))
      (xs ++ withDefaults s m.now (m.freshId i) record :: ys) rows := hbatch ▸ hrows
  obtain ⟨us, values, vs, rfl, hvalues, hvs⟩ := Result.exists_of_forall₂_append_cons hsplit
  have hstored : ∀ c ∈ s.columns, ∀ id,
      t.cellOf (t.newRow replace (positions t (presentColumns s batch)) values id).cells c.name =
        storedFor replace batch (withDefaults s m.now (m.freshId i) record) c := fun c hc =>
    cellOf_newRow hserves.made hvalues hc (hs.isNumberColumn_eq_false hc)
  -- later records are written with other keys
  obtain ⟨id, -, hrow⟩ := hserves.sound.newRow_mem_insertRows? hinsert fun _ v hv id _ => by
    obtain ⟨y, hy, hyv⟩ := (Result.exists_of_forall₂ hvs).1 v hv
    obtain ⟨j, r, hij, hj, rfl⟩ := hys y hy
    have hmemy : withDefaults s m.now (m.freshId j) r ∈ batch := by
      rw [hbatch]
      exact List.mem_append_right _ (List.mem_cons_of_mem _ hy)
    refine spares_of_writtenKey_ne hs hserves hkey hmemy hyv ?_
    rw [hstored key hmemkey, storedFor_key hs hkey hmem hvalues]
    exact hlater j r hij hj
  refine ⟨_, hrow, ?_, fun c hc hpresent v hv => ?_⟩
  · rw [hcell, hstored key hmemkey, storedFor_key hs hkey hmem hvalues]
  · obtain ⟨a, ha, hs'⟩ := storedFor_of_get? hs hmem hvalues hc
      (get?_withDefaults_of_get? hkey hv hpresent m.now (m.freshId i))
    exact ⟨a, ha, by rw [hcell, hstored c hc, hs']⟩

/-- A row stays as it is, or is not there, where no record is written with its key. -/
theorem mem_iff_of_writtenKey_ne {row : Row} (hothers : ∀ i r, records[i]? = some r →
    writtenKey m key i r ≠ t.cellOf row.cells key.name) : row ∈ t'.rows ↔ row ∈ t.rows := by
  have hmemkey := (Schema.mem_key? hkey).1
  have hkeys : ∀ y ∈ allWithDefaults s m records, ∃ i r, records[i]? = some r ∧
      y = withDefaults s m.now (m.freshId i) r := by
    intro y hy
    obtain ⟨⟨r, i⟩, hp, rfl⟩ := mem_allWithDefaults_iff.1 hy
    exact ⟨i, r, by simpa [List.mk_mem_zipIdx_iff_getElem?] using hp, rfl⟩
  constructor
  · intro hrow
    rcases hserves.sound.mem_of_mem_insertRows? hinsert hrow with hold | ⟨values, hv, id, -, rfl⟩
    · exact hold
    · exfalso
      obtain ⟨y, hy, hyv⟩ := (Result.exists_of_forall₂ hrows).1 values hv
      obtain ⟨i, r, hi, rfl⟩ := hkeys y hy
      refine hothers i r hi ?_
      rw [cellOf_newRow hserves.made hyv hmemkey (hs.isNumberColumn_eq_false hmemkey),
        storedFor_key hs hkey hy hyv]
  · intro hrow
    refine hserves.sound.mem_insertRows?_of_spares hinsert hrow fun _ values hv => ?_
    obtain ⟨y, hy, hyv⟩ := (Result.exists_of_forall₂ hrows).1 values hv
    obtain ⟨i, r, hi, rfl⟩ := hkeys y hy
    exact spares_of_writtenKey_ne hs hserves hkey hy hyv (hothers i r hi)

end Insertion

/-- **What is written to a table.** -/
theorem written_of_writeMany (hs : s.Mergeable) {t : Table} {st st' : Storage}
    (ht : st.table? s.table = some t) (hserves : t.Serves s) (hkey : s.key? = some key)
    {m : Moment} {replace : Bool} {records : List Record} {n : Nat}
    (hrun : (writeMany s m replace records).run Storage.engine st = (.ok n, st')) :
    ∃ t', st'.table? s.table = some t' ∧ Written s key m replace records t t' := by
  obtain ⟨rows, t', k, hrows, hinsert, ht', -⟩ := writeMany_eq_ok ht hrun
  obtain ⟨hsound, halike⟩ := hserves.sound.insertRows? hinsert
  exact ⟨t', ht', {
    alike := halike
    serves := hserves.change halike hsound
    last := exists_row_of_last hs hserves hkey hrows hinsert
    others := mem_iff_of_writtenKey_ne hs hserves hkey hrows hinsert }⟩

/-! ## Tables of a document -/

theorem Written.nil {t : Table} (hserves : t.Serves s) (key : Column) (m : Moment)
    (replace : Bool) : Written s key m replace [] t t := by
  refine ⟨Table.Alike.refl t, hserves, ?_, fun _ => Iff.rfl⟩
  intro i record hi
  exact nomatch hi

/-- **What is written to the tables of schemas**, with some of the first identifiers. -/
theorem written_of_writeTables {schemas : List Schema} (hschemas : ∀ s ∈ schemas, s.Mergeable)
    (htables : (schemas.map fun s => upper s.table).Nodup) {st st' : Storage}
    (hserved : ∀ s ∈ schemas, IsServed st s) {m : Moment} {replace : Bool} {d : Document}
    {written w : KeyMap Nat}
    (hrun : (writeTables m replace schemas d written).run Storage.engine st = (.ok w, st'))
    {t : Table} (hs : s ∈ schemas) (ht : st.table? s.table = some t) (hkey : s.key? = some key) :
    ∃ t' k, st'.table? s.table = some t' ∧ k + (recordsFor d s).length ≤ countFor d schemas ∧
      Written s key (m.skip k) (!replace) (recordsFor d s) t t' := by
  have hserves : t.Serves s := by
    obtain ⟨u, hu, hserves⟩ := hserved s hs
    rwa [Option.some.inj (ht.symm.trans hu)]
  have hone := (run_writeTables_eq_ok htables hserved hrun).1 s hs
  rw [WrittenOnce] at hone
  split_ifs at hone with hempty
  · refine ⟨t, 0, hone.trans ht, ?_, ?_⟩
    · rw [hempty]
      exact Nat.zero_le _
    · rw [hempty]
      exact Written.nil hserves key _ _
  · obtain ⟨k, hk, n, st₁, st₂, hbefore, hwrite, hafter⟩ := hone
    obtain ⟨t', ht', hwritten⟩ :=
      written_of_writeMany (hschemas s hs) (hbefore.trans ht) hserves hkey hwrite
    exact ⟨t', k, hafter.trans ht', hk, hwritten⟩

end Sync
end Daybook
