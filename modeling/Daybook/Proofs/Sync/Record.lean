import Daybook.Proofs.Sync.Export
import Daybook.Proofs.Sync.Write

/-!
# Records that an import takes

The columns take a record whose dates were brought to one layout just if they take the record as it
was (**`passes_iff_of_normalizeDates`**). The record of a row has a value for every column, and that
value gives the cell back unless the cell is an infinite number, which JSON does not have. So the
columns take it just if no required value is null (`IsExported.passes_iff`): whatever else they ask
of their cells was asked when the row was stored.

* `IsExported`: the record is one that an export gives;
* `IsRestorable`: what an import asks of it;
* `isKeyed_of_normalizeDates`: keys are kept.
-/

namespace Daybook

open Sql

/-! ## Cells as JSON values -/

/-- The value of a plain cell gives it back, unless it is null. -/
theorem Sql.Cell.Plain.ofJson_toJson {a : Cell} (h : a.Plain) :
    Cell.ofJson a.toJson = a ∨ a.toJson = .null := by
  cases a with
  | null => exact .inr rfl
  | int n =>
    rw [Cell.toJson, Cell.ofJson, Cell.ofInt?_toInt]
    exact .inl rfl
  | real x =>
    rw [Cell.toJson]
    split_ifs
    · exact .inl rfl
    · exact .inr rfl
  | text s => exact .inl rfl
  | blob b => exact absurd rfl h

namespace Sync

open Store

variable {s : Schema} {record : Record}

/-! ## Exported records -/

/-- The record has for every column the value of a cell that may stand there. -/
def IsExported (s : Schema) (record : Record) : Prop :=
  ∀ c ∈ s.columns, ∃ a : Cell, record.get? c.name = some a.toJson ∧ a.Plain ∧
    c.toDef.affinity.store a = a ∧ Table.accepts c.toDef a ∧ (c.required → a.isNull = false)

theorem IsExported.isComplete (h : IsExported s record) : IsComplete s record := by
  intro c hc
  obtain ⟨a, ha, -⟩ := h c hc
  rw [KeyMap.contains, ha]
  rfl

/-- The key of an exported record is a text. -/
theorem IsExported.exists_key (h : IsExported s record) (hs : s.Portable) {key : Column}
    (hkey : s.key? = some key) : ∃ id, record.get? key.name = some (.str id) := by
  obtain ⟨htype, hrequired, -⟩ := hs.of_key hkey
  obtain ⟨a, ha, hplain, hstored, -, hnull⟩ := h key (Schema.mem_key? hkey).1
  rw [affinity_of_text htype] at hstored
  cases a with
  | null => exact absurd (hnull hrequired) (by decide)
  | int n => cases hstored
  | real x => cases hstored
  | text id => exact ⟨id, ha⟩
  | blob b => exact absurd rfl hplain

variable {t : Table}

/-- The cell of a row in a declared column. -/
theorem cellOf_mem_cells (hmade : t.MadeFor s) {r : Row}
    (hwidth : r.cells.length = t.columns.length) {c : Column} (hc : c ∈ s.columns) :
    t.cellOf r.cells c.name ∈ r.cells := by
  obtain ⟨i, hi, hdef⟩ := hmade.exists_position? hc
  have hlt : i < r.cells.length := by
    rw [hwidth]
    exact (List.getElem?_eq_some_iff.1 hdef).1
  rw [Table.cellOf_eq hi, List.getElem?_eq_getElem hlt]
  exact List.getElem_mem hlt

theorem isExported_record (hs : s.Portable) (hserves : t.Serves s) (hplain : t.Plain) {r : Row}
    (hr : r ∈ t.rows) : IsExported s (t.record r) := by
  intro c hc
  have hfits := hserves.sound.fits r hr
  have hholds := hserves.made.holds hc hfits
  exact ⟨_, hserves.made.get?_record hfits.width hc,
    hplain r hr _ (cellOf_mem_cells hserves.made hfits.width hc), hholds.stored,
    hholds.accepted (hs.isNumberColumn_eq_false hc), hholds.notNull⟩

/-- The record of a row that holds a record says what the columns store for it. -/
theorem HoldsRecord.get?_record (hserves : t.Serves s) {r : Row} (hr : r ∈ t.rows)
    (h : HoldsRecord s t record r) {c : Column} (hc : c ∈ s.columns) :
    (t.record r).get? c.name = some (cellFor c record).toJson := by
  rw [hserves.made.get?_record (hserves.sound.fits r hr).width hc, h c hc]

/-- A text in a column of texts is given back. -/
theorem HoldsRecord.get?_text (hserves : t.Serves s) {r : Row} (hr : r ∈ t.rows)
    (h : HoldsRecord s t record r) {c : Column} (hc : c ∈ s.columns) (htype : c.type = .text)
    {text : String} (htext : record.get? c.name = some (.str text)) :
    (t.record r).get? c.name = some (.str text) := by
  rw [h.get?_record hserves hr hc, cellFor_of_text htype htext]
  rfl

/-- The records of a table have different keys. -/
theorem apart_records (hs : s.Portable) (hserves : t.Serves s) (hplain : t.Plain) {key : Column}
    (hkey : s.key? = some key) :
    (t.rows.map t.record).Pairwise fun r r' => r.get? key.name ≠ r'.get? key.name := by
  obtain ⟨hmem, hprimary⟩ := Schema.mem_key? hkey
  have hnumber := hs.isNumberColumn_eq_false hmem
  rw [List.pairwise_map]
  refine hserves.sound.ascending.imp_of_mem fun {a b} ha hb hlt heq => ?_
  obtain ⟨x, hx⟩ := (isExported_record hs hserves hplain ha).exists_key hs hkey
  have hy := heq.symm.trans hx
  have hcell : ∀ r ∈ t.rows, (t.record r).get? key.name = some (.str x) →
      t.cellOf r.cells key.name = .text x := by
    intro r hr hget
    have hfits := hserves.sound.fits r hr
    have hplain' := hplain r hr _ (cellOf_mem_cells hserves.made hfits.width hmem)
    rw [hserves.made.get?_record hfits.width hmem, Option.some.injEq] at hget
    rcases hplain'.ofJson_toJson with hback | hnull
    · rw [← hback, hget]
      rfl
    · rw [hnull] at hget
      exact nomatch hget
  have hcollides : t.collides a.cells b.cells := by
    rw [hserves.made.collides_iff_meets]
    refine ⟨key, hmem, hnumber, hserves.made.keyed key hmem hprimary hnumber, ?_⟩
    rw [hcell a ha hx, hcell b hb hy, Cell.meets_text_iff]
  rw [hserves.sound.unique a ha b hb hcollides] at hlt
  exact lt_irrefl _ hlt

/-! ## Normalized records -/

/-- An import takes the record: its dates can be read, and no required value is null. -/
def IsRestorable (s : Schema) (record : Record) : Prop :=
  (∀ c ∈ s.dateColumns, IsDated record c) ∧
    ∀ c ∈ s.columns, c.required → record.get? c.name ≠ some .null

instance (s : Schema) (record : Record) : Decidable (IsRestorable s record) :=
  inferInstanceAs (Decidable (_ ∧ _))

section Normalized

variable {r : Record}

theorem isComplete_of_normalizeDates (hs : s.Portable) (h : IsComplete s record)
    (hr : normalizeDates s record = .ok r) : IsComplete s r := by
  intro c hc
  rcases get?_of_normalizeDates hs.nodup_names hr c.name with heq | ⟨-, v, hv, -⟩
  · rw [KeyMap.contains, heq]
    exact h c hc
  · rw [KeyMap.contains, hv]
    rfl

/-- What is neither a date nor the time at which the record was made is kept. -/
theorem get?_of_normalizeDates_of_not_date (hs : s.Portable) {c : Column} (hc : c ∈ s.columns)
    (hdate : c.isDate = false) (hname : c.name ≠ Schema.createdColumn)
    (hr : normalizeDates s record = .ok r) : r.get? c.name = record.get? c.name := by
  rcases get?_of_normalizeDates hs.nodup_names hr c.name with heq | ⟨hchange, -⟩
  · exact heq
  · exfalso
    rcases hchange with ⟨d, hd, hdname⟩ | hcreated
    · obtain ⟨hd, hdate'⟩ := List.mem_filter.1 hd
      rw [List.inj_on_of_nodup_map hs.nodup_names hd hc hdname, hdate] at hdate'
      exact nomatch hdate'
    · exact hname hcreated

/-- The key is kept. -/
theorem get?_key_of_normalizeDates (hs : s.Portable) {key : Column} (hkey : s.key? = some key)
    (hr : normalizeDates s record = .ok r) : r.get? key.name = record.get? key.name := by
  obtain ⟨-, -, -, hdate, hname⟩ := hs.of_key hkey
  exact get?_of_normalizeDates_of_not_date hs (Schema.mem_key? hkey).1 hdate hname hr

/-- A required date that can be read is not null. -/
theorem isNull_cellFor_of_isDated {c : Column} (hdated : IsDated record c)
    (hrequired : c.required) : (cellFor c record).isNull = false := by
  have hblank := isBlank_of_isDated hdated (by rw [needsDate, hrequired, Bool.true_or])
  rw [cellFor, Affinity.isNull_store, ← Bool.not_eq_true, Cell.isNull_ofJson_iff]
  cases hvalue : record.get? c.name with
  | none =>
    rw [hvalue] at hblank
    exact absurd hblank (by decide)
  | some v =>
    rw [hvalue] at hblank
    exact ne_null_of_isBlank hblank

/-- **The columns take a normalized record just if they take the one of which it is made.** -/
theorem passes_iff_of_normalizeDates (hs : s.Portable) (hr : normalizeDates s record = .ok r) :
    Passes s r ↔ Passes s record := by
  have hdated := (normalizeDates_eq_ok_iff.1 hr).1
  refine forall₂_congr fun c hc => ?_
  rcases get?_of_normalizeDates hs.nodup_names hr c.name with heq | ⟨hchange, v, hv, hne⟩
  · rw [cellFor, heq, ← cellFor]
  · -- dates are not restricted further, and not null before or after
    have hdate : c ∈ s.dateColumns ∨ c.name = Schema.createdColumn := by
      refine hchange.imp_left ?_
      rintro ⟨d, hd, hname⟩
      rwa [← List.inj_on_of_nodup_map hs.nodup_names (List.mem_filter.1 hd).1 hc hname]
    have haccepts : ∀ cell, Table.accepts c.toDef cell := by
      intro cell
      rw [Table.accepts, hs.freeDates c hc (hdate.imp_left fun h => (List.mem_filter.1 h).2)]
      rfl
    refine iff_of_true ⟨fun _ => ?_, haccepts _⟩ ⟨fun hrequired => ?_, haccepts _⟩
    · rw [cellFor, hv, Option.getD_some, Affinity.isNull_store, ← Bool.not_eq_true,
        Cell.isNull_ofJson_iff]
      exact hne
    · rcases hdate with hdate | hcreated
      · exact isNull_cellFor_of_isDated (hdated c hdate) hrequired
      · rw [hs.freeCreated c hc hcreated] at hrequired
        exact absurd hrequired Bool.false_ne_true

/-- The columns take an exported record just if no required value is null. -/
theorem IsExported.passes_iff (hexported : IsExported s record) :
    Passes s record ↔ ∀ c ∈ s.columns, c.required → record.get? c.name ≠ some .null := by
  refine forall₂_congr fun c hc => ?_
  obtain ⟨a, ha, hplain, hstored, haccepts, -⟩ := hexported c hc
  have haccept : Table.accepts c.toDef (cellFor c record) := by
    rw [cellFor, ha, Option.getD_some]
    rcases hplain.ofJson_toJson with hback | hnull
    · rwa [hback, hstored]
    · have hnull' : (c.toDef.affinity.store (Cell.ofJson a.toJson)).isNull := by
        rw [Affinity.isNull_store, hnull]
        rfl
      rw [Table.accepts, hnull', Bool.or_true, Bool.true_or]
  rw [and_iff_left haccept, cellFor, ha, Option.getD_some, Affinity.isNull_store,
    ← Bool.not_eq_true, Cell.isNull_ofJson_iff, ne_eq, Option.some.injEq]

end Normalized

/-- Normalized records have the keys of those of which they are made. -/
theorem isKeyed_of_normalizeDates (hs : s.Portable) {key : Column} (hkey : s.key? = some key)
    {m : Moment} {records rs : List Record} (hkeyed : IsKeyed key m records)
    (hrs : records.mapM (normalizeDates s) = .ok rs) : IsKeyed key m rs := by
  have hget : ∀ record r, normalizeDates s record = .ok r →
      r.get? key.name = record.get? key.name := fun record r hr =>
    get?_key_of_normalizeDates hs hkey hr
  have hall := Result.mapM_eq_ok_iff.1 hrs
  have hsource := (Result.exists_of_forall₂ hall).1
  refine ⟨fun r hr => ?_, ?_, ?_⟩
  · obtain ⟨record, hrecord, hnormal⟩ := hsource r hr
    rw [hget record r hnormal]
    exact hkeyed.text record hrecord
  · refine Result.pairwise_of_forall₂ hall hkeyed.apart fun x x' y y' hxy hxy' hne => ?_
    rwa [hget x y hxy, hget x' y' hxy']
  · rintro ⟨r, hr, hempty⟩ r' hr'
    obtain ⟨record, hrecord, hnormal⟩ := hsource r hr
    obtain ⟨record', hrecord', hnormal'⟩ := hsource r' hr'
    rw [hget record r hnormal] at hempty
    rw [hget record' r' hnormal']
    exact hkeyed.fresh ⟨record, hrecord, hempty⟩ record' hrecord'

end Sync
end Daybook
