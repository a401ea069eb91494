import Daybook.Proofs.Sync.Record
import Daybook.Proofs.Sync.Refusal

/-!
# Documents that can be restored

An import that replaces clears the tables and writes the records of each table at once. So complete
records with different keys are taken over just if their dates can be read and the columns take all
of them (**`run_importAll_isOk_iff_of_isFull`**), and the document of an export just if every record
of it is restorable (**`run_importAll_isOk_iff`**), whatever the database held.

* `run_writeTables_isOk_iff`: all tables are written if all records pass;
* `IsFull`, `DatedAll`, `PassesAll`: what is asked of all records for a schema;
* `IsBackup`: what the document of an export holds for a schema;
* **`rows_of_importAll`**: the rows that an import leaves.
-/

namespace Daybook.Sync

open Sql Store

variable {schemas : List Schema} {m : Moment} {st : Storage}

theorem IsKeyed.skip {key : Column} {records : List Record} (h : IsKeyed key m records) (n : Nat) :
    IsKeyed key (m.skip n) records :=
  ⟨h.text, h.apart, fun hempty record hrecord i => h.fresh hempty record hrecord (n + i)⟩

/-! ## Writing the tables of a document -/

/-- The table of the schema is there, and has no rows. -/
def IsCleared (st : Storage) (s : Schema) : Prop :=
  ∃ t, st.table? s.table = some t ∧ t.Serves s ∧ t.rows = []

/-- The document has complete records with different keys for the schema, if it has any. -/
def IsFull (m : Moment) (d : Document) (s : Schema) : Prop :=
  ∀ records, d.table? s.table = some records → (∀ record ∈ records, IsComplete s record) ∧
    ∃ key, s.key? = some key ∧ IsKeyed key m records

/-- The columns take all records that the document has for the schema. -/
def PassesAll (d : Document) (s : Schema) : Prop :=
  ∀ records, d.table? s.table = some records → ∀ record ∈ records, Passes s record

/-- A cleared table takes the records of a document just if the columns take every record. -/
theorem run_writeMany_isOk_iff_passesAll {s : Schema} (hs : s.Portable) (hcleared : IsCleared st s)
    {d : Document} (hfull : IsFull m d s) (hne : recordsFor d s ≠ []) (k : Nat) :
    (∃ n st', (writeMany s (m.skip k) false (recordsFor d s)).run Storage.engine st = (.ok n, st')) ↔
      PassesAll d s := by
  cases hrecords : d.table? s.table with
  | none =>
    rw [recordsFor, hrecords] at hne
    exact absurd rfl hne
  | some records =>
    obtain ⟨hcomplete, key, hkey, hkeyed⟩ := hfull records hrecords
    obtain ⟨t, ht, hserves, hrows⟩ := hcleared
    obtain ⟨c, hc, ht⟩ := Storage.table?_eq_some ht
    rw [PassesAll, ← forall_recordsFor_iff]
    rw [recordsFor, hrecords, Option.getD_some] at hne ⊢
    exact run_writeMany_isOk_iff hs hc ht hserves hrows hne hcomplete hkey (hkeyed.skip k)

/-- **Cleared tables take a document just if the columns take every record.** -/
theorem run_writeTables_isOk_iff (hschemas : ∀ s ∈ schemas, s.Portable)
    (htables : (schemas.map fun s => upper s.table).Nodup)
    (hcleared : ∀ s ∈ schemas, IsCleared st s) {d : Document}
    (hfull : ∀ s ∈ schemas, IsFull m d s) (written : KeyMap Nat) :
    (∃ w st', (writeTables m true schemas d written).run Storage.engine st = (.ok w, st')) ↔
      ∀ s ∈ schemas, PassesAll d s := by
  have hwrite : ∀ s ∈ schemas, ∀ {st₁}, st₁.table? s.table = st.table? s.table →
      recordsFor d s ≠ [] → ∀ k, ((∃ n st', (writeMany s (m.skip k) false (recordsFor d s)).run
        Storage.engine st₁ = (.ok n, st')) ↔ PassesAll d s) := by
    intro s hs st₁ htable hne k
    refine run_writeMany_isOk_iff_passesAll (hschemas s hs) ?_ (hfull s hs) hne k
    rw [IsCleared, htable]
    exact hcleared s hs
  rcases hrun : (writeTables m true schemas d written).run Storage.engine st with ⟨result, st'⟩
  obtain ⟨before, after, rfl, huntil⟩ := run_writeTables htables (fun s hs => by
    obtain ⟨t, ht, hserves, -⟩ := hcleared s hs
    exact ⟨t, ht, hserves.sound⟩) hrun
  have hends := huntil.ends
  cases result with
  | ok w =>
    -- every table was written, or there was nothing to write
    obtain rfl : after = [] := hends
    refine iff_of_true ⟨w, st', rfl⟩ fun s hs => ?_
    have hwritten := huntil.written s (by rwa [List.append_nil] at hs)
    rw [WrittenOnce] at hwritten
    split_ifs at hwritten with hempty
    · rw [PassesAll, ← forall_recordsFor_iff, hempty]
      exact List.forall_mem_nil _
    · obtain ⟨k, -, n, st₁, st₂, htable, hone, -⟩ := hwritten
      exact (hwrite s hs htable hempty k).1 ⟨n, st₂, hone⟩
  | error e =>
    -- the columns do not take the records that were refused
    obtain ⟨s, rest, rfl, hne, k, st₁, htable, herror⟩ := hends
    refine iff_of_false ?_ fun hpasses => ?_
    · rintro ⟨w, st₂, hok⟩
      cases hok
    · have hs : s ∈ before ++ s :: rest := List.mem_append_right _ List.mem_cons_self
      obtain ⟨n, st₂, hone⟩ := (hwrite s hs htable hne k).2 (hpasses s hs)
      rw [Bool.not_true, hone] at herror
      cases herror

/-! ## Importing complete records -/

/-- Tables that are there are cleared. -/
theorem exists_run_clearAll (hschemas : ∀ s ∈ schemas, s.Portable)
    (htables : (schemas.map fun s => upper s.table).Nodup)
    (hserved : ∀ s ∈ schemas, IsServed st s) :
    ∃ st₁, (clearAll schemas).run Storage.engine st = (.ok [], st₁) ∧
      ∀ s ∈ schemas, IsCleared st₁ s := by
  obtain ⟨st₁, hclear, hempty, -⟩ := run_clearAll (fun s hs => (hschemas s hs).hasNames)
    htables fun s hs => by
      obtain ⟨t, ht, -⟩ := hserved s hs
      rw [ht]
      rfl
  refine ⟨st₁, hclear, fun s hs => ?_⟩
  obtain ⟨t, ht, hserve⟩ := hserved s hs
  exact ⟨{ t with rows := [] }, hempty s hs t ht,
    hserve.change ⟨[], rfl⟩ (Table.sound_of_rows_eq_nil rfl), rfl⟩

/-- The dates of all records that the document has for the schema can be read. -/
def DatedAll (d : Document) (s : Schema) : Prop :=
  ∀ records, d.table? s.table = some records → ∀ record ∈ records, ∀ c ∈ s.dateColumns,
    IsDated record c

/-- A document can be normalized just if its dates can be read. -/
theorem normalizeTables_isOk_iff (hschemas : ∀ s ∈ schemas, s.Portable)
    (htables : (schemas.map fun s => upper s.table).Nodup) {d : Document} :
    (∃ d', normalizeTables schemas d = .ok d') ↔ ∀ s ∈ schemas, DatedAll d s := by
  rw [normalizeTables_isOk_iff_not (fun s hs => (hschemas s hs).valid) (nodup_tables htables),
    HasBadDate]
  simp only [not_exists, not_and]
  refine forall₂_congr fun s hs => ?_
  rw [DatedAll, ← forall_recordsFor_iff]
  refine forall₂_congr fun record _ => ?_
  have hnames := (hschemas s hs).nodup_names
  rw [← normalizeDates_isOk_iff_not hnames, normalizeDates_isOk_iff hnames (hschemas s hs).stamped]

section Normalized

variable (htables : (schemas.map fun s => upper s.table).Nodup) {d d' : Document}
  (hnormal : normalizeTables schemas d = .ok d') {s : Schema} (hs : s ∈ schemas)
include htables hnormal hs

/-- Records of a normalized document are those of which they are made, with their dates in one
layout. -/
theorem exists_normalized {rs : List Record} (hrs : d'.table? s.table = some rs) :
    ∃ records, d.table? s.table = some records ∧ records.mapM (normalizeDates s) = .ok rs := by
  obtain ⟨hsome, hnone, -⟩ := normalizeTables_eq_ok (nodup_tables htables) hnormal
  cases hrecords : d.table? s.table with
  | none => exact nomatch (hnone s hs hrecords).symm.trans hrs
  | some records =>
    obtain ⟨rs', hrs', hget⟩ := hsome s hs records hrecords
    obtain rfl := Option.some.inj (hget.symm.trans hrs)
    exact ⟨records, rfl, hrs'⟩

variable (hportable : s.Portable)
include hportable

/-- Normalization keeps complete records complete, and their keys. -/
theorem isFull_of_normalizeTables (hfull : IsFull m d s) : IsFull m d' s := by
  intro rs hrs
  obtain ⟨records, hrecords, hall⟩ := exists_normalized htables hnormal hs hrs
  obtain ⟨hcomplete, key, hkey, hkeyed⟩ := hfull records hrecords
  refine ⟨fun r hr => ?_, key, hkey, isKeyed_of_normalizeDates hportable hkey hkeyed hall⟩
  obtain ⟨record, hrecord, hone⟩ :=
    (Result.exists_of_forall₂ (Result.mapM_eq_ok_iff.1 hall)).1 r hr
  exact isComplete_of_normalizeDates hportable (hcomplete record hrecord) hone

/-- The columns take the normalized records just if they take those of which they are made. -/
theorem passesAll_iff_of_normalizeTables : PassesAll d' s ↔ PassesAll d s := by
  constructor
  · intro hpasses records hrecords record hrecord
    obtain ⟨rs, hrs, hget⟩ :=
      (normalizeTables_eq_ok (nodup_tables htables) hnormal).1 s hs records hrecords
    obtain ⟨r, hr, hone⟩ :=
      (Result.exists_of_forall₂ (Result.mapM_eq_ok_iff.1 hrs)).2 record hrecord
    exact (passes_iff_of_normalizeDates hportable hone).1 (hpasses rs hget r hr)
  · intro hpasses rs hrs r hr
    obtain ⟨records, hrecords, hall⟩ := exists_normalized htables hnormal hs hrs
    obtain ⟨record, hrecord, hone⟩ :=
      (Result.exists_of_forall₂ (Result.mapM_eq_ok_iff.1 hall)).1 r hr
    exact (passes_iff_of_normalizeDates hportable hone).2
      (hpasses records hrecords record hrecord)

end Normalized

/-- **Records that are normalized are taken over just if all of them pass.** -/
theorem run_importAll_of_normalizeTables {r : Schema.Registry}
    (hschemas : ∀ s ∈ r.schemas, s.Portable)
    (htables : (r.schemas.map fun s => upper s.table).Nodup)
    (hserved : ∀ s ∈ r.schemas, IsServed st s) {d d' : Document}
    (hnormal : normalizeTables r.schemas d = .ok d') (hfull : ∀ s ∈ r.schemas, IsFull m d' s) :
    (∃ report st', (importAll r m d true).run Storage.engine st = (.ok report, st')) ↔
      ∀ s ∈ r.schemas, PassesAll d' s := by
  obtain ⟨st₁, hclear, hcleared⟩ := exists_run_clearAll hschemas htables hserved
  rw [importAll_of_normalizeTables hnormal, if_pos rfl,
    ← run_writeTables_isOk_iff hschemas htables hcleared hfull []]
  constructor
  · rintro ⟨report, st', hrun⟩
    obtain ⟨failures, st₂, hclear', hrest⟩ := Program.run_bind_eq_ok.1 hrun
    obtain ⟨-, rfl⟩ := Prod.mk.inj (hclear.symm.trans hclear')
    obtain ⟨w, st₃, hw, -⟩ := Program.run_bind_eq_ok.1 hrest
    exact ⟨w, st₃, hw⟩
  · rintro ⟨w, st', hw⟩
    exact ⟨⟨w, []⟩, st',
      Program.run_bind_eq_ok.2 ⟨[], st₁, hclear, Program.run_bind_eq_ok.2 ⟨w, st', hw, rfl⟩⟩⟩

/-- **Complete records with different keys are taken over just if their dates can be read and the
columns take all of them**, whatever the tables held. -/
theorem run_importAll_isOk_iff_of_isFull {r : Schema.Registry}
    (hschemas : ∀ s ∈ r.schemas, s.Portable)
    (htables : (r.schemas.map fun s => upper s.table).Nodup)
    (hserved : ∀ s ∈ r.schemas, IsServed st s) {d : Document}
    (hfull : ∀ s ∈ r.schemas, IsFull m d s) :
    (∃ report st', (importAll r m d true).run Storage.engine st = (.ok report, st')) ↔
      ∀ s ∈ r.schemas, DatedAll d s ∧ PassesAll d s := by
  have hnormalized : ∀ d', normalizeTables r.schemas d = .ok d' →
      ((∃ report st', (importAll r m d true).run Storage.engine st = (.ok report, st')) ↔
        ∀ s ∈ r.schemas, PassesAll d s) := by
    intro d' hd'
    rw [run_importAll_of_normalizeTables hschemas htables hserved hd' fun s hs =>
      isFull_of_normalizeTables htables hd' hs (hschemas s hs) (hfull s hs)]
    exact forall₂_congr fun s hs => passesAll_iff_of_normalizeTables htables hd' hs (hschemas s hs)
  rw [forall₂_and]
  constructor
  · rintro ⟨report, st', hrun⟩
    obtain ⟨d', _, hd', -⟩ := run_importAll_eq_ok hrun
    exact ⟨(normalizeTables_isOk_iff hschemas htables).1 ⟨d', hd'⟩,
      (hnormalized d' hd').1 ⟨report, st', hrun⟩⟩
  · rintro ⟨hdated, hpasses⟩
    obtain ⟨d', hd'⟩ := (normalizeTables_isOk_iff hschemas htables).2 hdated
    exact (hnormalized d' hd').2 hpasses

/-! ## Importing the document of an export -/

/-- The document has for the schema records of an export, with different keys. -/
def IsBackup (m : Moment) (d : Document) (s : Schema) : Prop :=
  ∃ records, d.table? s.table = some records ∧ (∀ record ∈ records, IsExported s record) ∧
    ∃ key, s.key? = some key ∧ IsKeyed key m records

/-- An import takes all records that the document has for the schema. -/
def IsRestorableAll (d : Document) (s : Schema) : Prop :=
  ∀ records, d.table? s.table = some records → ∀ record ∈ records, IsRestorable s record

instance (d : Document) (s : Schema) : Decidable (IsRestorableAll d s) :=
  decidable_of_iff (∀ record ∈ recordsFor d s, IsRestorable s record) forall_recordsFor_iff

/-- The records of an export are complete, and an import takes them if their dates can be read and
the columns take them. -/
theorem IsBackup.isFull_and_iff {d : Document} {s : Schema} (h : IsBackup m d s) :
    IsFull m d s ∧ (DatedAll d s ∧ PassesAll d s ↔ IsRestorableAll d s) := by
  obtain ⟨records, hrecords, hexported, key, hkey, hkeyed⟩ := h
  rw [IsFull, DatedAll, PassesAll, IsRestorableAll, hrecords]
  simp only [Option.some.injEq, forall_eq', ← forall₂_and]
  refine ⟨⟨fun record hrecord => (hexported record hrecord).isComplete, key, hkey, hkeyed⟩,
    forall₂_congr fun record hrecord => ?_⟩
  rw [(hexported record hrecord).passes_iff, IsRestorable]

/-- **The document of an export is taken over just if all its records are restorable.** -/
theorem run_importAll_isOk_iff {r : Schema.Registry} (hschemas : ∀ s ∈ r.schemas, s.Portable)
    (htables : (r.schemas.map fun s => upper s.table).Nodup) {c : Connection}
    (hc : st.opened = .ok c)
    (hserves : ∀ s ∈ r.schemas, ∃ t, c.database.table? s.table = some t ∧ t.Serves s)
    {d : Document} (hbackup : ∀ s ∈ r.schemas, IsBackup m d s) :
    (∃ report st', (importAll r m d true).run Storage.engine st = (.ok report, st')) ↔
      ∀ s ∈ r.schemas, IsRestorableAll d s := by
  have hserved : ∀ s ∈ r.schemas, IsServed st s := by
    simpa only [IsServed, Storage.table?_of_opened hc] using hserves
  rw [run_importAll_isOk_iff_of_isFull hschemas htables hserved fun s hs =>
    (hbackup s hs).isFull_and_iff.1]
  exact forall₂_congr fun s hs => (hbackup s hs).isFull_and_iff.2

/-! ## What an import leaves -/

variable {s : Schema} {st' : Storage}

/-- A table that was cleared has the complete records that are written to it at once as its rows. -/
theorem rows_of_writtenOnce (hs : s.Portable) (hcleared : IsCleared st s) {n : Nat} {key : Column}
    (hkey : s.key? = some key) {records : List Record} (hrecords : ∀ record ∈ records,
      IsComplete s record ∧ isMissingKey (record.get? key.name) = false)
    (h : WrittenOnce m n false st st' s records) :
    ∃ t', st'.table? s.table = some t' ∧ t'.Serves s ∧
      List.Forall₂ (HoldsRecord s t') records t'.rows := by
  obtain ⟨t, ht, hserves, hempty⟩ := hcleared
  rw [WrittenOnce] at h
  split_ifs at h with hnil
  · refine ⟨t, h.trans ht, hserves, ?_⟩
    rw [hempty, hnil]
    exact .nil
  · obtain ⟨k, -, count, st₁, st₂, hbefore, hrun, hafter⟩ := h
    rw [hafter]
    exact rows_of_writeMany hs (hbefore.trans ht) hserves hempty hkey hrecords hrun

/-- **An import leaves each table with its records**, their dates in one layout, in their order. -/
theorem rows_of_importAll {r : Schema.Registry} (hschemas : ∀ s ∈ r.schemas, s.Portable)
    (htables : (r.schemas.map fun s => upper s.table).Nodup)
    (hserved : ∀ s ∈ r.schemas, IsServed st s) {d : Document} {report : ImportReport}
    (hrun : (importAll r m d true).run Storage.engine st = (.ok report, st')) (hs : s ∈ r.schemas)
    {key : Column} (hkey : s.key? = some key) (hrecords : ∀ record ∈ recordsFor d s,
      IsComplete s record ∧ isMissingKey (record.get? key.name) = false) :
    ∃ d', normalizeTables r.schemas d = .ok d' ∧ ∃ t', st'.table? s.table = some t' ∧
      t'.Serves s ∧ List.Forall₂ (HoldsRecord s t') (recordsFor d' s) t'.rows := by
  obtain ⟨d', st₁, hnormal, hclear, hwrite⟩ := run_importAll_eq_ok hrun
  rw [if_pos rfl] at hclear
  obtain ⟨st₂, hclear', hcleared⟩ := exists_run_clearAll hschemas htables hserved
  obtain ⟨-, rfl⟩ := Prod.mk.inj (hclear'.symm.trans hclear)
  obtain ⟨hwritten, -⟩ := run_writeTables_eq_ok htables (fun s hs => by
    obtain ⟨t, ht, hserve, -⟩ := hcleared s hs
    exact ⟨t, ht, hserve⟩) hwrite
  refine ⟨d', hnormal, rows_of_writtenOnce (hschemas s hs) (hcleared s hs) hkey ?_ (hwritten s hs)⟩
  -- normalization keeps what is there, and the keys
  intro r' hr'
  obtain ⟨record, hrecord, hone⟩ := (Result.exists_of_forall₂
    (normalized_recordsFor (nodup_tables htables) hnormal hs)).1 r' hr'
  obtain ⟨hcomplete, hnamed⟩ := hrecords record hrecord
  refine ⟨isComplete_of_normalizeDates (hschemas s hs) hcomplete hone, ?_⟩
  rwa [get?_key_of_normalizeDates (hschemas s hs) hkey hone]

end Daybook.Sync
