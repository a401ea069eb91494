import Daybook.Proofs.Sync.Import

/-!
# Imports that are refused

An import looks at the dates of all records before it calls the engine. It is refused for a date just
if a record of a managed table has one that no import takes, and then nothing is called
(**`importAll_refused_iff`**). No later step ends in a failure of that kind.

* `BadDate`: what a record is refused for;
* `normalizeDates_isOk_iff_not`, `normalizeTables_isOk_iff_not`: one record, and all of them;
* `IsDateFailure`, `IsWriteFailure`, `fails_writeTables`: the failures of the steps.
-/

namespace Daybook.Sync

open Calendar (normalize?)

variable {s : Schema} {record : Record}

/-! ## Dates that no import takes -/

/-- The record has a date that no import takes, or lacks one that it needs. -/
inductive BadDate (s : Schema) (record : Record) : Prop
  | unreadable (c : Column) (hc : c ∈ s.dateColumns) (hvalue : isBlank (record.get? c.name) = false)
    (hread : (record.get? c.name).bind normalize? = none)
  | missing (c : Column) (hc : c ∈ s.dateColumns) (hvalue : isBlank (record.get? c.name))
    (hneeds : c.required ∨ c.name = Schema.updatedColumn)
  | undated (hcreated : s.tracksCreated) (hvalue : isBlank (record.get? Schema.createdColumn))
    (hupdated : isBlank (record.get? Schema.updatedColumn))

theorem needsDate_iff (c : Column) : needsDate c ↔ c.required ∨ c.name = Schema.updatedColumn := by
  rw [needsDate, Bool.or_eq_true, decide_eq_true_eq]

theorem badDate_of_not_isDated {c : Column} (hc : c ∈ s.dateColumns) (h : ¬ IsDated record c) :
    BadDate s record := by
  rw [IsDated] at h
  split_ifs at h with hblank
  · rw [Bool.not_eq_false] at h
    exact .missing c hc hblank ((needsDate_iff c).1 h)
  · rw [Bool.not_eq_true] at hblank
    refine .unreadable c hc hblank ?_
    simpa using h

theorem badDate_iff : BadDate s record ↔ (∃ c ∈ s.dateColumns, ¬ IsDated record c) ∨
    (s.tracksCreated ∧ isBlank (record.get? Schema.createdColumn) ∧
      isBlank (record.get? Schema.updatedColumn)) := by
  constructor
  · rintro (⟨c, hc, hvalue, hread⟩ | ⟨c, hc, hvalue, hneeds⟩ | ⟨hcreated, hvalue, hupdated⟩)
    · refine .inl ⟨c, hc, ?_⟩
      rw [IsDated, hvalue, if_neg Bool.false_ne_true, hread]
      exact Bool.false_ne_true
    · refine .inl ⟨c, hc, ?_⟩
      rw [IsDated, if_pos hvalue, Bool.not_eq_false]
      exact (needsDate_iff c).2 hneeds
    · exact .inr ⟨hcreated, hvalue, hupdated⟩
  · rintro (⟨c, hc, hdated⟩ | ⟨hcreated, hvalue, hupdated⟩)
    · exact badDate_of_not_isDated hc hdated
    · exact .undated hcreated hvalue hupdated

/-- **A record is normalized just if it has no bad date.** -/
theorem normalizeDates_isOk_iff_not (hnames : (s.columns.map Column.name).Nodup) :
    (∃ r, normalizeDates s record = .ok r) ↔ ¬ BadDate s record := by
  have hfixed : (∃ r, withCreated s (fixed s record) = .ok r) ↔
      ¬ (s.tracksCreated ∧ isBlank (record.get? Schema.createdColumn) ∧
        isBlank (record.get? Schema.updatedColumn)) := by
    rw [withCreated_isOk_iff, isBlank_fixed hnames, isBlank_fixed hnames]
  rw [badDate_iff, not_or, ← hfixed]
  simp only [normalizeDates_eq_ok_iff, exists_and_left, not_exists, not_and, not_not]

/-! ## The failures of the steps -/

/-- The failure is one of a date. -/
def IsDateFailure (e : Failure) : Prop :=
  ∃ table column key value, e = .dateNormalization table column key value

theorem isDateFailure_dateFailure (s : Schema) (record : Record) (column : String) :
    IsDateFailure (dateFailure s record column) := ⟨_, _, _, _, rfl⟩

theorem error_fixedDates {columns : List Column} {e : Failure}
    (h : fixedDates s record columns = .error e) : IsDateFailure e := by
  induction columns with
  | nil => cases h
  | cons c rest ih =>
    rw [fixedDates] at h
    split at h
    · split at h
      · rw [← Except.error.inj h]
        exact isDateFailure_dateFailure s record c.name
      · exact ih h
    · split at h
      · rw [← Except.error.inj h]
        exact isDateFailure_dateFailure s record c.name
      · exact ih (Result.map_eq_error_iff.1 h)

theorem error_normalizeDates {e : Failure} (h : normalizeDates s record = .error e) :
    IsDateFailure e := by
  rw [normalizeDates] at h
  rcases Result.bind_eq_error_iff.1 h with h | ⟨dates, -, h⟩
  · exact error_fixedDates h
  · rw [withCreated] at h
    split_ifs at h
    split at h
    · split_ifs at h
      rw [← Except.error.inj h]
      exact isDateFailure_dateFailure _ _ _
    · rw [← Except.error.inj h]
      exact isDateFailure_dateFailure _ _ _

/-! ## All records -/

/-- A record of a managed table has a bad date. -/
def HasBadDate (schemas : List Schema) (d : Document) : Prop :=
  ∃ s ∈ schemas, ∃ record ∈ recordsFor d s, BadDate s record

theorem mapM_normalizeDates_isOk_iff (hnames : (s.columns.map Column.name).Nodup)
    (records : List Record) :
    (∃ rs, records.mapM (normalizeDates s) = .ok rs) ↔ ∀ record ∈ records, ¬ BadDate s record := by
  induction records with
  | nil => exact iff_of_true ⟨[], rfl⟩ fun _ h => absurd h List.not_mem_nil
  | cons record rest ih =>
    rw [List.forall_mem_cons, ← ih, ← normalizeDates_isOk_iff_not hnames]
    simp only [Result.mapM_eq_ok_iff, List.forall₂_cons_left_iff]
    constructor
    · rintro ⟨_, r, rs, hr, hrs, rfl⟩
      exact ⟨⟨r, hr⟩, rs, hrs⟩
    · rintro ⟨⟨r, hr⟩, rs, hrs⟩
      exact ⟨r :: rs, r, rs, hr, hrs, rfl⟩

/-- **A document is normalized just if no record of a managed table has a bad date.** -/
theorem normalizeTables_isOk_iff_not {schemas : List Schema}
    (hvalid : ∀ s ∈ schemas, s.fault? = none) (hnames : (schemas.map Schema.table).Nodup)
    (d : Document) : (∃ d', normalizeTables schemas d = .ok d') ↔ ¬ HasBadDate schemas d := by
  have hcolumns := fun s hs => (Schema.fault?_eq_none_iff.1 (hvalid s hs)).nodup
  constructor
  · rintro ⟨d', hd'⟩ ⟨s, hs, record, hrecord, hbad⟩
    suffices hgood : ∀ record ∈ recordsFor d s, ¬ BadDate s record from hgood record hrecord hbad
    refine forall_recordsFor_iff.2 fun records htable => ?_
    obtain ⟨rs, hrs, -⟩ := (normalizeTables_eq_ok hnames hd').1 s hs records htable
    exact (mapM_normalizeDates_isOk_iff (hcolumns s hs) records).1 ⟨rs, hrs⟩
  · intro hgood
    refine normalizeTables_isOk hnames fun s hs records htable => ?_
    refine (mapM_normalizeDates_isOk_iff (hcolumns s hs) records).2 fun record hrecord hbad => ?_
    refine hgood ⟨s, hs, record, ?_, hbad⟩
    rwa [recordsFor, htable]

theorem error_normalizeTables {schemas : List Schema} {d : Document} {e : Failure}
    (h : normalizeTables schemas d = .error e) : IsDateFailure e := by
  induction schemas generalizing d with
  | nil => cases h
  | cons s rest ih =>
    rw [normalizeTables] at h
    split at h
    · exact ih h
    · rcases Result.bind_eq_error_iff.1 h with h | ⟨rs, -, h⟩
      · obtain ⟨record, -, h⟩ := Result.exists_of_mapM_eq_error h
        exact error_normalizeDates h
      · exact ih h

/-! ## The other steps -/

/-- The failure is one of the steps that write. -/
inductive IsWriteFailure : Failure → Prop
  | argument (name : String) : IsWriteFailure (.missingArgument name)
  | bytes (fault : Base64.Fault) : IsWriteFailure (.invalidInput (.bytes fault))
  | storage (fault : Sql.Fault) : IsWriteFailure (.storage fault)

theorem IsWriteFailure.not_isDateFailure {e : Failure} (h : IsWriteFailure e) :
    ¬ IsDateFailure e := by
  rintro ⟨_, _, _, _, rfl⟩
  cases h

theorem error_rowOf {columns : List Column} {e : Failure}
    (h : Store.rowOf columns record = .error e) : IsWriteFailure e := by
  rw [Store.rowOf] at h
  obtain ⟨c, -, h⟩ := Result.exists_of_mapM_eq_error h
  split at h
  · have h := Result.map_eq_error_iff.1 h
    rw [Column.cell] at h
    split at h
    · cases h
    · rw [← Except.error.inj h]
      exact .bytes _
  · cases h

theorem fails_writeMany (s : Schema) (m : Moment) (replace : Bool) (records : List Record) :
    (Store.writeMany s m replace records).Fails IsWriteFailure := by
  rw [Store.writeMany]
  split_ifs
  · exact .argument _
  · refine Program.fails_bind (Program.fails_ofExcept fun e h => ?_) fun statements =>
      Program.fails_bind (Program.fails_ask _) fun _ => trivial
    rw [Store.writeStatements] at h
    split_ifs at h
    · rw [← Except.error.inj h]
      exact .argument _
    · obtain ⟨r, -, h⟩ := Result.exists_of_mapM_eq_error (Result.map_eq_error_iff.1 h)
      exact error_rowOf h

theorem fails_writeTables (m : Moment) (replace : Bool) (schemas : List Schema) (d : Document)
    (written : KeyMap Nat) : (writeTables m replace schemas d written).Fails IsWriteFailure := by
  induction schemas generalizing m d written with
  | nil => trivial
  | cons s rest ih =>
    rw [writeTables.eq_def]
    dsimp only
    split
    · exact ih _ _ _
    · exact ih _ _ _
    · exact Program.fails_bind (fails_writeMany _ _ _ _) fun _ => ih _ _ _

/-- To clear tables never fails. -/
theorem fails_clearAll {Q : Failure → Prop} (schemas : List Schema) : (clearAll schemas).Fails Q := by
  have hclear : (clearTables schemas).Fails Q := by
    induction schemas with
    | nil => trivial
    | cons s rest ih =>
      refine Program.fails_bind (Program.fails_attempt _) fun result => Program.fails_bind ih fun _ => ?_
      cases result <;> trivial
  exact Program.fails_bind hclear fun _ => Program.fails_bind (Program.fails_attempt _) fun _ => trivial

/-! ## Imports -/

variable {r : Schema.Registry} {d : Document} {st : Storage}

/-- A document with a bad date is refused before the engine is called. -/
theorem importAll_of_badDate (hvalid : ∀ s ∈ r.schemas, s.fault? = none)
    (hnames : (r.schemas.map Schema.table).Nodup) (hbad : HasBadDate r.schemas d) (m : Moment)
    (replace : Bool) : ∃ e, IsDateFailure e ∧ importAll r m d replace = .fail e := by
  cases hnormal : normalizeTables r.schemas d with
  | ok d' => exact absurd hbad ((normalizeTables_isOk_iff_not hvalid hnames d).1 ⟨d', hnormal⟩)
  | error e =>
    refine ⟨e, error_normalizeTables hnormal, ?_⟩
    rw [importAll, hnormal]
    rfl

/-- Once the dates are in one layout, an import fails where it writes. -/
theorem isWriteFailure_of_normalizeTables {m : Moment} {replace : Bool} {d' : Document}
    (hnormal : normalizeTables r.schemas d = .ok d') {e : Failure}
    (h : ((importAll r m d replace).run Storage.engine st).1 = .error e) : IsWriteFailure e := by
  have hstorage : ∀ c (x : Storage) e, (Storage.engine.reply c x).1 = .error e →
      IsWriteFailure e := by
    intro c x e h
    obtain ⟨fault, rfl⟩ := Storage.error_reply h
    exact .storage fault
  refine Program.of_run_eq_error hstorage ?_ h
  rw [importAll_of_normalizeTables hnormal]
  refine Program.fails_bind ?_ fun failures =>
    Program.fails_bind (fails_writeTables m replace _ _ _) fun _ => trivial
  cases replace with
  | true => exact fails_clearAll _
  | false => trivial

/-- Once the dates are in one layout, an import fails for other reasons. -/
theorem error_importAll_of_normalizeTables {m : Moment} {replace : Bool} {d' : Document}
    (hnormal : normalizeTables r.schemas d = .ok d') {e : Failure}
    (h : ((importAll r m d replace).run Storage.engine st).1 = .error e) : ¬ IsDateFailure e :=
  (isWriteFailure_of_normalizeTables hnormal h).not_isDateFailure

/-- **An import is refused for a date just if a managed record has a bad one**, and then it does
not call the engine, so the database stays as it is. -/
theorem importAll_refused_iff (hvalid : ∀ s ∈ r.schemas, s.fault? = none)
    (hnames : (r.schemas.map Schema.table).Nodup) (m : Moment) (d : Document) (replace : Bool)
    (st : Storage) :
    ((∃ e, IsDateFailure e ∧ ((importAll r m d replace).run Storage.engine st).1 = .error e) ↔
      HasBadDate r.schemas d) ∧
    (HasBadDate r.schemas d → ∃ e, importAll r m d replace = .fail e ∧
      (importAll r m d replace).run Storage.engine st = (.error e, st)) := by
  refine ⟨⟨?_, fun hbad => ?_⟩, fun hbad => ?_⟩
  · rintro ⟨e, hdate, h⟩
    by_contra hgood
    obtain ⟨d', hnormal⟩ := (normalizeTables_isOk_iff_not hvalid hnames d).2 hgood
    exact error_importAll_of_normalizeTables hnormal h hdate
  · obtain ⟨e, hdate, hfail⟩ := importAll_of_badDate hvalid hnames hbad m replace
    exact ⟨e, hdate, by rw [hfail]; rfl⟩
  · obtain ⟨e, -, hfail⟩ := importAll_of_badDate hvalid hnames hbad m replace
    exact ⟨e, hfail, by rw [hfail]; rfl⟩

/-- Two notes; the time at which the last was changed cannot be read. -/
def strayNotes : Document :=
  ⟨[("Note", [[("name", .str "a"), ("updatedAt", .str "2024-05-06")],
    [("name", .str "b"), ("updatedAt", .str "tomorrow")]])]⟩

theorem hasBadDate_strayNotes : HasBadDate Schema.models strayNotes :=
  ⟨Schema.note, by decide, [("name", .str "b"), ("updatedAt", .str "tomorrow")], by decide,
    .unreadable (Column.timestamp Schema.updatedColumn) (by decide) (by decide) (by decide +kernel)⟩

/-- The notes are refused, and nothing is cleared before. -/
theorem importAll_refused_strayNotes :
    (∀ s ∈ Schema.models, s.fault? = none) ∧ (Schema.models.map Schema.table).Nodup ∧
    ∃ e, importAll ⟨Schema.models⟩ ⟨"2024-05-06T07:08:09.010Z", identifier⟩ strayNotes true =
      .fail e := by
  have hvalid : ∀ s ∈ Schema.models, s.fault? = none := by decide
  have hnames : (Schema.models.map Schema.table).Nodup := by decide
  obtain ⟨e, hfail, -⟩ := (importAll_refused_iff (r := ⟨Schema.models⟩) hvalid hnames
    ⟨"2024-05-06T07:08:09.010Z", identifier⟩ strayNotes true default).2 hasBadDate_strayNotes
  exact ⟨hvalid, hnames, e, hfail⟩

end Daybook.Sync
