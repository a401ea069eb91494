import Daybook.Proofs.KeyMap
import Daybook.Proofs.Result
import Daybook.Sync.Dates
import Mathlib.Data.List.TakeWhile

/-!
# Records whose dates can be read

A record is normalized just if all its dates can be read, and none of those that are needed is
blank; where records have the time of their last change among their dates, nothing else is asked of
them (**`normalizeDates_isOk_iff`**). What is no date stays as it was.

* `IsDated`: the value of a date column is one that an import takes;
* `fixed`: a record once its dates are in one layout;
* `get?_of_normalizeDates`: the values of a normalized record.
-/

namespace Daybook.Sync

open Calendar (normalize?)

variable {s : Schema} {record : Record}

/-! ## Dates of a record -/

/-- An import takes the value of the column: it is blank where it may be, or can be read. -/
def IsDated (record : Record) (c : Column) : Prop :=
  if isBlank (record.get? c.name) then needsDate c = false
  else ((record.get? c.name).bind normalize?).isSome

instance (record : Record) (c : Column) : Decidable (IsDated record c) :=
  inferInstanceAs (Decidable (ite _ _ _))

/-- The new text of the value of a column. -/
def dateOf? (record : Record) (c : Column) : Option String :=
  if isBlank (record.get? c.name) then none else (record.get? c.name).bind normalize?

theorem fixedDates_eq_ok_iff {columns : List Column} {dates : List (String × String)} :
    fixedDates s record columns = .ok dates ↔ (∀ c ∈ columns, IsDated record c) ∧
      dates = columns.filterMap fun c => (dateOf? record c).map (c.name, ·) := by
  induction columns generalizing dates with
  | nil =>
    rw [fixedDates, Except.ok.injEq, eq_comm]
    exact (and_iff_right fun _ h => absurd h List.not_mem_nil).symm
  | cons c rest ih =>
    rw [fixedDates, List.forall_mem_cons, List.filterMap_cons, and_assoc]
    by_cases hblank : isBlank (record.get? c.name)
    · have hdated : IsDated record c ↔ needsDate c = false := by rw [IsDated, if_pos hblank]
      have hdate : dateOf? record c = none := by rw [dateOf?, if_pos hblank]
      rw [hdated, hdate]
      dsimp only [Option.map_none]
      rw [if_pos hblank]
      cases needsDate c with
      | false => rw [if_neg Bool.false_ne_true, ih, eq_self, true_and]
      | true =>
        rw [if_pos rfl]
        exact iff_of_false (fun h => nomatch h) fun h => nomatch h.1
    · have hdated : IsDated record c ↔ ((record.get? c.name).bind normalize?).isSome := by
        rw [IsDated, if_neg hblank]
      have hdate : dateOf? record c = (record.get? c.name).bind normalize? := by
        rw [dateOf?, if_neg hblank]
      rw [hdated, hdate, if_neg hblank]
      cases (record.get? c.name).bind normalize? with
      | none => exact iff_of_false (fun h => nomatch h) fun h => nomatch h.1
      | some date =>
        dsimp only [Option.map_some]
        rw [Option.isSome_some, eq_self, true_and, Result.map_eq_ok_iff]
        constructor
        · rintro ⟨more, hmore, rfl⟩
          obtain ⟨hall, rfl⟩ := ih.1 hmore
          exact ⟨hall, rfl⟩
        · rintro ⟨hall, rfl⟩
          exact ⟨_, ih.2 ⟨hall, rfl⟩, rfl⟩

/-! ## Normalized records -/

/-- The record once its dates are in one layout. -/
def fixed (s : Schema) (record : Record) : Record :=
  (s.dateColumns.filterMap fun c => (dateOf? record c).map (c.name, ·)).foldl
    (fun r (name, date) => r.insert name (.str date)) record

theorem normalizeDates_eq_ok_iff {r : Record} :
    normalizeDates s record = .ok r ↔
      (∀ c ∈ s.dateColumns, IsDated record c) ∧ withCreated s (fixed s record) = .ok r := by
  rw [normalizeDates, Result.bind_eq_ok_iff]
  constructor
  · rintro ⟨dates, hdates, h⟩
    obtain ⟨hall, rfl⟩ := fixedDates_eq_ok_iff.1 hdates
    exact ⟨hall, h⟩
  · rintro ⟨hall, h⟩
    exact ⟨_, fixedDates_eq_ok_iff.2 ⟨hall, rfl⟩, h⟩

theorem fixed_eq (s : Schema) (record : Record) :
    fixed s record = (s.dateColumns.filterMap fun c =>
      (dateOf? record c).map fun date => (c.name, Json.str date)).foldl
        (fun r p => r.insert p.1 p.2) record := by
  have hmap : (s.dateColumns.filterMap fun c =>
      (dateOf? record c).map fun date => (c.name, Json.str date)) =
      (s.dateColumns.filterMap fun c => (dateOf? record c).map (c.name, ·)).map
        fun p => (p.1, Json.str p.2) := by
    rw [List.map_filterMap]
    congr 1
    funext c
    rw [Option.map_map]
    rfl
  rw [hmap, List.foldl_map, fixed]

theorem nodup_dates (hnames : (s.columns.map Column.name).Nodup) :
    ((s.dateColumns.filterMap fun c =>
      (dateOf? record c).map fun date => (c.name, Json.str date)).map Prod.fst).Nodup := by
  have hsub : ((s.dateColumns.filterMap fun c =>
      (dateOf? record c).map fun date => (c.name, Json.str date)).map Prod.fst).Sublist
        (s.dateColumns.map Column.name) := by
    induction s.dateColumns with
    | nil => exact List.Sublist.slnil
    | cons c rest ih =>
      rw [List.filterMap_cons, List.map_cons]
      cases dateOf? record c with
      | none => exact ih.cons _
      | some date => exact ih.cons_cons _
  exact (hnames.sublist (List.filter_sublist.map _)).sublist hsub

/-- A date that can be read is in its new layout. -/
theorem get?_fixed_of_date (hnames : (s.columns.map Column.name).Nodup) {c : Column}
    (hc : c ∈ s.dateColumns) {date : String} (hdate : dateOf? record c = some date) :
    (fixed s record).get? c.name = some (.str date) := by
  rw [fixed_eq]
  refine KeyMap.get?_foldl_insert_of_mem (nodup_dates hnames) ?_ _
  exact List.mem_filterMap.2 ⟨c, hc, by rw [hdate]; rfl⟩

/-- What is no date, or blank, is as it was. -/
theorem get?_fixed_of_not_date {key : String}
    (h : ∀ c ∈ s.dateColumns, c.name = key → dateOf? record c = none) :
    (fixed s record).get? key = record.get? key := by
  rw [fixed_eq]
  refine KeyMap.get?_foldl_insert_of_not_mem ?_ _
  intro hmem
  obtain ⟨p, hp, rfl⟩ := List.mem_map.1 hmem
  obtain ⟨c, hc, hdate⟩ := List.mem_filterMap.1 hp
  obtain ⟨date, hdate, rfl⟩ := Option.map_eq_some_iff.1 hdate
  rw [h c hc rfl] at hdate
  exact nomatch hdate

/-- A value is a date in its new layout, or as it was. -/
theorem get?_fixed (hnames : (s.columns.map Column.name).Nodup) (key : String) :
    (∃ c ∈ s.dateColumns, c.name = key ∧ ∃ date, dateOf? record c = some date ∧
      (fixed s record).get? key = some (.str date)) ∨
    (fixed s record).get? key = record.get? key := by
  by_cases hdate : ∃ c ∈ s.dateColumns, c.name = key ∧ dateOf? record c ≠ none
  · obtain ⟨c, hc, rfl, hsome⟩ := hdate
    obtain ⟨date, hdate⟩ := Option.ne_none_iff_exists'.1 hsome
    exact .inl ⟨c, hc, rfl, date, hdate, get?_fixed_of_date hnames hc hdate⟩
  · refine .inr (get?_fixed_of_not_date fun c hc hname => ?_)
    by_contra hsome
    exact hdate ⟨c, hc, hname, hsome⟩

/-! ## The layout of dates -/

theorem isBlankText_format (t : Calendar.Instant) : Text.isBlankText t.format = false := by
  have hdash : '-' ∈ t.format.toList := by
    rw [Calendar.Instant.format, String.toList_ofList, Calendar.Instant.formatChars]
    simp
  rw [← Bool.not_eq_true, Text.isBlankText, List.all_eq_true]
  exact fun h => absurd (h '-' hdash) (by decide)

theorem isBlank_normalized {v : Json} {date : String} (h : normalize? v = some date) :
    isBlank (some (.str date)) = false := by
  obtain ⟨t, -, rfl⟩ := Option.map_eq_some_iff.1 h
  exact isBlankText_format t

/-- What can be read as a date is not blank. -/
theorem isBlank_of_normalize? {v : Json} (h : (normalize? v).isSome) :
    isBlank (some v) = false := by
  cases v with
  | null => exact nomatch h
  | str s =>
    rw [← Bool.not_eq_true, isBlank, Text.isBlankText, List.all_eq_true]
    intro hblank
    have htrim : Text.trimStart s.toList = [] := List.dropWhile_eq_nil_iff.2 hblank
    have hread : Calendar.readText? s = none := by
      rw [Calendar.readText?, htrim]
      rfl
    rw [normalize?, Calendar.Instant.ofJson?, hread] at h
    exact nomatch h
  | _ => rfl

theorem isBlank_dateOf? {c : Column} {date : String} (h : dateOf? record c = some date) :
    isBlank (some (.str date)) = false := by
  rw [dateOf?] at h
  split_ifs at h
  obtain ⟨v, -, hv⟩ := Option.bind_eq_some_iff.1 h
  exact isBlank_normalized hv

/-- To bring dates to one layout leaves what is blank blank, and makes nothing else blank. -/
theorem isBlank_fixed (hnames : (s.columns.map Column.name).Nodup) (key : String) :
    isBlank ((fixed s record).get? key) = isBlank (record.get? key) := by
  rcases @get?_fixed s record hnames key with ⟨c, hc, rfl, date, hdate, hget⟩ | hget
  · rw [hget, isBlank_dateOf? hdate]
    rw [dateOf?] at hdate
    split_ifs at hdate with hblank
    exact ((Bool.not_eq_true _).mp hblank).symm
  · rw [hget]

/-! ## What it takes to normalize a record -/

/-- Records have the time of their last change among their dates, if they have the time at which
they were made. -/
def IsStamped (s : Schema) : Prop :=
  s.tracksCreated → ∃ c ∈ s.dateColumns, c.name = Schema.updatedColumn

/-- A date that an import takes is not blank where it is needed. -/
theorem isBlank_of_isDated {c : Column} (hdated : IsDated record c) (hneeds : needsDate c) :
    isBlank (record.get? c.name) = false := by
  rw [IsDated] at hdated
  split_ifs at hdated with hblank
  · rw [hneeds] at hdated
    exact nomatch hdated
  · exact (Bool.not_eq_true _).mp hblank

/-- A date that is needed is there. -/
theorem exists_dateOf? {c : Column} (hdated : IsDated record c) (hneeds : needsDate c) :
    ∃ date, dateOf? record c = some date := by
  have hblank : ¬ isBlank (record.get? c.name) := by
    rw [isBlank_of_isDated hdated hneeds]
    exact Bool.false_ne_true
  rw [IsDated, if_neg hblank] at hdated
  rw [dateOf?, if_neg hblank]
  exact Option.isSome_iff_exists.1 hdated

theorem needsDate_of_name {c : Column} (h : c.name = Schema.updatedColumn) : needsDate c := by
  rw [needsDate, decide_eq_true h, Bool.or_true]

/-- The value of the last change, once the dates are in one layout. -/
theorem exists_updated (hnames : (s.columns.map Column.name).Nodup) (hstamped : IsStamped s)
    (hcreated : s.tracksCreated) (hdated : ∀ c ∈ s.dateColumns, IsDated record c) :
    ∃ date, (fixed s record).get? Schema.updatedColumn = some (.str date) ∧
      isBlank (some (.str date)) = false := by
  obtain ⟨c, hc, hname⟩ := hstamped hcreated
  obtain ⟨date, hdate⟩ := exists_dateOf? (hdated c hc) (needsDate_of_name hname)
  have hget := get?_fixed_of_date hnames hc hdate
  rw [hname] at hget
  exact ⟨date, hget, isBlank_dateOf? hdate⟩

theorem withCreated_isOk_iff : (∃ r, withCreated s record = .ok r) ↔
    ¬ (s.tracksCreated ∧ isBlank (record.get? Schema.createdColumn) ∧
      isBlank (record.get? Schema.updatedColumn)) := by
  rw [withCreated]
  by_cases hmissing : s.tracksCreated && isBlank (record.get? Schema.createdColumn)
  · obtain ⟨hcreated, hvalue⟩ := (Bool.and_eq_true _ _).mp hmissing
    rw [if_pos hmissing, and_iff_right hcreated, and_iff_right hvalue]
    cases hupdated : record.get? Schema.updatedColumn with
    | none => exact iff_of_false (fun h => nomatch h) (not_not_intro rfl)
    | some updated =>
      dsimp only
      split_ifs with hblank
      · exact iff_of_false (fun h => nomatch h) (not_not_intro hblank)
      · exact iff_of_true ⟨_, rfl⟩ hblank
  · rw [if_neg hmissing]
    refine iff_of_true ⟨_, rfl⟩ fun h => hmissing ?_
    exact (Bool.and_eq_true _ _).mpr ⟨h.1, h.2.1⟩

/-- **A record is normalized just if its dates can be read.** -/
theorem normalizeDates_isOk_iff (hnames : (s.columns.map Column.name).Nodup)
    (hstamped : IsStamped s) :
    (∃ r, normalizeDates s record = .ok r) ↔ ∀ c ∈ s.dateColumns, IsDated record c := by
  constructor
  · rintro ⟨r, hr⟩
    exact (normalizeDates_eq_ok_iff.1 hr).1
  · intro hdated
    obtain ⟨r, hr⟩ : ∃ r, withCreated s (fixed s record) = .ok r := by
      refine withCreated_isOk_iff.2 fun ⟨hcreated, _, hblank⟩ => ?_
      obtain ⟨date, hget, hdate⟩ := exists_updated hnames hstamped hcreated hdated
      rw [hget, hdate] at hblank
      exact nomatch hblank
    exact ⟨r, normalizeDates_eq_ok_iff.2 ⟨hdated, hr⟩⟩

/-! ## Values of normalized records -/

/-- The time at which a record was made stays as it is, or is that of its last change. -/
theorem withCreated_eq_ok {r r' : Record} (h : withCreated s r = .ok r') :
    (s.tracksCreated → isBlank (r.get? Schema.createdColumn) = false) ∧ r' = r ∨
      s.tracksCreated ∧ isBlank (r.get? Schema.createdColumn) ∧ ∃ updated,
        r.get? Schema.updatedColumn = some updated ∧ isBlank (some updated) = false ∧
          r' = r.insert Schema.createdColumn updated := by
  rw [withCreated] at h
  split_ifs at h with hmissing
  · obtain ⟨htracks, hblank⟩ := (Bool.and_eq_true _ _).mp hmissing
    split at h
    · rename_i updated hupdated
      split_ifs at h with hnone
      rw [Bool.not_eq_true] at hnone
      exact .inr ⟨htracks, hblank, updated, hupdated, hnone, (Except.ok.inj h).symm⟩
    · exact nomatch h
  · rw [Bool.and_eq_true, not_and, Bool.not_eq_true] at hmissing
    exact .inl ⟨hmissing, (Except.ok.inj h).symm⟩

theorem ne_null_of_isBlank {v : Json} (h : isBlank (some v) = false) : v ≠ .null := by
  rintro rfl
  exact nomatch h

/-- A value of a normalized record is the one that was there, or one of a date that is not null. -/
theorem get?_of_normalizeDates (hnames : (s.columns.map Column.name).Nodup) {r : Record}
    (h : normalizeDates s record = .ok r) (key : String) :
    r.get? key = record.get? key ∨
      ((∃ c ∈ s.dateColumns, c.name = key) ∨ key = Schema.createdColumn) ∧
        ∃ v, r.get? key = some v ∧ v ≠ .null := by
  obtain ⟨hdated, hcreated⟩ := normalizeDates_eq_ok_iff.1 h
  have hfixed : (fixed s record).get? key = record.get? key ∨
      (∃ c ∈ s.dateColumns, c.name = key) ∧
        ∃ v, (fixed s record).get? key = some v ∧ v ≠ .null := by
    rcases @get?_fixed s record hnames key with ⟨c, hc, hname, date, -, hget⟩ | hget
    · exact .inr ⟨⟨c, hc, hname⟩, _, hget, Json.noConfusion⟩
    · exact .inl hget
  rcases withCreated_eq_ok hcreated with ⟨-, rfl⟩ | ⟨-, -, updated, -, hblank, rfl⟩
  · exact hfixed.imp_right fun h => ⟨.inl h.1, h.2⟩
  · by_cases hkey : key = Schema.createdColumn
    · refine .inr ⟨.inr hkey, updated, ?_, ne_null_of_isBlank hblank⟩
      rw [hkey, KeyMap.get?_insert_self]
    · rw [KeyMap.get?_insert_of_ne _ _ hkey]
      exact hfixed.imp_right fun h => ⟨.inl h.1, h.2⟩

end Daybook.Sync
