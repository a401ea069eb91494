import Daybook.Proofs.Calendar.Order
import Daybook.Proofs.Schema.Rules
import Daybook.Proofs.Sync.Refusal

/-!
# What normalization leaves

A record is normalized if its dates can be read and it says when it was made, or at least when it was
changed. Each date is then the normal form of its instant, which it says to the millisecond; a blank
date stays blank where it may; and nothing else is changed, but that a record that does not say when
it was made takes over what it says of its last change (**`normalizeDates_leaves`**). That is a date
only if the schema takes it for one (`not_forall_format_of_normalizeDates`).

* `IsReadable`: a record that can be normalized;
* `SaysInstant`: a text from which the instant is known;
* `NormalizedFrom`: what normalization leaves.
-/

namespace Daybook.Sync

open Calendar (Instant)

/-! ## Texts that say an instant -/

/-- The text is the normal form of the instant. Only instants of the same millisecond have it, and
it is read as that millisecond if the year has four digits. -/
structure SaysInstant (text : String) (t : Instant) : Prop where
  format : text = t.format
  only : ∀ v u, Instant.ofJson? v = some u → u.format = text → u.cut = t.cut
  again : 0 ≤ t.date.year → t.date.year ≤ 9999 → Instant.ofJson? (.str text) = some t.cut

theorem saysInstant_format {v : Json} {t : Instant} (h : Instant.ofJson? v = some t) :
    SaysInstant t.format t := by
  have hread := Calendar.isRead_of_ofJson? h
  refine ⟨rfl, fun w u hu hformat => ?_, fun hzero hfour => ?_⟩
  · exact (Instant.format_eq_iff (Calendar.isRead_of_ofJson? hu) hread).1 hformat
  · rw [← Instant.shown_eq_cut hread]
    exact Calendar.readText?_format ⟨hzero, hfour, hread.nanos⟩

/-! ## Records that are normalized -/

variable {s : Schema} {record : Record}

/-- The dates of a record can be read, and it says when it was made or when it was changed, if there
is a place for it. -/
structure IsReadable (s : Schema) (record : Record) : Prop where
  dated : ∀ c ∈ s.dateColumns, IsDated record c
  made : s.tracksCreated → isBlank (record.get? Schema.createdColumn) →
    isBlank (record.get? Schema.updatedColumn) = false

/-- What becomes of a record when it is normalized. -/
structure NormalizedFrom (s : Schema) (record r : Record) : Prop where
  /-- A date column is blank or holds a normal form, unless what it holds was taken over from a
  column that is none. -/
  layout : ∀ c ∈ s.dateColumns, isBlank (r.get? c.name) ∨
    (∃ t, r.get? c.name = some (.str t.format) ∧ ∃ v, Instant.ofJson? v = some t) ∨
    c.name = Schema.createdColumn ∧ isBlank (record.get? c.name) ∧
      ∀ d ∈ s.dateColumns, d.name ≠ Schema.updatedColumn
  /-- A date is the normal form of its instant. -/
  date : ∀ c ∈ s.dateColumns, isBlank (record.get? c.name) = false → ∃ v t text,
    record.get? c.name = some v ∧ Instant.ofJson? v = some t ∧
      r.get? c.name = some (.str text) ∧ SaysInstant text t
  /-- A blank date stays as it is, but for the time at which the record was made. -/
  blank : ∀ c ∈ s.dateColumns, isBlank (record.get? c.name) → c.name ≠ Schema.createdColumn →
    r.get? c.name = record.get? c.name
  /-- What says nothing of the time at which the record was made takes over what is said of its
  last change. -/
  taken : s.tracksCreated → isBlank (record.get? Schema.createdColumn) →
    r.get? Schema.createdColumn = r.get? Schema.updatedColumn
  made : s.tracksCreated → isBlank (r.get? Schema.createdColumn) = false
  needed : ∀ c ∈ s.dateColumns, c.required ∨ c.name = Schema.updatedColumn →
    isBlank (r.get? c.name) = false
  /-- Nothing else is changed. -/
  others : ∀ key, (∀ c ∈ s.dateColumns, c.name ≠ key) → key ≠ Schema.createdColumn →
    r.get? key = record.get? key

/-- A date that is not blank is brought to its normal form. -/
theorem NormalizedFrom.exists_normal {r : Record} (h : NormalizedFrom s record r) {c : Column}
    (hc : c ∈ s.dateColumns) {v : Json} (hv : record.get? c.name = some v)
    (hsaid : isBlank (some v) = false) :
    ∃ date, Calendar.normalize? v = some date ∧ r.get? c.name = some (.str date) := by
  obtain ⟨w, t, text, hw, ht, hget, htext⟩ := h.date c hc (by rw [hv, hsaid])
  obtain rfl := Option.some.inj (hv.symm.trans hw)
  exact ⟨text, Option.map_eq_some_iff.2 ⟨t, ht, htext.format.symm⟩, hget⟩

/-! ## The time at which a record was made -/

/-- Only the time at which the record was made is filled in, and only if nothing is said of it. -/
structure CreatedFrom (s : Schema) (r r' : Record) : Prop where
  others : ∀ key, key ≠ Schema.createdColumn → r'.get? key = r.get? key
  kept : (s.tracksCreated → isBlank (r.get? Schema.createdColumn) = false) → r' = r
  taken : s.tracksCreated → isBlank (r.get? Schema.createdColumn) →
    r'.get? Schema.createdColumn = r.get? Schema.updatedColumn
  made : s.tracksCreated → isBlank (r'.get? Schema.createdColumn) = false

theorem createdFrom_of_withCreated {r r' : Record} (h : withCreated s r = .ok r') :
    CreatedFrom s r r' := by
  rcases withCreated_eq_ok h with ⟨hmade, rfl⟩ | ⟨htracks, hnone, updated, hupdated, hsaid, rfl⟩
  · refine ⟨fun _ _ => rfl, fun _ => rfl, fun htracks hnone => ?_, hmade⟩
    rw [hmade htracks] at hnone
    exact nomatch hnone
  · refine ⟨fun key hkey => KeyMap.get?_insert_of_ne _ _ hkey, fun hmade => ?_, fun _ _ => ?_,
      fun _ => ?_⟩
    · rw [hmade htracks] at hnone
      exact nomatch hnone
    · rw [KeyMap.get?_insert_self, hupdated]
    · rw [KeyMap.get?_insert_self, hsaid]

/-- What is blank, or no date, is written as it is. -/
theorem get?_fixed_of_blank {key : String}
    (h : ∀ c ∈ s.dateColumns, c.name = key → isBlank (record.get? key)) :
    (fixed s record).get? key = record.get? key := by
  refine get?_fixed_of_not_date fun c hc hname => ?_
  rw [dateOf?, if_pos (by rw [hname]; exact h c hc hname)]

theorem tracksCreated_of_mem {c : Column} (hc : c ∈ s.dateColumns)
    (hname : c.name = Schema.createdColumn) : s.tracksCreated :=
  List.find?_isSome.2 ⟨c, (List.mem_filter.1 hc).1, decide_eq_true hname⟩

/-! ## Normalized records -/

section Values

variable (hnames : (s.columns.map Column.name).Nodup)
include hnames

theorem normalizeDates_isOk_iff_isReadable :
    (∃ r, normalizeDates s record = .ok r) ↔ IsReadable s record := by
  rw [normalizeDates_isOk_iff_not hnames, badDate_iff, not_or]
  simp only [not_exists, not_and, not_not, Bool.not_eq_true]
  exact ⟨fun ⟨hdated, hmade⟩ => ⟨hdated, hmade⟩, fun ⟨hdated, hmade⟩ => ⟨hdated, hmade⟩⟩

/-- A date that is not blank is written in its normal form. -/
theorem exists_fixed {c : Column} (hc : c ∈ s.dateColumns) (hdated : IsDated record c)
    (hblank : isBlank (record.get? c.name) = false) : ∃ v t text,
      record.get? c.name = some v ∧ Instant.ofJson? v = some t ∧
        (fixed s record).get? c.name = some (.str text) ∧ SaysInstant text t := by
  rw [IsDated, if_neg (by rw [hblank]; exact Bool.false_ne_true)] at hdated
  obtain ⟨text, htext⟩ := Option.isSome_iff_exists.1 hdated
  obtain ⟨v, hv, hnormal⟩ := Option.bind_eq_some_iff.1 htext
  obtain ⟨t, ht, rfl⟩ := Option.map_eq_some_iff.1 hnormal
  have hdate : dateOf? record c = some t.format := by
    rw [dateOf?, if_neg (by rw [hblank]; exact Bool.false_ne_true), htext]
  exact ⟨v, t, t.format, hv, ht, get?_fixed_of_date hnames hc hdate, saysInstant_format ht⟩

theorem normalizedFrom_of_normalizeDates {r : Record} (h : normalizeDates s record = .ok r) :
    NormalizedFrom s record r := by
  obtain ⟨hdated, hwith⟩ := normalizeDates_eq_ok_iff.1 h
  have hcreated := createdFrom_of_withCreated hwith
  have hblank := fun key => @isBlank_fixed s record hnames key
  have hsame : ∀ key, (key = Schema.createdColumn → isBlank (record.get? key) = false) →
      r.get? key = (fixed s record).get? key := by
    intro key hkey
    by_cases hname : key = Schema.createdColumn
    · rw [hcreated.kept fun _ => ?_]
      rw [hblank, ← hname]
      exact hkey hname
    · exact hcreated.others key hname
  have hdate : ∀ c ∈ s.dateColumns, isBlank (record.get? c.name) = false → ∃ v t text,
      record.get? c.name = some v ∧ Instant.ofJson? v = some t ∧
        r.get? c.name = some (.str text) ∧ SaysInstant text t := by
    intro c hc hsaid
    rw [hsame c.name fun _ => hsaid]
    exact exists_fixed hnames hc (hdated c hc) hsaid
  have hsaid : ∀ c ∈ s.dateColumns, c.required ∨ c.name = Schema.updatedColumn →
      isBlank (record.get? c.name) = false := fun c hc hneeded =>
    isBlank_of_isDated (hdated c hc) ((needsDate_iff c).2 hneeded)
  have htaken : s.tracksCreated → isBlank (record.get? Schema.createdColumn) →
      r.get? Schema.createdColumn = r.get? Schema.updatedColumn := by
    intro htracks hnone
    rw [hcreated.taken htracks (by rwa [hblank]), hsame Schema.updatedColumn fun h => nomatch h]
  refine ⟨fun c hc => ?_, hdate, fun c hc hnone hname => ?_, htaken, hcreated.made,
    fun c hc hneeded => ?_, fun key hdates hname => ?_⟩
  · by_cases hnone : isBlank (record.get? c.name)
    · by_cases hname : c.name = Schema.createdColumn
      · by_cases hupdated : ∃ d ∈ s.dateColumns, d.name = Schema.updatedColumn
        · -- the date that is taken over is in its normal form
          obtain ⟨d, hd, hdname⟩ := hupdated
          obtain ⟨v, t, text, -, ht, hget, htext⟩ := hdate d hd (hsaid d hd (.inr hdname))
          have htracks : s.tracksCreated := tracksCreated_of_mem hc hname
          rw [hname] at hnone ⊢
          rw [htaken htracks hnone, ← hdname, hget, htext.format]
          exact .inr (.inl ⟨t, rfl, v, ht⟩)
        · exact .inr (.inr ⟨hname, hnone, fun d hd hdname => hupdated ⟨d, hd, hdname⟩⟩)
      · refine .inl ?_
        rwa [hsame c.name fun h => absurd h hname, hblank]
    · obtain ⟨v, t, text, -, ht, hget, htext⟩ := hdate c hc (by simpa using hnone)
      exact .inr (.inl ⟨t, by rw [hget, htext.format], v, ht⟩)
  · rw [hsame c.name fun h => absurd h hname, get?_fixed_of_blank fun _ _ _ => hnone]
  · rw [hsame c.name fun _ => hsaid c hc hneeded, hblank, hsaid c hc hneeded]
  · rw [hsame key fun h => absurd h hname]
    exact get?_fixed_of_blank fun c hc h => absurd h (hdates c hc)

end Values

/-- **What normalization leaves.** It succeeds just if the dates of the record can be read and it
says when it was made or changed. -/
theorem normalizeDates_leaves (hs : s.fault? = none) (record : Record) :
    ((∃ r, normalizeDates s record = .ok r) ↔ IsReadable s record) ∧
      ∀ r, normalizeDates s record = .ok r → NormalizedFrom s record r := by
  have hnames := (Schema.fault?_eq_none_iff.1 hs).nodup
  exact ⟨normalizeDates_isOk_iff_isReadable hnames,
    fun r => normalizedFrom_of_normalizeDates hnames⟩

/-- Memos say when they were made, and in words of their own when they were changed. -/
def memo : Schema where
  entity := "Memo"
  table := "Memo"
  columns := [(Column.text "id").key, Column.timestamp Schema.createdColumn,
    Column.text Schema.updatedColumn]

/-- A memo of the first of May is normalized, and what it says of its last change is no date. -/
theorem normalizeDates_leaves_memo :
    memo.fault? = none ∧
      ((∃ r, normalizeDates memo [("createdAt", .str "01/05/2024"), ("id", .str "a"),
        ("updatedAt", .str "soon")] = .ok r) ↔
        IsReadable memo [("createdAt", .str "01/05/2024"), ("id", .str "a"),
          ("updatedAt", .str "soon")]) ∧
      NormalizedFrom memo [("createdAt", .str "01/05/2024"), ("id", .str "a"),
        ("updatedAt", .str "soon")] [("createdAt", .str "2024-05-01T00:00:00.000Z"),
          ("id", .str "a"), ("updatedAt", .str "soon")] := by
  have hvalid : memo.fault? = none := by decide
  obtain ⟨hok, hleaves⟩ := normalizeDates_leaves hvalid [("createdAt", .str "01/05/2024"),
    ("id", .str "a"), ("updatedAt", .str "soon")]
  exact ⟨hvalid, hok, hleaves _ rfl⟩

/-- A memo that says only when it was changed, with the day first. -/
def changedMemo : Record := [("id", .str "a"), ("updatedAt", .str "31/12/2023")]

/-- A date column of a normalized record need not hold a date. -/
theorem not_forall_format_of_normalizeDates :
    ¬ ∀ (s : Schema) (record r : Record), s.fault? = none → normalizeDates s record = .ok r →
      ∀ c ∈ s.dateColumns, isBlank (r.get? c.name) ∨
        ∃ t : Instant, r.get? c.name = some (.str t.format) := by
  intro hall
  have hdate := hall memo changedMemo _ (by decide) rfl (Column.timestamp Schema.createdColumn)
    (by decide)
  have hblank : isBlank (some (.str "31/12/2023")) = false := by decide
  rcases hdate with hnone | ⟨t, ht⟩
  · exact Bool.false_ne_true (hblank.symm.trans hnone)
  · -- every normal form has a dash
    have hdash : '-' ∈ t.format.toList := by simp [Instant.format, Instant.formatChars]
    rw [← Json.str.inj (Option.some.inj ht)] at hdash
    exact absurd hdash (by decide)

end Daybook.Sync
