import Daybook.Proofs.Sync.Incremental

/-!
# Records that are newer than the last sync

A sync takes over the records of a backup that were changed after the last sync, or all of them if
it knows of none. The last of them that has an identifier is the content of the row of that
identifier afterwards (**`hasContent_of_importOf`**), whether the records take the place of all that
was there or are merged with it.

* `isTaken`, `taken`: the records that a sync takes over;
* `HasContent`: a row holds the content of a record.
-/

namespace Daybook.Sync

open Sql Store

variable {s : Schema} {key : Column}

/-- A sync takes over the record: it was changed after the last sync, if there was one. -/
def isTaken (settings : Json) (record : Record) : Bool :=
  (cursor? settings).all fun cursor => Document.isAfter cursor record

/-- The records of a document for a schema that a sync takes over. -/
def taken (settings : Json) (document : Document) (s : Schema) : List Record :=
  (recordsFor document s).filter (isTaken settings)

theorem taken_of_none {settings : Json} (h : cursor? settings = none) (document : Document)
    (s : Schema) : taken settings document s = recordsFor document s := by
  refine List.filter_eq_self.2 fun record _ => ?_
  rw [isTaken, h]
  rfl

theorem taken_of_some {settings : Json} {cursor : Calendar.Instant}
    (h : cursor? settings = some cursor) (document : Document) (s : Schema) :
    taken settings document s = selected document cursor s := by
  refine List.filter_congr fun record _ => ?_
  rw [isTaken, h]
  rfl

/-- The row of an identifier holds the content of a record, its dates in one layout. -/
def HasContent (s : Schema) (key : Column) (merging : Bool) (st : Storage) (id : String)
    (record : Record) : Prop :=
  ∃ normalized, normalizeDates s record = .ok normalized ∧
    ∃ t row, st.table? s.table = some t ∧ IsRowOf t key (.text id) row ∧
      ∀ c ∈ s.columns, HoldsValue merging t normalized row c

/-! ## What an import writes -/

/-- **What a sync writes to a table**: the records that it takes over. -/
theorem written_of_importOf {setup : Setup Storage}
    (hschemas : ∀ s ∈ setup.registry.schemas, s.Portable)
    (htables : (setup.registry.schemas.map fun s => upper s.table).Nodup) {st st' : Storage}
    (hserved : ∀ s ∈ setup.registry.schemas, IsServed st s) {m : Moment} {settings : Json}
    {document : Document} {report : ImportReport}
    (hrun : (importOf setup m settings document).run Storage.engine st = (.ok report, st'))
    (hs : s ∈ setup.registry.schemas) (hkey : s.key? = some key) :
    ∃ records t t' k, Normalized s (taken settings document s) records ∧
      st'.table? s.table = some t' ∧
      Written s key (m.skip k) (cursor? settings).isSome records t t' := by
  have hmergeable := fun s hs => (hschemas s hs).mergeable
  have hnames := nodup_tables htables
  rw [importOf] at hrun
  cases hcursor : cursor? settings with
  | none =>
    rw [hcursor] at hrun
    obtain ⟨d', st₁, hnormal, hclear, hwrite⟩ := run_importAll_eq_ok hrun
    rw [if_pos rfl] at hclear
    obtain ⟨st₂, hclear', hcleared, -⟩ := run_clearAll (fun s hs => (hschemas s hs).hasNames)
      htables fun s hs => by
        obtain ⟨t, ht, -⟩ := hserved s hs
        rw [ht]
        rfl
    obtain ⟨-, rfl⟩ := Prod.mk.inj (hclear.symm.trans hclear')
    have hempty : ∀ s ∈ setup.registry.schemas, IsServed st₁ s := by
      intro s hs
      obtain ⟨t, ht, hserve⟩ := hserved s hs
      exact ⟨{ t with rows := [] }, hcleared s hs t ht,
        hserve.change ⟨[], rfl⟩ (Table.sound_of_rows_eq_nil rfl)⟩
    obtain ⟨t, ht, -⟩ := hempty s hs
    obtain ⟨t', k, ht', -, hwritten⟩ :=
      written_of_writeTables hmergeable htables hempty hwrite hs ht hkey
    rw [taken_of_none hcursor]
    exact ⟨_, t, t', k, normalized_recordsFor hnames hnormal hs, ht', hwritten⟩
  | some cursor =>
    rw [hcursor] at hrun
    obtain ⟨d', _, hnormal, rfl, hwrite⟩ := run_importAll_eq_ok hrun
    obtain ⟨t, ht, -⟩ := hserved s hs
    obtain ⟨t', k, ht', -, hwritten⟩ :=
      written_of_writeTables hmergeable htables hserved hwrite hs ht hkey
    have hnormalized := normalized_recordsFor hnames hnormal hs
    rw [recordsFor_updatedAfter] at hnormalized
    rw [taken_of_some hcursor]
    exact ⟨_, t, t', k, hnormalized, ht', hwritten⟩

/-- The records before and after one that is taken over. -/
theorem taken_eq_append {settings : Json} {document : Document} {before after : List Record}
    {record : Record} (h : recordsFor document s = before ++ record :: after)
    (htaken : isTaken settings record) :
    taken settings document s = before.filter (isTaken settings) ++
      record :: after.filter (isTaken settings) := by
  rw [taken, h, List.filter_append, List.filter_cons_of_pos htaken]

/-- **A record that a sync takes over is the content of its row afterwards**, unless a later one
has the same identifier. -/
theorem hasContent_of_importOf {setup : Setup Storage}
    (hschemas : ∀ s ∈ setup.registry.schemas, s.Portable)
    (htables : (setup.registry.schemas.map fun s => upper s.table).Nodup) {st st' : Storage}
    (hserved : ∀ s ∈ setup.registry.schemas, IsServed st s) {m : Moment} {settings : Json}
    {document : Document} {report : ImportReport}
    (hrun : (importOf setup m settings document).run Storage.engine st = (.ok report, st'))
    (hs : s ∈ setup.registry.schemas) (hkey : s.key? = some key) {before after : List Record}
    {record : Record} (hrecords : recordsFor document s = before ++ record :: after)
    (htaken : isTaken settings record) {id : String}
    (hid : record.get? key.name = some (.str id)) (hne : id ≠ "") (hfresh : ∀ i, m.freshId i ≠ id)
    (hlater : ∀ r ∈ after, isTaken settings r → ¬ HasKey key (.text id) r) :
    HasContent s key (cursor? settings).isSome st' id record := by
  have hportable := hschemas s hs
  have htype := hportable.mergeable.type_key hkey
  obtain ⟨records, t, t', k, hnormalized, ht', hwritten⟩ :=
    written_of_importOf hschemas htables hserved hrun hs hkey
  rw [taken_eq_append hrecords htaken] at hnormalized
  obtain ⟨us, normalized, vs, rfl, hrecord, hvs⟩ :=
    Result.exists_of_forall₂_append_cons hnormalized
  have hkeyOf : ∀ {r r'}, normalizeDates s r = .ok r' → ∀ k, HasKey key k r' ↔ HasKey key k r := by
    intro r r' h k
    rw [HasKey, HasKey, cellFor, cellFor, get?_key_of_normalizeDates hportable hkey h]
  have hhas : HasKey key (.text id) normalized := by
    rw [hkeyOf hrecord]
    refine ⟨?_, cellFor_of_text htype hid⟩
    rw [hid]
    simpa [isMissingKey] using hne
  have hi : (us ++ normalized :: vs)[us.length]? = some normalized := by
    rw [List.getElem?_append_right (Nat.le_refl _), Nat.sub_self, List.getElem?_cons_zero]
  have hwrittenKey := (writtenKey_eq_iff (m.skip k) us.length normalized _).2 (.inl hhas)
  obtain ⟨row, hrow, hcell, hvalues⟩ := hwritten.last hi fun j r hj hr hsame => by
    rw [hwrittenKey, writtenKey_eq_iff] at hsame
    rcases hsame with hown | ⟨-, hnew⟩
    · rw [List.getElem?_append_right (by omega), List.getElem?_cons, if_neg (by omega)] at hr
      obtain ⟨r', hr', hdates⟩ := (Result.exists_of_forall₂ hvs).1 r (List.mem_of_getElem? hr)
      obtain ⟨hmem, htaken'⟩ := List.mem_filter.1 hr'
      exact hlater r' hmem htaken' ((hkeyOf hdates _).1 hown)
    · exact hfresh (k + j) (Cell.text.inj hnew).symm
  rw [hwrittenKey] at hcell
  refine ⟨normalized, hrecord, t', row, ht', fun r => ?_, fun c hc => hvalues c hc fun _ => hhas.1⟩
  constructor
  · rintro ⟨hr, hk⟩
    exact hportable.mergeable.eq_of_key hwritten.serves hkey hr hrow hk hcell
  · rintro rfl
    exact ⟨hrow, hcell⟩

end Daybook.Sync
