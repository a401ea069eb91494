import Daybook.Proofs.Sync.Merge
import Daybook.Proofs.Sync.Recovery

/-!
# Sync as a merge by keys

A sync that knows of one before merges the records that were changed since with the rows that are
there: the last record of a key is the content of its row, a record without a key gets a row under
a new identifier, and everything else stays as it is (**`sync_merges`**).

* `HasKey`, `IsRowOf`: the key of a record, and the one row of a key;
* `Merged`: what a merge makes of a table;
* `selected`: the records that a sync takes over.
-/

namespace Daybook

/-! ## Records that were changed since -/

/-- The records of a table that were changed after an instant. -/
theorem Document.table?_updatedAfter (d : Document) (cursor : Calendar.Instant) (name : String) :
    (d.updatedAfter cursor).table? name = (d.table? name).map (List.filter (isAfter cursor)) :=
  KeyMap.get?_map _ _ _

namespace Sync

open Sql Store Daybook.Sync.Action

variable {s : Schema} {key : Column} {record : Record} {t t' : Table}

/-! ## Keys and rows -/

/-- The record has the key: it is not missing, and is stored so. -/
def HasKey (key : Column) (k : Cell) (record : Record) : Prop :=
  isMissingKey (record.get? key.name) = false ∧ cellFor key record = k

/-- The row is the one of the key. -/
def IsRowOf (t : Table) (key : Column) (k : Cell) (row : Row) : Prop :=
  ∀ r, r ∈ t.rows ∧ t.cellOf r.cells key.name = k ↔ r = row

/-- Identifiers for the records of a table that are new: they differ from each other, and no record
and no row has one of them as its key. -/
structure AreNew (key : Column) (fresh : Nat → String) (n : Nat) (records : List Record)
    (t : Table) : Prop where
  apart : ∀ i j, i < j → j < n → fresh i ≠ fresh j
  records : ∀ i < n, ∀ r ∈ records, ¬ HasKey key (.text (fresh i)) r
  rows : ∀ i < n, ∀ row ∈ t.rows, t.cellOf row.cells key.name ≠ .text (fresh i)

theorem AreNew.skip {m : Moment} {n k : Nat} {records : List Record}
    (h : AreNew key m.freshId n records t) (hk : k + records.length ≤ n) :
    AreNew key (m.skip k).freshId records.length records t := by
  refine ⟨fun i j hij hj => ?_, fun i hi => ?_, fun i hi => ?_⟩
  · exact h.apart (k + i) (k + j) (by omega) (by omega)
  · exact h.records (k + i) (by omega)
  · exact h.rows (k + i) (by omega)

/-! ## Merges -/

/-- What a merge of records makes of the rows of a table. -/
structure Merged (s : Schema) (key : Column) (fresh : Nat → String) (records : List Record)
    (t t' : Table) : Prop where
  alike : t.Alike t'
  /-- The last record of a key is the content of its row. -/
  keyed : ∀ {before record after k}, records = before ++ record :: after → HasKey key k record →
    (∀ r ∈ after, ¬ HasKey key k r) →
    ∃ row, IsRowOf t' key k row ∧ ∀ c ∈ s.columns, HoldsValue true t' record row c
  /-- A record without a key is the content of a row of its own. -/
  keyless : ∀ {i record}, records[i]? = some record → isMissingKey (record.get? key.name) →
    ∃ row, IsRowOf t' key (.text (fresh i)) row ∧
      ∀ c ∈ s.columns, c.name ≠ key.name → HoldsValue true t' record row c
  /-- A row stays as it is where no record has its key. -/
  stays : ∀ row ∈ t.rows, (∀ r ∈ records, ¬ HasKey key (t.cellOf row.cells key.name) r) →
    row ∈ t'.rows
  /-- A row that was not there is one of a record. -/
  added : ∀ row ∈ t'.rows, row ∈ t.rows ∨
    (∃ r ∈ records, HasKey key (t'.cellOf row.cells key.name) r) ∨
    ∃ i r, records[i]? = some r ∧ isMissingKey (r.get? key.name) ∧
      t'.cellOf row.cells key.name = .text (fresh i)
  /-- No row disappears: its key has a row. -/
  lasts : ∀ row ∈ t.rows,
    ∃ row' ∈ t'.rows, t'.cellOf row'.cells key.name = t.cellOf row.cells key.name

/-- The key with which a record is written is its own, or the identifier that is new. -/
theorem writtenKey_eq_iff (m : Moment) (i : Nat) (record : Record) (k : Cell) :
    writtenKey m key i record = k ↔ HasKey key k record ∨
      isMissingKey (record.get? key.name) ∧ k = .text (m.freshId i) := by
  rw [writtenKey, HasKey]
  cases isMissingKey (record.get? key.name) <;> simp [eq_comm]

/-- Where some item of a list has a property, there is a last one that has it. -/
theorem exists_last {α : Type} {P : Nat → α → Prop} {xs : List α} {i : Nat} {x : α}
    (hx : xs[i]? = some x) (hp : P i x) :
    ∃ j y, xs[j]? = some y ∧ P j y ∧ ∀ k z, j < k → xs[k]? = some z → ¬ P k z := by
  induction hn : xs.length - i using Nat.strong_induction_on generalizing i x with
  | _ n ih =>
    by_cases hlater : ∃ k z, i < k ∧ xs[k]? = some z ∧ P k z
    · obtain ⟨k, z, hik, hz, hpz⟩ := hlater
      obtain ⟨hlt, -⟩ := List.getElem?_eq_some_iff.1 hz
      exact ih (xs.length - k) (by omega) hz hpz rfl
    · exact ⟨i, x, hx, hp, fun k z hk hz hpz => hlater ⟨k, z, hk, hz, hpz⟩⟩

section Written

variable {m : Moment} {records : List Record} (h : Written s key m true records t t')

include h

/-- The row with the key of a record is the only one. -/
theorem Written.isRowOf (hs : s.Mergeable) (hkey : s.key? = some key) {i : Nat} {row : Row}
    (hrow : row ∈ t'.rows) (hid : t'.cellOf row.cells key.name = writtenKey m key i record) :
    IsRowOf t' key (writtenKey m key i record) row := by
  intro r
  constructor
  · rintro ⟨hr, hk⟩
    obtain ⟨id, htext⟩ := exists_writtenKey (hs.type_key hkey) m i record
    exact hs.eq_of_key h.serves hkey hr hrow (hk.trans htext) (hid.trans htext)
  · rintro rfl
    exact ⟨hrow, hid⟩

/-- Every row that was there has one with its key. -/
theorem Written.lasts {row : Row} (hmem : row ∈ t.rows) :
    ∃ row' ∈ t'.rows, t'.cellOf row'.cells key.name = t.cellOf row.cells key.name := by
  by_cases hkeys : ∃ i r, records[i]? = some r ∧
      writtenKey m key i r = t.cellOf row.cells key.name
  · obtain ⟨i, r, hr, hsame⟩ := hkeys
    obtain ⟨j, r', hr', hsame', hlast⟩ := exists_last
      (P := fun i r => writtenKey m key i r = t.cellOf row.cells key.name) hr hsame
    obtain ⟨row', hmem', hid, -⟩ := h.last hr' fun k z hk hz => hsame' ▸ hlast k z hk hz
    exact ⟨row', hmem', hid.trans hsame'⟩
  · exact ⟨row, (h.others fun i r hr hsame => hkeys ⟨i, r, hr, hsame⟩).2 hmem,
      h.alike.cellOf_eq _ _⟩

/-- **What is written with new identifiers is merged.** -/
theorem Written.merged (hs : s.Mergeable) (hkey : s.key? = some key)
    (hnew : AreNew key m.freshId records.length records t) :
    Merged s key m.freshId records t t' := by
  have hlt : ∀ {i r}, records[i]? = some r → i < records.length := fun hi =>
    (List.getElem?_eq_some_iff.1 hi).1
  refine ⟨h.alike, ?keyed, ?keyless, ?stays, ?added, fun row => h.lasts⟩
  case keyed =>
    rintro before record after k rfl hhas hafter
    have hi : (before ++ record :: after)[before.length]? = some record := by
      rw [List.getElem?_append_right (Nat.le_refl _), Nat.sub_self, List.getElem?_cons_zero]
    have hk := (writtenKey_eq_iff m before.length record k).2 (.inl hhas)
    obtain ⟨row, hmem, hid, hvalues⟩ := h.last hi fun j r hj hr hsame => by
      rw [hk, writtenKey_eq_iff] at hsame
      rcases hsame with hown | ⟨-, hfresh⟩
      · rw [List.getElem?_append_right (by omega), List.getElem?_cons,
          if_neg (by omega)] at hr
        exact hafter r (List.mem_of_getElem? hr) hown
      · exact hnew.records j (hlt hr) record (List.mem_of_getElem? hi) (hfresh ▸ hhas)
    exact ⟨row, hk ▸ h.isRowOf hs hkey hmem hid, fun c hc => hvalues c hc fun _ => hhas.1⟩
  case keyless =>
    intro i record hi hmissing
    have hk : writtenKey m key i record = .text (m.freshId i) :=
      (writtenKey_eq_iff m i record _).2 (.inr ⟨hmissing, rfl⟩)
    obtain ⟨row, hmem, hid, hvalues⟩ := h.last hi fun j r hj hr hsame => by
      rw [hk, writtenKey_eq_iff] at hsame
      rcases hsame with hown | ⟨-, hfresh⟩
      · exact hnew.records i (hlt hi) r (List.mem_of_getElem? hr) hown
      · exact hnew.apart i j hj (hlt hr) (Cell.text.inj hfresh)
    exact ⟨row, hk ▸ h.isRowOf hs hkey hmem hid, fun c hc hname =>
      hvalues c hc fun h => absurd h hname⟩
  case stays =>
    intro row hmem hothers
    refine (h.others fun i r hr hsame => ?_).2 hmem
    rcases (writtenKey_eq_iff m i r _).1 hsame with hown | ⟨-, hfresh⟩
    · exact hothers r (List.mem_of_getElem? hr) hown
    · exact hnew.rows i (hlt hr) row hmem hfresh
  case added =>
    intro row hmem
    by_contra hnone
    simp only [not_or] at hnone
    obtain ⟨hold, hown, hfresh⟩ := hnone
    refine hold ((h.others fun i r hr hsame => ?_).1 hmem)
    rw [← h.alike.cellOf_eq] at hsame
    rcases (writtenKey_eq_iff m i r _).1 hsame with hhas | ⟨hmissing, hk⟩
    · exact hown ⟨r, List.mem_of_getElem? hr, hhas⟩
    · exact hfresh ⟨i, r, hr, hmissing, hk⟩

end Written

/-! ## Syncs -/

/-- The records of a document for a schema that were changed after an instant. -/
def selected (document : Document) (cursor : Calendar.Instant) (s : Schema) : List Record :=
  (recordsFor document s).filter (Document.isAfter cursor)

theorem recordsFor_updatedAfter (d : Document) (cursor : Calendar.Instant) (s : Schema) :
    recordsFor (d.updatedAfter cursor) s = selected d cursor s := by
  rw [recordsFor, Document.table?_updatedAfter, selected, recordsFor]
  cases d.table? s.table <;> rfl

/-- **Sync is a merge by keys.** If a sync that knows of one before succeeds, it has merged the
records that were changed since into the tables of the schemas, as long as the identifiers that it
made up for them are new, and has left all other tables as they were. -/
theorem sync_merges {r : Schema.Registry} (hschemas : ∀ s ∈ r.schemas, s.Mergeable)
    (htables : (r.schemas.map fun s => upper s.table).Nodup) {config : SyncConfig}
    {d d' : Device Storage} (hserved : ∀ s ∈ r.schemas, IsServed d.database s)
    {cursor : Calendar.Instant} (hcursor : cursor? d.settings = some cursor) {m : Moment}
    {token : String} {report : ImportReport}
    (hsync : (sync ⟨Storage.engine, r, config⟩ m token).run d = .ok report d') :
    ∃ info document, Downloads ⟨Storage.engine, r, config⟩ token d info document ∧
      (∀ s ∈ r.schemas, ∀ key, s.key? = some key → ∃ t t' normalized k,
        d.database.table? s.table = some t ∧ d'.database.table? s.table = some t' ∧
        Normalized s (selected document cursor s) normalized ∧
        (AreNew key m.freshId (r.schemas.map fun s => (selected document cursor s).length).sum
          normalized t → Merged s key (m.skip k).freshId normalized t t')) ∧
      ∀ name, (∀ s ∈ r.schemas, ¬ sameName s.table name) →
        d'.database.table? name = d.database.table? name := by
  obtain ⟨info, document, st, hdownloads, himport, rfl⟩ := sync_eq_ok_iff.1 hsync
  rw [importOf, hcursor] at himport
  obtain ⟨d₁, _, hnormal, rfl, hwrite⟩ := run_importAll_eq_ok himport
  have hframe := (run_writeTables_eq_ok htables hserved hwrite).2
  refine ⟨info, document, hdownloads, ?_, hframe⟩
  intro s hs key hkey
  obtain ⟨t, ht, -⟩ := hserved s hs
  obtain ⟨t', k, ht', hk, hwritten⟩ :=
    written_of_writeTables hschemas htables hserved hwrite hs ht hkey
  have hnormalized := normalized_recordsFor (nodup_tables htables) hnormal hs
  rw [recordsFor_updatedAfter] at hnormalized
  refine ⟨t, t', _, k, ht, ht', hnormalized, fun hnew => ?_⟩
  refine hwritten.merged (hschemas s hs) hkey (AreNew.skip ?_ hk)
  have hcount : countFor d₁ r.schemas =
      (r.schemas.map fun s => (selected document cursor s).length).sum := by
    rw [countFor_of_normalizeTables (nodup_tables htables) hnormal, countFor]
    congr 1
    exact List.map_congr_left fun s _ => by rw [recordsFor_updatedAfter]
  rwa [hcount]

/-! ## A note that was changed since -/

/-- The settings of a device that made a sync in May. -/
def maySettings : Json := withSyncDate "2024-05-01T00:00:00.000Z" Settings.defaults

/-- A device with an older state of the note, which made a sync in May. -/
def mayDevice (r : RemoteStore) : Device Storage where
  database := noteTables "2024-04-01"
  settings := maySettings
  remote := r

theorem remote_mayDevice (r : RemoteStore) : (mayDevice r).remote = r := rfl

/-- What the device has and selects, and that it can import it. -/
theorem runs_mayDevice :
    ((noteTables "2024-04-01").table? Schema.note.table).map (fun t =>
      t.rows.map fun row => t.cellOf row.cells Schema.idColumn.name) = some [.text "a"] ∧
    (cursor? maySettings).map (fun cursor => (selected (documentOf "2024-05-06") cursor Schema.note,
      (Schema.models.map fun s => (selected (documentOf "2024-05-06") cursor s).length).sum)) =
        some ([noteRecord "2024-05-06"], 1) ∧
    (normalizeDates Schema.note (noteRecord "2024-05-06")).toOption =
      some (noteRecord "2024-05-06T00:00:00.000Z") ∧
    ((importOf (household {}) someMoment maySettings (documentOf "2024-05-06")).run
      Storage.engine (noteTables "2024-04-01")).1.toOption.isSome := by
  decide +kernel

theorem isServed_mayDevice (r : RemoteStore) :
    ∀ s ∈ Schema.models, IsServed (mayDevice r).database s := by
  intro s hs
  obtain ⟨c, hc, hserves⟩ := (kept_noteTables "2024-04-01").serves Schema.portable_models
    models_ne_nil nodup_models
  obtain ⟨t, ht, hserve, -⟩ := hserves s hs
  refine ⟨t, ?_, hserve⟩
  rw [mayDevice, Storage.table?, hc]
  exact ht

theorem sync_mayDevice {r r' : RemoteStore}
    (hread : Document.ofGzip (documentOf "2024-05-06").toGzip = .ok (documentOf "2024-05-06"))
    (hremote : (mayDevice r).remote = holding (household {}) r' (documentOf "2024-05-06")) :
    ∃ report b', (sync (household {}) someMoment "t").run (mayDevice r) = .ok report b' := by
  have himport := runs_mayDevice.2.2.2
  have hrun : ∃ report st, (importOf (household {}) someMoment (mayDevice r).settings
      (documentOf "2024-05-06")).run (household {}).engine (mayDevice r).database =
        (.ok report, st) := by
    dsimp only [mayDevice, household] at himport ⊢
    revert himport
    generalize Program.run _ _ _ = result
    rcases result with ⟨e | report, st⟩
    · exact fun h => nomatch h
    · exact fun _ => ⟨report, st, rfl⟩
  obtain ⟨report, st, hrun⟩ := hrun
  exact ⟨report, _, (sync_eq_ok_iff_of_holding hread hremote).2 ⟨st, hrun, rfl⟩⟩

/-- The identifiers of the moment are new to the note. -/
theorem areNew_note {t : Table}
    (hrows : (t.rows.map fun row => t.cellOf row.cells Schema.idColumn.name) = [.text "a"]) :
    AreNew Schema.idColumn someMoment.freshId 1 [noteRecord "2024-05-06T00:00:00.000Z"] t := by
  refine ⟨fun i j hij hj => ?_, fun i _ r hr hhas => ?_, fun i _ row hrow hid => ?_⟩
  · omega
  · rw [List.mem_singleton.1 hr] at hhas
    exact ne_identifier i (Cell.text.inj hhas.2)
  · have hmem := List.mem_map_of_mem (f := fun row => t.cellOf row.cells Schema.idColumn.name) hrow
    rw [hrows, List.mem_singleton, hid] at hmem
    exact ne_identifier i (Cell.text.inj hmem).symm

/-- The newer note of a backup takes the place of the older one. -/
theorem sync_merges_newerNote : ∃ info a',
    (backup (household {}) someMoment "t").run (deviceOf (noteTables "2024-05-06") {}) =
      .ok info a' ∧
    ∃ report b', (sync (household {}) someMoment "t").run (mayDevice a'.remote) = .ok report b' ∧
      ∃ t row, b'.database.table? Schema.note.table = some t ∧
        IsRowOf t Schema.idColumn (.text "a") row ∧
        t.cellOf row.cells Schema.updatedColumn = .text "2024-05-06T00:00:00.000Z" := by
  obtain ⟨-, -, -, hexport⟩ := runs_noteTables
  obtain ⟨hrows, hselected, hdates, -⟩ := runs_mayDevice
  obtain ⟨info, a', hbackup⟩ := run_backup_deviceOf hexport someMoment "t"
  have hremote := (remote_mayDevice a'.remote).trans
    (remote_of_backup (keyed_deviceOf _) hbackup (run_exportAll_deviceOf hexport {}))
  have hread := Document.ofGzip_toGzip rfl readsBack_note
  obtain ⟨report, b', hsync⟩ := sync_mayDevice hread hremote
  refine ⟨info, a', hbackup, report, b', hsync, ?_⟩
  obtain ⟨cursor, hcursor, hlists⟩ := Option.map_eq_some_iff.1 hselected
  obtain ⟨hlist, hcount⟩ := Prod.mk.inj hlists
  obtain ⟨found, document, hdownloads, hmerged, -⟩ :=
    sync_merges (r := ⟨Schema.models⟩) (d := mayDevice a'.remote)
      (fun s hs => (Schema.portable_models s hs).mergeable) nodup_models (isServed_mayDevice _)
      hcursor hsync
  obtain ⟨-, rfl⟩ := (downloads_iff_of_holding hread hremote).1 hdownloads
  obtain ⟨t, t', normalized, k, ht, ht', hnormalized, hmerged⟩ :=
    hmerged Schema.note (by decide) Schema.idColumn (by decide)
  have hdate : normalizeDates Schema.note (noteRecord "2024-05-06") =
      .ok (noteRecord "2024-05-06T00:00:00.000Z") := by
    revert hdates
    generalize normalizeDates Schema.note (noteRecord "2024-05-06") = result
    rcases result with e | r
    · exact fun h => nomatch h
    · exact fun h => congrArg Except.ok (Option.some.inj h)
  obtain rfl : normalized = [noteRecord "2024-05-06T00:00:00.000Z"] := by
    rw [hlist, Normalized, List.forall₂_cons_left_iff] at hnormalized
    obtain ⟨r, rest, hr, hrest, rfl⟩ := hnormalized
    rw [List.forall₂_nil_left_iff.1 hrest, Except.ok.inj (hr.symm.trans hdate)]
  have hkeys : (t.rows.map fun row => t.cellOf row.cells Schema.idColumn.name) = [.text "a"] := by
    dsimp only [mayDevice] at ht
    rw [ht] at hrows
    exact Option.some.inj hrows
  have hmerge := hmerged (by rw [hcount]; exact areNew_note hkeys)
  obtain ⟨row, hrow, hvalues⟩ := hmerge.keyed (List.nil_append _).symm ⟨rfl, rfl⟩
    fun r hr => absurd hr List.not_mem_nil
  refine ⟨t', row, ht', hrow, ?_⟩
  obtain ⟨a, ha, hcell⟩ := hvalues (Column.timestamp Schema.updatedColumn) (by decide)
    (.str "2024-05-06T00:00:00.000Z") rfl
  rw [← Except.ok.inj ha] at hcell
  exact hcell

end Sync
end Daybook
