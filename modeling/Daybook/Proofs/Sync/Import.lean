import Daybook.Proofs.Store.Batch
import Daybook.Proofs.Store.Run
import Daybook.Proofs.Sync.Portable
import Daybook.Sync.Transfer

/-!
# How an import goes

An import normalizes the records of all tables, clears the tables, and writes them. The first step
succeeds if every record can be normalized (`normalizeTables_isOk`), the second always does
(`run_clearAll`), and the third writes each table once, up to the first that is refused
(**`run_writeTables`**).

* `normalizeTables_eq_ok`: the tables of a normalized document;
* `run_importAll_eq_ok`: an import that succeeds, step by step;
* `run_deleteAll`, `run_clearAll`: cleared tables;
* `IsServed`, `recordsFor`, `Normalized`: tables that are written, and their records;
* `WrittenOnce`, `WrittenUntil`: one table that is written, and all up to the end;
* `run_writeTables_eq_ok`: tables that are all written.
-/

namespace Daybook.Sync

open Sql

/-! ## Normalizing tables -/

/-- **What a normalized document holds.** Tables without a schema stay as they are. -/
theorem normalizeTables_eq_ok {schemas : List Schema} (hnames : (schemas.map Schema.table).Nodup)
    {d d' : Document} (h : normalizeTables schemas d = .ok d') :
    (∀ s ∈ schemas, ∀ records, d.table? s.table = some records →
      ∃ rs, records.mapM (normalizeDates s) = .ok rs ∧ d'.table? s.table = some rs) ∧
    (∀ s ∈ schemas, d.table? s.table = none → d'.table? s.table = none) ∧
    ∀ name, (∀ s ∈ schemas, s.table ≠ name) → d'.table? name = d.table? name := by
  induction schemas generalizing d with
  | nil =>
    rw [← Except.ok.inj h]
    exact ⟨fun s hs => absurd hs List.not_mem_nil, fun s hs => absurd hs List.not_mem_nil,
      fun _ _ => rfl⟩
  | cons s rest ih =>
    rw [List.map_cons, List.nodup_cons] at hnames
    have hne : ∀ s' ∈ rest, s'.table ≠ s.table := fun s' hs' hname =>
      hnames.1 (List.mem_map.2 ⟨s', hs', hname⟩)
    rw [normalizeTables] at h
    split at h
    · rename_i hnone
      obtain ⟨hsome, hnone', hothers⟩ := ih hnames.2 h
      refine ⟨fun s' hs' records hrecords => ?_, fun s' hs' hn => ?_, fun name hname => ?_⟩
      · rcases List.mem_cons.1 hs' with rfl | hs'
        · exact nomatch hnone.symm.trans hrecords
        · exact hsome s' hs' records hrecords
      · rcases List.mem_cons.1 hs' with rfl | hs'
        · exact (hothers _ hne).trans hn
        · exact hnone' s' hs' hn
      · exact hothers name fun s' hs' => hname s' (List.mem_cons_of_mem _ hs')
    · rename_i records hrecords
      obtain ⟨rs, hrs, h⟩ := Result.bind_eq_ok_iff.1 h
      obtain ⟨hsome, hnone', hothers⟩ := ih hnames.2 h
      have hget : ∀ name, name ≠ s.table →
          (d.insert s.table rs).table? name = d.table? name := fun name hname =>
        KeyMap.get?_insert_of_ne _ _ hname
      refine ⟨fun s' hs' records' hrecords' => ?_, fun s' hs' hn => ?_, fun name hname => ?_⟩
      · rcases List.mem_cons.1 hs' with rfl | hs'
        · rw [Option.some.inj (hrecords'.symm.trans hrecords)]
          exact ⟨rs, hrs, (hothers _ hne).trans (KeyMap.get?_insert_self _ _ _)⟩
        · exact hsome s' hs' records' ((hget _ (hne s' hs')).trans hrecords')
      · rcases List.mem_cons.1 hs' with rfl | hs'
        · exact nomatch hn.symm.trans hrecords
        · exact hnone' s' hs' ((hget _ (hne s' hs')).trans hn)
      · rw [hothers name fun s' hs' => hname s' (List.mem_cons_of_mem _ hs')]
        exact hget name (hname s List.mem_cons_self).symm

theorem normalizeTables_isOk {schemas : List Schema} (hnames : (schemas.map Schema.table).Nodup)
    {d : Document} (h : ∀ s ∈ schemas, ∀ records, d.table? s.table = some records →
      ∃ rs, records.mapM (normalizeDates s) = .ok rs) :
    ∃ d', normalizeTables schemas d = .ok d' := by
  induction schemas generalizing d with
  | nil => exact ⟨d, rfl⟩
  | cons s rest ih =>
    rw [List.map_cons, List.nodup_cons] at hnames
    rw [normalizeTables]
    split
    · exact ih hnames.2 fun s' hs' => h s' (List.mem_cons_of_mem _ hs')
    · rename_i records hrecords
      obtain ⟨rs, hrs⟩ := h s List.mem_cons_self records hrecords
      obtain ⟨d', hd'⟩ := ih hnames.2 (d := d.insert s.table rs) fun s' hs' records' hrecords' => by
        have hname : s'.table ≠ s.table := fun hname =>
          hnames.1 (List.mem_map.2 ⟨s', hs', hname⟩)
        have hget : (d.insert s.table rs).table? s'.table = d.table? s'.table :=
          KeyMap.get?_insert_of_ne _ _ hname
        exact h s' (List.mem_cons_of_mem _ hs') records' (hget ▸ hrecords')
      exact ⟨d', Result.bind_eq_ok_iff.2 ⟨rs, hrs, hd'⟩⟩

/-! ## The steps of an import -/

/-- The tables of other names are those of the document. -/
theorem table?_erase {s s' : Schema} (h : ¬ sameName s.table s'.table) (d : Document) :
    (⟨d.tables.erase s.table⟩ : Document).table? s'.table = d.table? s'.table := by
  refine KeyMap.get?_erase_of_ne _ fun hname => h ?_
  rw [sameName_iff, hname]

/-- **The steps of an import**, once the records are normalized. -/
theorem importAll_of_normalizeTables {r : Schema.Registry} {m : Moment} {d d' : Document}
    {replace : Bool} (h : normalizeTables r.schemas d = .ok d') :
    importAll r m d replace =
      (if replace then clearAll r.schemas else .done []).bind fun failures =>
        (writeTables m replace r.schemas d' []).bind fun written => .done ⟨written, failures⟩ := by
  rw [importAll, h]
  cases replace <;> rfl

/-- **The steps of an import that succeeds.** -/
theorem run_importAll_eq_ok {r : Schema.Registry} {m : Moment} {d : Document} {replace : Bool}
    {st st' : Storage} {report : ImportReport}
    (h : (importAll r m d replace).run Storage.engine st = (.ok report, st')) :
    ∃ d' st₁, normalizeTables r.schemas d = .ok d' ∧
      (if replace then (clearAll r.schemas).run Storage.engine st = (.ok report.clearFailures, st₁)
        else st₁ = st) ∧
      (writeTables m replace r.schemas d' []).run Storage.engine st₁ =
        (.ok report.written, st') := by
  cases hnormal : normalizeTables r.schemas d with
  | error e =>
    rw [importAll, hnormal] at h
    cases h
  | ok d' =>
    rw [importAll_of_normalizeTables hnormal] at h
    obtain ⟨failures, st₁, hclear, hrest⟩ := Program.run_bind_eq_ok.1 h
    obtain ⟨w, st₂, hwrite, hdone⟩ := Program.run_bind_eq_ok.1 hrest
    obtain ⟨hreport, rfl⟩ := Prod.mk.inj hdone
    rw [← Except.ok.inj hreport]
    refine ⟨d', st₁, rfl, ?_, hwrite⟩
    cases replace with
    | true => exact hclear
    | false => exact (Prod.mk.inj hclear).2.symm

/-! ## Clearing tables -/

variable {st : Storage}

/-- All rows of a table are removed. -/
theorem run_deleteAll {s : Schema} {t : Table} (hs : s.HasNames) (ht : st.table? s.table = some t) :
    ∃ n st', (Store.deleteAll s).run Storage.engine st = (.ok n, st') ∧
      st'.table? s.table = some { t with rows := [] } ∧
      ∀ name, ¬ sameName s.table name → st'.table? name = st.table? name := by
  obtain ⟨c, hc, ht⟩ := Storage.table?_eq_some ht
  have hclash : (Statement.delete s.table (.every [])).clash? = none := by
    have hmarks : (Statement.delete s.table (.every [])).params.length ≤ maxMarks := Nat.zero_le _
    rw [Statement.clash?, if_neg (Nat.not_lt.2 hmarks)]
    simp [hs.tableWord, whereClash?, Condition.clashes?, Condition.chainDepth, maxDepth,
      Target.conditions]
  have hrows : t.deleteRows t.rows = { t with rows := [] } := by
    have hfilter : (t.rows.filter fun r => !t.rows.any fun d => d.id = r.id) = [] := by
      rw [List.filter_eq_nil_iff]
      intro r hr
      rw [Bool.not_eq_true', Bool.not_eq_false, List.any_eq_true]
      exact ⟨r, hr, decide_eq_true rfl⟩
    rw [Table.deleteRows, hfilter]
  have hdelete : c.database.delete? s.table (.every []) =
      .ok (c.database.replaceTable (t.deleteRows t.rows), t.rows.length) :=
    Database.delete?_eq_ok_iff.2
      ⟨t, t.rows, hs.notCatalog, ht, rfl, t.scanRows?_nil t.rows, rfl, rfl⟩
  have hrun : c.database.run? (.delete s.table (.every [])) =
      .ok (c.database.replaceTable { t with rows := [] }, .changed t.rows.length none) := by
    rw [Database.run?, hclash, ← hrows]
    exact Result.map_eq_ok_iff.2 ⟨_, hdelete, rfl⟩
  exact ⟨_, _, Store.run_change_of_run? hc hrun, Storage.table?_keep_replaceTable hc ht rfl⟩

/-- All tables are cleared. -/
theorem run_clearTables {schemas : List Schema} (hschemas : ∀ s ∈ schemas, s.HasNames)
    (htables : (schemas.map fun s => upper s.table).Nodup)
    (hsome : ∀ s ∈ schemas, (st.table? s.table).isSome) :
    ∃ st', (clearTables schemas).run Storage.engine st = (.ok [], st') ∧
      (∀ s ∈ schemas, ∀ t, st.table? s.table = some t →
        st'.table? s.table = some { t with rows := [] }) ∧
      ∀ name, (∀ s ∈ schemas, ¬ sameName s.table name) → st'.table? name = st.table? name := by
  induction schemas generalizing st with
  | nil => exact ⟨st, rfl, fun s hs => absurd hs List.not_mem_nil, fun _ _ => rfl⟩
  | cons s rest ih =>
    obtain ⟨hne, htables'⟩ := nodup_tables_cons_iff.1 htables
    obtain ⟨t, ht⟩ := Option.isSome_iff_exists.1 (hsome s List.mem_cons_self)
    obtain ⟨n, st₁, hrun, ht₁, hothers₁⟩ := run_deleteAll (hschemas s List.mem_cons_self) ht
    obtain ⟨st', hrest, hcleared, hothers⟩ :=
      @ih st₁ (fun s' hs' => hschemas s' (List.mem_cons_of_mem _ hs')) htables' fun s' hs' => by
        rw [hothers₁ _ (hne s' hs')]
        exact hsome s' (List.mem_cons_of_mem _ hs')
    refine ⟨st', ?_, fun s' hs' u hu => ?_, fun name hname => ?_⟩
    · rw [clearTables]
      refine Program.run_bind_eq_ok.2 ⟨.ok n, st₁, ?_,
        Program.run_bind_eq_ok.2 ⟨[], st', hrest, rfl⟩⟩
      rw [Program.run_attempt, hrun]
    · rcases List.mem_cons.1 hs' with rfl | hs'
      · obtain rfl := Option.some.inj (ht.symm.trans hu)
        rw [hothers _ fun s'' hs'' hname => hne s'' hs'' (by rwa [sameName_comm] at hname), ht₁]
      · exact hcleared s' hs' u ((hothers₁ _ (hne s' hs')).trans hu)
    · rw [hothers name fun s' hs' => hname s' (List.mem_cons_of_mem _ hs'),
        hothers₁ name (hname s List.mem_cons_self)]

/-- Space may be given back or not; the tables stay as they are. -/
theorem run_vacuum (st : Storage) :
    ∃ r st', ((Program.ask (.execute (.statement .vacuum))).attempt).run Storage.engine st =
      (.ok r, st') ∧ ∀ name, st'.table? name = st.table? name := by
  rw [Program.run_attempt, Program.run_ask]
  refine ⟨_, _, rfl, fun name => ?_⟩
  show (st.onScript (.statement .vacuum)).2.table? name = st.table? name
  cases hc : st.opened with
  | error e => rw [Storage.onScript, hc]
  | ok c =>
    rw [Storage.onScript_eq hc, Storage.table?, Storage.table?, hc]
    rfl

/-- **An import that replaces finds its tables cleared.** -/
theorem run_clearAll {schemas : List Schema} (hschemas : ∀ s ∈ schemas, s.HasNames)
    (htables : (schemas.map fun s => upper s.table).Nodup)
    (hsome : ∀ s ∈ schemas, (st.table? s.table).isSome) :
    ∃ st', (clearAll schemas).run Storage.engine st = (.ok [], st') ∧
      (∀ s ∈ schemas, ∀ t, st.table? s.table = some t →
        st'.table? s.table = some { t with rows := [] }) ∧
      ∀ name, (∀ s ∈ schemas, ¬ sameName s.table name) → st'.table? name = st.table? name := by
  obtain ⟨st₁, hrun, hcleared, hothers⟩ := run_clearTables hschemas htables hsome
  obtain ⟨r, st', hvacuum, htable'⟩ := run_vacuum st₁
  refine ⟨st', ?_, fun s hs t ht => ?_, fun name hname => ?_⟩
  · rw [clearAll]
    exact Program.run_bind_eq_ok.2 ⟨[], st₁, hrun,
      Program.run_bind_eq_ok.2 ⟨r, st', hvacuum, rfl⟩⟩
  · rw [htable', hcleared s hs t ht]
  · rw [htable', hothers name hname]

/-! ## Writing tables -/

/-- The table of the schema is there, and serves it. -/
def IsServed (st : Storage) (s : Schema) : Prop :=
  ∃ t, st.table? s.table = some t ∧ t.Serves s

/-- The records of a document for a schema. -/
def recordsFor (d : Document) (s : Schema) : List Record := (d.table? s.table).getD []

theorem forall_recordsFor_iff {d : Document} {s : Schema} {P : Record → Prop} :
    (∀ record ∈ recordsFor d s, P record) ↔
      ∀ records, d.table? s.table = some records → ∀ record ∈ records, P record := by
  rw [recordsFor]
  cases d.table? s.table with
  | none => exact iff_of_true (fun _ h => absurd h List.not_mem_nil) fun _ h => nomatch h
  | some records => simp only [Option.getD_some, Option.some.injEq, forall_eq']

/-- How many records a document has for schemas. -/
def countFor (d : Document) (schemas : List Schema) : Nat :=
  (schemas.map fun s => (recordsFor d s).length).sum

/-- The records, with their dates in one layout. -/
def Normalized (s : Schema) (records normalized : List Record) : Prop :=
  List.Forall₂ (fun record r => normalizeDates s record = .ok r) records normalized

/-- The records of a normalized document. -/
theorem normalized_recordsFor {schemas : List Schema} (hnames : (schemas.map Schema.table).Nodup)
    {d d' : Document} (h : normalizeTables schemas d = .ok d') {s : Schema} (hs : s ∈ schemas) :
    Normalized s (recordsFor d s) (recordsFor d' s) := by
  obtain ⟨hsome, hnone, -⟩ := normalizeTables_eq_ok hnames h
  rw [recordsFor, recordsFor]
  cases hrecords : d.table? s.table with
  | none =>
    rw [hnone s hs hrecords]
    exact .nil
  | some records =>
    obtain ⟨rs, hrs, hget⟩ := hsome s hs records hrecords
    rw [hget]
    exact Result.mapM_eq_ok_iff.1 hrs

theorem countFor_of_normalizeTables {schemas : List Schema}
    (hnames : (schemas.map Schema.table).Nodup) {d d' : Document}
    (h : normalizeTables schemas d = .ok d') : countFor d' schemas = countFor d schemas := by
  rw [countFor, countFor]
  congr 1
  exact List.map_congr_left fun s hs => (normalized_recordsFor hnames h hs).length_eq.symm

/-- The records of a table are written at once, with some of the first `n` identifiers of the
moment, if there are any; what is written to other tables before and after leaves the table as it
is. -/
def WrittenOnce (m : Moment) (n : Nat) (replace : Bool) (st st' : Storage) (s : Schema)
    (records : List Record) : Prop :=
  if records = [] then st'.table? s.table = st.table? s.table
  else ∃ k, k + records.length ≤ n ∧ ∃ count st₁ st₂, st₁.table? s.table = st.table? s.table ∧
    (Store.writeMany s (m.skip k) replace records).run Storage.engine st₁ = (.ok count, st₂) ∧
    st'.table? s.table = st₂.table? s.table

section Tables

variable {s : Schema} {m : Moment} {replace : Bool} {st st₁ st' : Storage} {records : List Record}

/-- Identifiers may be used, and other tables written, before the table is. -/
theorem WrittenOnce.of_skip {j n : Nat} (h : WrittenOnce (m.skip j) n replace st₁ st' s records)
    (htable : st₁.table? s.table = st.table? s.table) :
    WrittenOnce m (j + n) replace st st' s records := by
  rw [WrittenOnce] at h ⊢
  split_ifs at h ⊢
  · exact h.trans htable
  · obtain ⟨k, hk, count, st₂, st₃, hbefore, hrun, hafter⟩ := h
    have hskip : (m.skip j).skip k = m.skip (j + k) := by
      simp only [Moment.skip, Nat.add_assoc]
    rw [hskip] at hrun
    exact ⟨j + k, by omega, count, st₂, st₃, hbefore.trans htable, hrun, hafter⟩

theorem recordsFor_erase {s' : Schema} (h : ¬ sameName s.table s'.table) (d : Document) :
    recordsFor ⟨d.tables.erase s.table⟩ s' = recordsFor d s' := by
  rw [recordsFor, table?_erase h, recordsFor]

/-- How the writing of tables ends in front of some schemas: there are none, or the records for the
first of them are refused. -/
def EndsBefore (m : Moment) (replace : Bool) (st : Storage) (d : Document) (after : List Schema) :
    Except Failure (KeyMap Nat) → Prop
  | .ok _ => after = []
  | .error e => ∃ s rest, after = s :: rest ∧ recordsFor d s ≠ [] ∧
      ∃ k st₁, st₁.table? s.table = st.table? s.table ∧
        ((Store.writeMany s (m.skip k) replace (recordsFor d s)).run Storage.engine st₁).1 = .error e

theorem EndsBefore.of_skip {j : Nat} {d : Document} {after : List Schema}
    {result : Except Failure (KeyMap Nat)}
    (h : EndsBefore (m.skip j) replace st₁ ⟨d.tables.erase s.table⟩ after result)
    (hne : ∀ s' ∈ after, ¬ sameName s.table s'.table)
    (hframe : ∀ s' ∈ after, st₁.table? s'.table = st.table? s'.table) :
    EndsBefore m replace st d after result := by
  cases result with
  | ok w => exact h
  | error e =>
    obtain ⟨s', rest, rfl, hrecords, k, st₂, hbefore, hrun⟩ := h
    have hskip : (m.skip j).skip k = m.skip (j + k) := by
      simp only [Moment.skip, Nat.add_assoc]
    rw [recordsFor_erase (hne s' List.mem_cons_self)] at hrecords hrun
    rw [hskip] at hrun
    exact ⟨s', rest, rfl, hrecords, j + k, st₂, hbefore.trans (hframe s' List.mem_cons_self), hrun⟩

/-- The tables of some schemas are written once and no others, and that is the end of it. -/
structure WrittenUntil (m : Moment) (replace : Bool) (d : Document) (st st' : Storage)
    (result : Except Failure (KeyMap Nat)) (before after : List Schema) : Prop where
  written : ∀ s ∈ before,
    WrittenOnce m (countFor d (before ++ after)) replace st st' s (recordsFor d s)
  ends : EndsBefore m replace st d after result
  others : ∀ name, (∀ s ∈ before, ¬ sameName s.table name) → st'.table? name = st.table? name

theorem countFor_cons {rest : List Schema} (hne : ∀ s' ∈ rest, ¬ sameName s.table s'.table)
    (d : Document) : countFor d (s :: rest) =
      (recordsFor d s).length + countFor ⟨d.tables.erase s.table⟩ rest := by
  rw [countFor, List.map_cons, List.sum_cons, countFor]
  congr 2
  exact List.map_congr_left fun s' hs' => by rw [recordsFor_erase (hne s' hs')]

/-- The first table is written or left out, and then the others are written. -/
theorem WrittenUntil.cons {d : Document} {result : Except Failure (KeyMap Nat)}
    {before after : List Schema} (hne : ∀ s' ∈ before ++ after, ¬ sameName s.table s'.table)
    (hframe : ∀ name, ¬ sameName s.table name → st₁.table? name = st.table? name)
    (hfirst : st'.table? s.table = st₁.table? s.table →
      WrittenOnce m (countFor d (s :: (before ++ after))) replace st st' s (recordsFor d s))
    (h : WrittenUntil (m.skip (recordsFor d s).length) replace ⟨d.tables.erase s.table⟩ st₁ st'
      result before after) :
    WrittenUntil m replace d st st' result (s :: before) after := by
  have hbefore : ∀ s' ∈ before, ¬ sameName s.table s'.table := fun s' hs' =>
    hne s' (List.mem_append_left _ hs')
  have hafter : ∀ s' ∈ after, ¬ sameName s.table s'.table := fun s' hs' =>
    hne s' (List.mem_append_right _ hs')
  refine ⟨List.forall_mem_cons.2 ⟨hfirst ?_, fun s' hs' => ?_⟩,
    h.ends.of_skip hafter fun s' hs' => hframe _ (hafter s' hs'), fun name hname => ?_⟩
  · refine h.others _ fun s' hs' => ?_
    rw [sameName_comm]
    exact hbefore s' hs'
  · have hone := h.written s' hs'
    rw [recordsFor_erase (hbefore s' hs')] at hone
    rw [List.cons_append, countFor_cons hne]
    exact hone.of_skip (hframe _ (hbefore s' hs'))
  · rw [h.others name fun s' hs' => hname s' (List.mem_cons_of_mem _ hs'),
      hframe name (hname s List.mem_cons_self)]

/-- **How tables are written**: each in front of the end once, and no other. -/
theorem run_writeTables {schemas : List Schema}
    (htables : (schemas.map fun s => upper s.table).Nodup)
    (hsound : ∀ s ∈ schemas, ∃ t, st.table? s.table = some t ∧ t.Sound) {d : Document}
    {written : KeyMap Nat} {result : Except Failure (KeyMap Nat)}
    (hrun : (writeTables m replace schemas d written).run Storage.engine st = (result, st')) :
    ∃ before after, schemas = before ++ after ∧
      WrittenUntil m (!replace) d st st' result before after := by
  induction schemas generalizing st m d written with
  | nil =>
    obtain ⟨rfl, rfl⟩ := Prod.mk.inj hrun
    exact ⟨[], [], rfl, fun s hs => absurd hs List.not_mem_nil, rfl, fun _ _ => rfl⟩
  | cons s rest ih =>
    obtain ⟨hne, htables'⟩ := nodup_tables_cons_iff.1 htables
    -- the rest of the tables, once the first is written or left out
    have hrest : ∀ {st₁ written}, (∀ name, ¬ sameName s.table name →
        st₁.table? name = st.table? name) →
        (st'.table? s.table = st₁.table? s.table →
          WrittenOnce m (countFor d (s :: rest)) (!replace) st st' s (recordsFor d s)) →
        (writeTables (m.skip (recordsFor d s).length) replace rest ⟨d.tables.erase s.table⟩
          written).run Storage.engine st₁ = (result, st') →
        ∃ before after, s :: rest = before ++ after ∧
          WrittenUntil m (!replace) d st st' result before after := by
      intro st₁ written hframe hfirst hmore
      obtain ⟨before, after, rfl, huntil⟩ := ih htables' (fun s' hs' => by
        rw [hframe _ (hne s' hs')]
        exact hsound s' (List.mem_cons_of_mem _ hs')) hmore
      exact ⟨s :: before, after, rfl, huntil.cons hne hframe hfirst⟩
    have hzero : m.skip 0 = m := by simp only [Moment.skip, Nat.zero_add]
    have hnothing (hempty : recordsFor d s = [])
        (hmore : (writeTables m replace rest ⟨d.tables.erase s.table⟩ written).run Storage.engine
          st = (result, st')) := by
      refine hrest (fun _ _ => rfl) (fun hsame => ?_) (by rwa [hempty, List.length_nil, hzero])
      rwa [WrittenOnce, if_pos hempty]
    rw [writeTables] at hrun
    split at hrun
    · rename_i hnone
      exact hnothing (by rw [recordsFor, hnone, Option.getD_none]) hrun
    · rename_i hnil
      exact hnothing (by rw [recordsFor, hnil, Option.getD_some]) hrun
    · rename_i records hnonempty hsome
      have hrecords : recordsFor d s = records := by rw [recordsFor, hsome, Option.getD_some]
      obtain ⟨t, ht, hsound⟩ := hsound s List.mem_cons_self
      rw [Program.bind_eq, Program.run_bind] at hrun
      rcases hone : (Store.writeMany s m (!replace) records).run Storage.engine st with ⟨e | n, st₁⟩
      · rw [hone] at hrun
        obtain ⟨rfl, rfl⟩ := Prod.mk.inj hrun
        refine ⟨[], s :: rest, rfl, fun s' hs' => absurd hs' List.not_mem_nil,
          ⟨s, rest, rfl, ?_, 0, st, rfl, ?_⟩, fun name _ => Store.table?_of_writeMany_error hone name⟩
        · rwa [hrecords]
        · rw [hrecords, hzero, hone]
      · rw [hone] at hrun
        obtain ⟨-, -, -, -, -, -, hframe⟩ := Store.writeMany_eq_ok ht hone
        refine hrest hframe (fun hsame => ?_) (by rwa [hrecords])
        rw [WrittenOnce, hrecords, if_neg hnonempty]
        refine ⟨0, ?_, n, st, st₁, rfl, by rwa [hzero], hsame⟩
        rw [Nat.zero_add, countFor_cons hne, hrecords]
        exact Nat.le_add_right _ _

/-- **Each table is written once**; tables of other names are left as they are. -/
theorem run_writeTables_eq_ok {schemas : List Schema}
    (htables : (schemas.map fun s => upper s.table).Nodup)
    (hserved : ∀ s ∈ schemas, IsServed st s) {d : Document} {written w : KeyMap Nat}
    (hrun : (writeTables m replace schemas d written).run Storage.engine st = (.ok w, st')) :
    (∀ s ∈ schemas,
        WrittenOnce m (countFor d schemas) (!replace) st st' s (recordsFor d s)) ∧
      ∀ name, (∀ s ∈ schemas, ¬ sameName s.table name) → st'.table? name = st.table? name := by
  have hsound : ∀ s ∈ schemas, ∃ t, st.table? s.table = some t ∧ t.Sound := fun s hs =>
    let ⟨t, ht, hserve⟩ := hserved s hs
    ⟨t, ht, hserve.sound⟩
  obtain ⟨before, after, rfl, huntil⟩ := run_writeTables htables hsound hrun
  obtain rfl : after = [] := huntil.ends
  have hwritten := huntil.written
  rw [List.append_nil] at hwritten ⊢
  exact ⟨hwritten, huntil.others⟩

end Tables
end Daybook.Sync
