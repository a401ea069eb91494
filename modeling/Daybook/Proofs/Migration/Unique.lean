import Daybook.Proofs.Migration.Create
import Daybook.Proofs.Store.Edit

/-!
# Columns that are kept unique

A column that is declared unique is kept so by its index alone. The names of indexes are shared by
all tables, and an index whose name is taken is not made. So after the migration of an empty
database a column is kept unique, whatever is edited, just if no column of a schema before has an
index of the same name (**`migrateAll_unique_iff`**). The names are put together of the names of
table and column, so that different columns can have one name between them
(`not_forall_apart_of_migrateAll`).

* `Table.Apart`: no two rows meet in a column;
* `Schema.HasOwnName`: no schema before takes the name of the index.
-/

namespace Daybook

open Sql Store

namespace Sql.Table

variable {t : Table} {column : String}

/-- No two rows have equal values in the column that are not null. -/
def Apart (t : Table) (column : String) : Prop :=
  t.rows.Pairwise fun a b => ¬ (t.cellOf a.cells column).Meets (t.cellOf b.cells column)

instance (t : Table) (column : String) : Decidable (t.Apart column) :=
  inferInstanceAs (Decidable (List.Pairwise _ _))

/-- A unique index keeps the rows of a sound table apart. -/
theorem Sound.apart (h : t.Sound) (hdistinct : t.IsDistinct column) : t.Apart column := by
  obtain ⟨index, hindex, hunique, hcolumns⟩ := hdistinct
  refine h.ascending.imp_of_mem fun {a b} ha hb hlt hmeets => ?_
  have hcollides : t.collides a.cells b.cells := by
    rw [collides_iff]
    refine ⟨index, hindex, hunique, fun c hc => ?_⟩
    rw [hcolumns, List.mem_singleton] at hc
    rwa [hc]
  rw [h.unique a ha b hb hcollides] at hlt
  omega

theorem Alike.isDistinct {t' : Table} (h : t.Alike t') (hdistinct : t.IsDistinct column) :
    t'.IsDistinct column := by
  obtain ⟨rows, rfl⟩ := h
  exact hdistinct

end Sql.Table

/-- No column of the schemas has an index of the name of the index of a column. -/
def Schema.HasOwnName (before : List Schema) (s : Schema) (c : Column) : Prop :=
  ∀ s' ∈ before, ∀ c' ∈ s'.columns, Schema.needsIndex c' →
    ¬ sameName (Schema.indexName s'.table c'.name) (Schema.indexName s.table c.name)

instance (before : List Schema) (s : Schema) (c : Column) :
    Decidable (Schema.HasOwnName before s c) :=
  inferInstanceAs (Decidable (∀ s' ∈ before, ∀ c' ∈ s'.columns, _ → ¬ _))

namespace Migration

variable {r : Schema.Registry} {st st' : Storage} {summary : Summary}

/-- The table of a schema in a database that was empty before its registry was migrated. -/
theorem table?_of_migrateAll (htables : (r.schemas.map fun s => upper s.table).Nodup)
    (hempty : st.Holds (· = {})) {checkColumns : Bool}
    (hrun : (migrateAll r checkColumns).run Storage.engine st = (.ok summary, st'))
    (hsuccess : summary.isSuccess) {before after : List Schema} {s : Schema}
    (hs : r.schemas = before ++ s :: after) :
    (s.columns.map fun c => upper c.name).Nodup ∧
      st'.table? s.table = some (s.made (s.indexedIn (Schema.madeAll before {}))) := by
  obtain ⟨hnames, c, hc, hmade⟩ :=
    run_migrateEach_eq_ok htables hempty (fun _ _ => rfl) checkColumns hrun hsuccess
  rw [hs] at hnames htables hmade
  refine ⟨hnames s (List.mem_append_right before List.mem_cons_self), ?_⟩
  rw [Storage.table?_of_opened hc, hmade]
  exact Schema.table?_madeAll htables rfl

/-- A column that is declared unique has its index just if the name of it is not taken before. -/
theorem isDistinct_iff_hasOwnName {before : List Schema} {s : Schema}
    (hnames : (s.columns.map fun c => upper c.name).Nodup) {c : Column} (hc : c ∈ s.columns)
    (hkey : c.primaryKey = false) (hunique : c.unique) :
    (s.made (s.indexedIn (Schema.madeAll before {}))).IsDistinct c.name ↔
      Schema.HasOwnName before s c := by
  have hneeds : Schema.needsIndex c := by
    simp [Schema.needsIndex, hkey, hunique]
  have hfree : s.isFree {} c := by
    rw [Schema.isFree_iff]
    exact fun u hu => absurd hu List.not_mem_nil
  rw [Schema.isDistinct_made_iff hnames (s.sublist_indexedIn _) hc hkey, and_iff_left hunique,
    Schema.indexedIn, List.mem_filter, List.mem_filter,
    and_iff_right (show c ∈ s.columns ∧ Schema.needsIndex c from ⟨hc, hneeds⟩),
    Schema.isFree_madeAll, and_iff_right hfree]
  exact Iff.rfl

/-- **A column that is declared unique is kept so** by the migration of an empty database, whatever
is edited afterwards, just if no column of a schema before has an index of the same name. -/
theorem migrateAll_unique_iff (htables : (r.schemas.map fun s => upper s.table).Nodup)
    (hempty : st.Holds (· = {})) {checkColumns : Bool}
    (hrun : (migrateAll r checkColumns).run Storage.engine st = (.ok summary, st'))
    (hsuccess : summary.isSuccess) {before after : List Schema} {s : Schema}
    (hs : r.schemas = before ++ s :: after) {c : Column} (hc : c ∈ s.columns)
    (hkey : c.primaryKey = false) (hunique : c.unique) :
    ∃ t, st'.table? s.table = some t ∧ (t.IsDistinct c.name ↔ Schema.HasOwnName before s c) ∧
      (Schema.HasOwnName before s c → ∀ schemas st'', Edited schemas st' st'' →
        ∃ t', st''.table? s.table = some t' ∧ t'.IsDistinct c.name ∧ t'.Apart c.name) := by
  obtain ⟨hnames, ht⟩ := table?_of_migrateAll htables hempty hrun hsuccess hs
  have hiff : (s.made (s.indexedIn (Schema.madeAll before {}))).IsDistinct c.name ↔
      Schema.HasOwnName before s c := isDistinct_iff_hasOwnName hnames hc hkey hunique
  refine ⟨_, ht, hiff, fun hown schemas st'' hedited => ?_⟩
  obtain ⟨t', ht', halike, hsound⟩ := hedited.exists_table ht
  have hdistinct := halike.isDistinct (hiff.2 hown)
  exact ⟨t', ht', hdistinct, (hsound (Table.sound_of_rows_eq_nil rfl)).apart hdistinct⟩

/-! ## Two columns with one name between them -/

/-- Things with one unique value. -/
def thing (entity table column : String) : Schema where
  entity := entity
  table := table
  columns := [(Column.text "id").key, (Column.text column).distinct]

/-- The indexes of the values are both called `idx_a_b_c`. -/
def twins : Schema.Registry := ⟨[thing "A" "a" "b_c", thing "B" "a_b" "c"]⟩

/-- A database without tables. -/
def bareStorage : Storage := { config := { path := "things" } }

/-- The tables as they are migrated. -/
def twinTables : Storage := ((migrateAll twins true).run Storage.engine bareStorage).2

/-- The tables with another thing of the same value. -/
def withThing (id : String) (st : Storage) : Storage :=
  (((Edit.insertOne ⟨"2024-05-06T07:08:09.010Z", fun _ => "f"⟩
    [("id", .str id), ("c", .str "same")]).program (thing "B" "a_b" "c")).run Storage.engine st).2

theorem runs_twins :
    ((migrateAll twins true).run Storage.engine bareStorage).1.toOption.map Summary.isSuccess =
      some true ∧
    ((withThing "y" (withThing "x" twinTables)).table? "a_b").map
      (fun t => decide (t.Apart "c")) = some false := by
  decide +kernel

theorem run_migrateAll_twins : ∃ summary : Summary, summary.isSuccess ∧
    (migrateAll twins true).run Storage.engine bareStorage = (.ok summary, twinTables) := by
  have hsuccess := runs_twins.1
  rw [twinTables]
  revert hsuccess
  generalize (migrateAll twins true).run Storage.engine bareStorage = result
  rcases result with ⟨e | summary, st⟩
  · exact fun h => nomatch h
  · exact fun h => ⟨summary, Option.some.inj h, rfl⟩

/-- The column whose index comes first is kept unique, the other has no index. -/
theorem migrateAll_unique_twins : ∃ summary : Summary, summary.isSuccess ∧
    (migrateAll twins true).run Storage.engine bareStorage = (.ok summary, twinTables) ∧
    (∃ t, twinTables.table? "a" = some t ∧ t.IsDistinct "b_c") ∧
    ∃ t, twinTables.table? "a_b" = some t ∧ ¬ t.IsDistinct "c" := by
  obtain ⟨summary, hsuccess, hrun⟩ := run_migrateAll_twins
  have htables : (twins.schemas.map fun s => upper s.table).Nodup := by decide
  have hfirst : twins.schemas = [] ++ thing "A" "a" "b_c" :: [thing "B" "a_b" "c"] := rfl
  have hsecond : twins.schemas = [thing "A" "a" "b_c"] ++ thing "B" "a_b" "c" :: [] := rfl
  obtain ⟨t, ht, hiff, -⟩ := migrateAll_unique_iff htables ⟨{}, rfl, rfl⟩ hrun hsuccess hfirst
    (c := (Column.text "b_c").distinct) (by decide) rfl rfl
  obtain ⟨t', ht', hiff', -⟩ := migrateAll_unique_iff htables ⟨{}, rfl, rfl⟩ hrun hsuccess hsecond
    (c := (Column.text "c").distinct) (by decide) rfl rfl
  refine ⟨summary, hsuccess, hrun, ⟨t, ht, hiff.2 (by decide)⟩, t', ht', fun h => ?_⟩
  exact absurd (hiff'.1 h) (by decide)

/-- **A migration without failures does not keep every column unique that is declared so.** -/
theorem not_forall_apart_of_migrateAll :
    ¬ ∀ (r : Schema.Registry) (st st' st'' : Storage) (summary : Summary),
      (∀ s ∈ r.schemas, s.fault? = none) → (r.schemas.map fun s => upper s.table).Nodup →
      st.Holds (· = {}) → (migrateAll r true).run Storage.engine st = (.ok summary, st') →
      summary.isSuccess → Edited r.schemas st' st'' →
      ∀ s ∈ r.schemas, ∀ c ∈ s.columns, c.primaryKey = false → c.unique →
        ∀ t, st''.table? s.table = some t → t.Apart c.name := by
  intro h
  obtain ⟨summary, hsuccess, hrun⟩ := run_migrateAll_twins
  have hmem : thing "B" "a_b" "c" ∈ twins.schemas := by decide
  have hedited : Edited twins.schemas twinTables (withThing "y" (withThing "x" twinTables)) :=
    (Relation.ReflTransGen.single ⟨_, hmem, _, rfl⟩).tail ⟨_, hmem, _, rfl⟩
  have hapart := h twins bareStorage twinTables _ summary (by decide) (by decide) ⟨{}, rfl, rfl⟩ hrun
    hsuccess hedited _ hmem (Column.text "c").distinct (by decide) rfl rfl
  have hrows := runs_twins.2
  rw [Option.map_eq_some_iff] at hrows
  obtain ⟨t, ht, hfails⟩ := hrows
  exact of_decide_eq_false hfails (hapart t ht)

end Migration
end Daybook
