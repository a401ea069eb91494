import Daybook.Proofs.Migration.Plan
import Daybook.Proofs.Migration.Run
import Daybook.Proofs.Sql.Alter

/-!
# What migrations keep

A migration adds columns to a table or removes some, between changes of indexes. So it keeps the
rows of the table, and the other tables, and if it fails it changes nothing. The schemas of a
registry are migrated one after the other, whatever fails on the way (**`migration_preserves`**).

* `Report.additions`, `Planned.altering`: what the statements of a plan add and remove;
* **`reshaped_of_migrate`**: what becomes of the tables;
* `Passes`: schemas migrated one after the other, with what came of each;
* `Summary.Covers`: every schema is reported once.
-/

namespace Daybook.Migration

open Sql

variable {s : Schema} {live : List LiveColumn} {indexes : List String} {r : Report}
  {st st' : Storage}

/-! ## Regular storages -/

/-- Every program leaves regular databases so. -/
theorem always_regular_run {α : Type} (p : Program α) (hst : st.Always Database.Regular) :
    (p.run Storage.engine st).2.Always Database.Regular :=
  hst.run (fun _ _ _ _ hdb hrun => hdb.run? hrun) Database.regular_empty p

/-- Databases that begin empty are regular, whatever is done with them. -/
theorem always_regular_run_new {α : Type} (p : Program α) (config : StorageConfig) :
    (p.run Storage.engine { config := config }).2.Always Database.Regular :=
  Storage.Always.run_new (fun _ _ _ _ hdb hrun => hdb.run? hrun) Database.regular_empty p config

/-! ## Statements of plans -/

/-- The definitions of the columns that a plan adds. -/
def Report.additions (s : Schema) (r : Report) : List ColumnDef :=
  (s.columns.filter fun c => r.added.contains c.name).map Column.toDef

theorem alters_dropIndexes (table : String) (names : List String) :
    ∀ x ∈ Schema.dropIndexes names, x.Alters table [] [] := by
  intro x hx
  obtain ⟨n, -, rfl⟩ := List.mem_map.1 hx
  exact .dropIndex true n

theorem alters_createIndexes (s : Schema) : ∀ x ∈ s.createIndexes, x.Alters s.table [] [] := by
  intro x hx
  obtain ⟨c, -, rfl⟩ := List.mem_map.1 hx
  exact .createIndex _ _ _ _ _

/-- The columns that a table lacks are found by the names in the report. -/
theorem filter_added (s : Schema) (live : List LiveColumn) :
    (s.columns.filter fun c => ((Report.missing s live).map Column.name).contains c.name) =
      Report.missing s live := by
  refine List.filter_congr fun c hc => ?_
  rw [Bool.eq_iff_iff, List.contains_iff_mem, Bool.not_eq_true', ← Bool.not_eq_true,
    List.contains_iff_mem, List.mem_map]
  constructor
  · rintro ⟨d, hd, hname⟩
    rw [← hname]
    exact (Report.mem_missing_iff.1 hd).2
  · intro hnew
    exact ⟨c, Report.mem_missing_iff.2 ⟨hc, hnew⟩, rfl⟩

/-- **A plan alters its table**, and does not both add and remove columns. -/
theorem Planned.altering (h : Planned s live indexes r) :
    Altering s.table r.statements r.removed (r.additions s) ∧
      (r.additions s = [] ∨ r.removed = []) := by
  have hnone : s.columns.filter (fun c => ([] : List String).contains c.name) = [] := by simp
  cases h with
  | settled h =>
    rw [Report.additions, hnone]
    exact ⟨.nil, .inl rfl⟩
  | adds hne hkeys =>
    rw [Report.additions, filter_added]
    refine ⟨.between (alters_dropIndexes s.table indexes) ?_ (alters_createIndexes s), .inr rfl⟩
    simpa [Function.comp_def] using
      @Altering.addColumns s.table ((Report.missing s live).map Column.toDef)
  | removes h hne =>
    rw [Report.additions, hnone]
    exact ⟨.between (alters_dropIndexes s.table indexes) (.dropColumns _) (alters_createIndexes s),
      .inl rfl⟩

/-- **What becomes of the tables** when a plan is carried out for one that exists. -/
theorem reshaped_of_plan {db db' : Database} {os : List Outcome} (hdb : db.Regular)
    (hthere : (db.table? s.table).isSome) (hplan : Report.plan s live indexes = .ok r)
    (hrun : db.runAll? r.statements = .ok (db', os)) :
    db.Reshaped s.table r.removed (r.additions s) db' ∧ (r.additions s = [] ∨ r.removed = []) := by
  by_cases hlive : live = []
  · -- a new table is not made where there is one, so that only indexes are
    subst hlive
    rw [← Except.ok.inj hplan] at hrun ⊢
    obtain ⟨d, o, os', hcreate, hindexes⟩ := Database.runAll?_cons hrun
    obtain ⟨-, ⟨-, -, rfl⟩ | ⟨hnone, -⟩⟩ :=
      Database.createTable?_eq_ok (Database.of_run?_done rfl hcreate)
    · have hadded : (Report.create s).additions s = [] := by
        simp [Report.additions, Report.create]
      rw [hadded]
      exact ⟨hdb.runAll?_altering (.indexes (alters_createIndexes s)) hindexes, .inl rfl⟩
    · rw [hnone] at hthere
      cases hthere
  · obtain ⟨haltering, hone⟩ := ((plan_eq_ok_iff hlive).1 hplan).altering
    exact ⟨hdb.runAll?_altering haltering hrun, hone⟩

theorem table_of_plan (hplan : Report.plan s live indexes = .ok r) : r.table = s.table := by
  by_cases hlive : live = []
  · subst hlive
    rw [← Except.ok.inj hplan]
    rfl
  · cases (plan_eq_ok_iff hlive).1 hplan <;> rfl

/-! ## Single schemas -/

theorem table_of_migrate (checkColumns : Bool)
    (h : ((if checkColumns then migrate else ensureTable) s).run Storage.engine st = (.ok r, st')) :
    r.table = s.table := by
  obtain ⟨c, st₁, live, indexes, plan, created, -, hc₁, -, hplan, happly⟩ :=
    exists_plan_of_migrate checkColumns h
  have htable := table_of_plan hplan
  rwa [(exists_runAll?_of_apply hc₁ happly).1]

/-- **What becomes of the tables** when one that exists is migrated. -/
theorem reshaped_of_migrate (hst : st.Always Database.Regular) (checkColumns : Bool)
    (h : ((if checkColumns then migrate else ensureTable) s).run Storage.engine st = (.ok r, st'))
    {c : Connection} (hc : st.opened = .ok c) {t : Table}
    (ht : c.database.table? s.table = some t) :
    ∃ c' t', st'.opened = .ok c' ∧ c'.database.table? s.table = some t' ∧
      c.database.Reshaped s.table r.removed (r.additions s) c'.database ∧
      List.Forall₂ (Table.KeepsRow (r.additions s) t t') t.rows t'.rows := by
  obtain ⟨c₁, st₁, live, indexes, plan, created, hc₁, hc₁', -, hplan, happly⟩ :=
    exists_plan_of_migrate checkColumns h
  obtain rfl := Except.ok.inj (hc.symm.trans hc₁)
  obtain ⟨rfl, c', os, hc', hos⟩ := exists_runAll?_of_apply hc₁' happly
  have hst' := always_regular_run ((if checkColumns then migrate else ensureTable) s) hst
  rw [h] at hst'
  have hdb := hst.opened Database.regular_empty hc
  have hdb' := hst'.opened Database.regular_empty hc'
  obtain ⟨hreshaped, hone⟩ := reshaped_of_plan hdb (by rw [ht, Option.isSome_some]) hplan hos
  obtain ⟨t', ht', htable⟩ := hreshaped.exists_table? ht
  exact ⟨c', t', hc', ht', hreshaped, htable.keepsRow (hdb.tables t (Database.mem_of_table? ht))
    (hdb'.tables t' (Database.mem_of_table? ht')) hone⟩

/-! ## Registries -/

/-- Schemas are migrated one after the other. Those that fail are reported, and leave the database as
it was for the next. -/
inductive Passes (one : Schema → Program Report) : List Schema → Storage → Summary → Storage → Prop
  | nil (st : Storage) : Passes one [] st {} st
  | migrated {s : Schema} {rest : List Schema} {st st₁ st' : Storage} {r : Report} {more : Summary}
    (hone : (one s).run Storage.engine st = (.ok r, st₁)) (hrest : Passes one rest st₁ more st') :
    Passes one (s :: rest) st { more with reports := r :: more.reports } st'
  | failed {s : Schema} {rest : List Schema} {st st₁ st' : Storage} {e : Failure} {more : Summary}
    (hone : (one s).run Storage.engine st = (.error e, st₁)) (hsame : st₁.opened = st.opened)
    (hrest : Passes one rest st₁ more st') :
    Passes one (s :: rest) st { more with failures := (s.entity, e) :: more.failures } st'

/-- The migration of a registry comes to its end. -/
theorem exists_passes_of_migrateEach {one : Schema → Program Report}
    (hfails : ∀ {s st e st'}, (one s).run Storage.engine st = (.error e, st') →
      st'.opened = st.opened) (schemas : List Schema) (st : Storage) :
    ∃ summary st', (migrateEach one schemas).run Storage.engine st = (.ok summary, st') ∧
      Passes one schemas st summary st' := by
  induction schemas generalizing st with
  | nil => exact ⟨{}, st, rfl, .nil st⟩
  | cons s rest ih =>
    obtain ⟨more, st', hrest, hpasses⟩ := ih ((one s).run Storage.engine st).2
    refine ⟨_, st', migrateEach_cons_eq_ok_iff.2 ⟨more, hrest, rfl⟩, ?_⟩
    generalize hone : (one s).run Storage.engine st = result at hpasses ⊢
    rcases result with ⟨e | r, st₁⟩
    · exact .failed hone (hfails hone) hpasses
    · exact .migrated hone hpasses

/-- Every schema is reported once: as migrated, or as failed. -/
def Summary.Covers (summary : Summary) (schemas : List Schema) : Prop :=
  ∃ migrated failed : List Schema, (migrated ++ failed).Perm schemas ∧
    summary.reports.map Report.table = migrated.map Schema.table ∧
    summary.failures.map Prod.fst = failed.map Schema.entity

theorem Passes.covers {one : Schema → Program Report}
    (htable : ∀ {s st r st'}, (one s).run Storage.engine st = (.ok r, st') → r.table = s.table)
    {schemas : List Schema} {summary : Summary} (h : Passes one schemas st summary st') :
    summary.Covers schemas := by
  induction h with
  | nil st => exact ⟨[], [], .refl _, rfl, rfl⟩
  | @migrated s rest _ _ _ r more hone _ ih =>
    obtain ⟨migrated, failed, hperm, hreports, hfailures⟩ := ih
    refine ⟨s :: migrated, failed, hperm.cons s, ?_, hfailures⟩
    rw [List.map_cons, List.map_cons, htable hone, hreports]
  | @failed s rest _ _ _ e more _ _ _ ih =>
    obtain ⟨migrated, failed, hperm, hreports, hfailures⟩ := ih
    refine ⟨migrated, s :: failed, List.perm_middle.trans (hperm.cons s), hreports, ?_⟩
    rw [List.map_cons, List.map_cons, hfailures]

/-- **Migrations keep what is there.** One that fails changes nothing. One that succeeds on a table
that exists keeps its rows, with their cells in the columns that stay and defaults in those that are
new, and leaves the columns and rows of the other tables. A registry is migrated to its end, and
each of its schemas is reported once. -/
theorem migration_preserves (hst : st.Always Database.Regular) (checkColumns : Bool) :
    (∀ s e st', ((if checkColumns then migrate else ensureTable) s).run Storage.engine st =
      (.error e, st') → st'.opened = st.opened) ∧
    (∀ s r st' c t, ((if checkColumns then migrate else ensureTable) s).run Storage.engine st =
      (.ok r, st') → st.opened = .ok c → c.database.table? s.table = some t →
      ∃ c' t', st'.opened = .ok c' ∧ c'.database.table? s.table = some t' ∧
        c.database.Reshaped s.table r.removed (r.additions s) c'.database ∧
        List.Forall₂ (Table.KeepsRow (r.additions s) t t') t.rows t'.rows) ∧
    ∀ registry : Schema.Registry, ∃ summary st',
      (migrateAll registry checkColumns).run Storage.engine st = (.ok summary, st') ∧
      Passes (if checkColumns then migrate else ensureTable) registry.schemas st summary st' ∧
      summary.Covers registry.schemas := by
  refine ⟨fun s e st' h => opened_of_migrate_error checkColumns h,
    fun s r st' c t h hc ht => reshaped_of_migrate hst checkColumns h hc ht, fun registry => ?_⟩
  obtain ⟨summary, st', hrun, hpasses⟩ := exists_passes_of_migrateEach
    (fun h => opened_of_migrate_error checkColumns h) registry.schemas st
  exact ⟨summary, st', hrun, hpasses, hpasses.covers fun h => table_of_migrate checkColumns h⟩

/-! ## A shelf of items -/

/-- Items from before they had prices. -/
def shelf : Table where
  name := "Item"
  columns := [(Column.text "id").key.toDef, (Column.text "name").require.toDef]
  rows := [⟨1, [.text "t", .text "Tea"]⟩, ⟨2, [.text "r", .text "Rice"]⟩]

/-- A database with the shelf. -/
def shelfStorage : Storage := { config := { path := "shelf" }, saved := .ok ⟨[shelf]⟩ }

/-- The items get prices, which are not known, and keep their names. -/
theorem migration_preserves_shelf : shelfStorage.Always Database.Regular ∧
    ∃ r st' t', (migrate item).run Storage.engine shelfStorage = (.ok r, st') ∧
      r.added = ["price"] ∧ st'.table? "Item" = some t' ∧
      List.Forall₂ (Table.KeepsRow [(Column.real "price").toDef] shelf t') shelf.rows t'.rows := by
  have hst : shelfStorage.Always Database.Regular := by
    refine ⟨fun db hdb => ?_, fun c hc => nomatch hc⟩
    rw [← Except.ok.inj hdb]
    exact ⟨by decide, List.forall_mem_singleton.2 ⟨by decide, by unfold Table.Rectangular; decide⟩⟩
  have hadded : ((migrate item).run Storage.engine shelfStorage).1.toOption.map Report.added =
      some ["price"] := by
    decide +kernel
  refine ⟨hst, ?_⟩
  generalize hrun : (migrate item).run Storage.engine shelfStorage = result at hadded ⊢
  rcases result with ⟨e | r, st'⟩
  · cases hadded
  · have hadded : r.added = ["price"] := Option.some.inj hadded
    obtain ⟨c', t', hc', ht', -, hrows⟩ :=
      (migration_preserves hst true).2.1 item r st' _ shelf hrun rfl rfl
    have hprice : r.additions item = [(Column.real "price").toDef] := by
      rw [Report.additions, hadded]
      rfl
    rw [hprice] at hrows
    exact ⟨r, st', t', rfl, hadded, (Storage.table?_of_opened hc' _).trans ht', hrows⟩

end Daybook.Migration
