import Daybook.Migration.Apply
import Daybook.Proofs.Engine.Storage

/-!
# Runs of migrations

A migration looks at the table and then carries out a plan, so it ends with one
(**`exists_plan_of_found`**), or with a failure that leaves the database as it was
(**`opened_of_migrate_error`**). A registry is migrated schema by schema
(`migrateEach_cons_eq_ok_iff`).

* `runAll?_of_apply`: a plan is carried out by its statements, one after the other;
* `foundColumns`: the columns that a plan is made for.
-/

namespace Daybook.Migration

open Sql

variable {s : Schema} {st st' : Storage} {r plan : Report}

/-! ## Plans carried out -/

/-- A plan is carried out by one statement after the other. -/
theorem runAll?_of_apply (hplan : plan.isNoop = false)
    (h : (apply plan).run Storage.engine st = (.ok r, st')) :
    r = plan ∧ ∃ c d os, st.opened = .ok c ∧ st' = st.keep d ∧
      c.database.runAll? plan.statements = .ok (d.database, os) := by
  rw [apply, hplan, if_neg Bool.false_ne_true] at h
  obtain ⟨k, st₁, hask, hdone⟩ := Program.run_bind_eq_ok.1 h
  obtain ⟨hr, rfl⟩ := Prod.mk.inj hdone
  rw [Program.run_ask] at hask
  obtain ⟨c, d, hc, hmap, rfl⟩ := Storage.on_eq_ok hask
  obtain ⟨⟨d', j⟩, hall, heq⟩ := Result.map_eq_ok_iff.1 hmap
  obtain ⟨-, rfl⟩ := Prod.mk.inj heq
  obtain ⟨os, hos⟩ := Connection.changeAll?_eq_ok hall
  exact ⟨(Except.ok.inj hr).symm, c, d', os, hc, rfl, hos⟩

theorem exists_runAll?_of_apply {c : Connection} (hc : st.opened = .ok c)
    (h : (apply plan).run Storage.engine st = (.ok r, st')) :
    r = plan ∧ ∃ c' os, st'.opened = .ok c' ∧
      c.database.runAll? plan.statements = .ok (c'.database, os) := by
  cases hnoop : plan.isNoop with
  | true =>
    rw [apply, hnoop, if_pos rfl] at h
    obtain ⟨hr, rfl⟩ := Prod.mk.inj h
    rw [Report.isNoop, List.isEmpty_iff] at hnoop
    exact ⟨(Except.ok.inj hr).symm, c, [], hc, by rw [hnoop, Database.runAll?]⟩
  | false =>
    obtain ⟨hr, d, c', os, hd, rfl, hos⟩ := runAll?_of_apply hnoop h
    rw [Except.ok.inj (hc.symm.trans hd)]
    exact ⟨hr, c', os, rfl, hos⟩

/-- A plan is carried out if its statements can be. -/
theorem run_apply {c : Connection} (hc : st.opened = .ok c) {db : Database} {os : List Outcome}
    (hnoop : plan.isNoop = false) (hchanges : ∀ x ∈ plan.statements, x.IsChange)
    (hrun : c.database.runAll? plan.statements = .ok (db, os)) :
    ∃ d : Connection, d.database = db ∧
      (apply plan).run Storage.engine st = (.ok plan, st.keep d) := by
  obtain ⟨d, n, hall, hdb⟩ := Connection.changeAll?_of_runAll? hchanges hrun 0
  refine ⟨d, hdb, ?_⟩
  rw [apply, hnoop, if_neg Bool.false_ne_true]
  refine Program.run_bind_eq_ok.2 ⟨n, st.keep d, ?_, rfl⟩
  refine (Program.run_ask _).trans (Storage.on_of_eq_ok hc ?_)
  rw [hall]
  rfl

/-- A plan is carried out as a whole, or not at all. -/
theorem opened_of_apply_error {e : Failure}
    (h : (apply plan).run Storage.engine st = (.error e, st')) : st'.opened = st.opened := by
  rw [apply] at h
  split_ifs at h
  · cases h
  · obtain h | ⟨k, st₁, -, h⟩ := Program.run_bind_eq_error.1 h
    · rw [Program.run_ask] at h
      exact Storage.opened_of_on_error h
    · cases h

/-! ## Looking at tables -/

theorem hasTable_eq_false {db : Database} {name : String} (hnone : db.table? name = none) :
    db.hasTable name = false := by
  rw [Database.hasTable, List.any_eq_false]
  intro t ht hname
  rw [decide_eq_true_eq] at hname
  exact Database.table?_eq_none_iff.1 hnone t ht ((sameName_iff _ _).2 (by rw [hname]))

/-! ## Single schemas -/

/-- The names of the indexes that a plan for a table is made with. -/
def indexesOf (s : Schema) : List LiveColumn → Program (List String)
  | [] => .done []
  | _ :: _ => Program.ask (.indexes s.table)

theorem reconcile_eq (s : Schema) (live : List LiveColumn) :
    reconcile s live = (indexesOf s live).bind fun indexes =>
      (Program.ofExcept (Report.plan s live indexes)).bind apply := by
  cases live <;> rfl

theorem opened_of_indexesOf {live : List LiveColumn} {result : Except Failure (List String)}
    (h : (indexesOf s live).run Storage.engine st = (result, st')) : st'.opened = st.opened := by
  cases live with
  | nil => rw [← (Prod.mk.inj h).2]
  | cons c rest => exact Storage.opened_of_reads (Storage.reads_indexes _) h

theorem exists_plan_of_reconcile {live : List LiveColumn} {c : Connection} (hc : st.opened = .ok c)
    (h : (reconcile s live).run Storage.engine st = (.ok r, st')) :
    ∃ st₁ indexes plan, st₁.opened = .ok c ∧ Report.plan s live indexes = .ok plan ∧
      (apply plan).run Storage.engine st₁ = (.ok r, st') := by
  rw [reconcile_eq] at h
  obtain ⟨indexes, st₁, hindexes, h⟩ := Program.run_bind_eq_ok.1 h
  obtain ⟨plan, st₂, hresult, happly⟩ := Program.run_bind_eq_ok.1 h
  obtain ⟨hplan, rfl⟩ := Program.run_ofExcept_eq_ok.1 hresult
  exact ⟨st₂, indexes, plan, (opened_of_indexesOf hindexes).trans hc, hplan, happly⟩

theorem opened_of_reconcile_error {live : List LiveColumn} {e : Failure}
    (h : (reconcile s live).run Storage.engine st = (.error e, st')) : st'.opened = st.opened := by
  rw [reconcile_eq] at h
  obtain h | ⟨indexes, st₁, hindexes, h⟩ := Program.run_bind_eq_error.1 h
  · exact opened_of_indexesOf h
  · rw [← opened_of_indexesOf hindexes]
    obtain h | ⟨plan, st₂, hplan, h⟩ := Program.run_bind_eq_error.1 h
    · rw [(Program.run_ofExcept_eq_error.1 h).2]
    · rw [opened_of_apply_error h, (Program.run_ofExcept_eq_ok.1 hplan).2]

/-- The columns that a migration finds: none if there is no table of exactly the name. -/
def foundColumns (db : Database) (table : String) : List LiveColumn :=
  if db.hasTable table then db.liveColumns table else []

/-- **A migration carries out the plan for what it finds.** -/
theorem exists_plan_of_found (h : (migrate s).run Storage.engine st = (.ok r, st')) :
    ∃ c st₁ indexes plan, st.opened = .ok c ∧ st₁.opened = .ok c ∧
      Report.plan s (foundColumns c.database s.table) indexes = .ok plan ∧
      (apply plan).run Storage.engine st₁ = (.ok r, st') := by
  obtain ⟨found, st₁, hask, h⟩ := Program.run_bind_eq_ok.1 h
  obtain ⟨c, hc, hc₁, rfl⟩ := Storage.exists_of_reads (Storage.reads_hasTable _) hask
  split_ifs at h with hthere
  · obtain ⟨live, st₂, hcolumns, h⟩ := Program.run_bind_eq_ok.1 h
    obtain ⟨d, hd, hd₂, rfl⟩ := Storage.exists_of_reads (Storage.reads_columns _) hcolumns
    obtain rfl := Except.ok.inj (hc₁.symm.trans hd)
    obtain ⟨st₃, indexes, plan, hc₃, hplan, happly⟩ := exists_plan_of_reconcile hd₂ h
    exact ⟨c, st₃, indexes, plan, hc, hc₃, by rw [foundColumns, if_pos hthere, hplan], happly⟩
  · obtain ⟨st₂, indexes, plan, hc₂, hplan, happly⟩ := exists_plan_of_reconcile hc₁ h
    exact ⟨c, st₂, indexes, plan, hc, hc₂, by rw [foundColumns, if_neg hthere, hplan], happly⟩

/-- A migration carries out the plan for what it finds, or the plan for a new table. -/
theorem exists_plan_of_migrate (checkColumns : Bool)
    (h : ((if checkColumns then migrate else ensureTable) s).run Storage.engine st = (.ok r, st')) :
    ∃ c st₁ live indexes plan created, st.opened = .ok c ∧ st₁.opened = .ok c ∧
      (c.database.table? s.table = none → live = []) ∧ Report.plan s live indexes = .ok plan ∧
      (apply { plan with created := created }).run Storage.engine st₁ = (.ok r, st') := by
  cases checkColumns with
  | false =>
    obtain ⟨found, st₁, hask, happly⟩ := Program.run_bind_eq_ok.1 h
    obtain ⟨c, hc, hc₁, -⟩ := Storage.exists_of_reads (Storage.reads_hasTable _) hask
    exact ⟨c, st₁, [], [], .create s, !found, hc, hc₁, fun _ => rfl, rfl, happly⟩
  | true =>
    obtain ⟨c, st₁, indexes, plan, hc, hc₁, hplan, happly⟩ := exists_plan_of_found h
    refine ⟨c, st₁, _, indexes, plan, plan.created, hc, hc₁, fun hnone => ?_, hplan, happly⟩
    rw [foundColumns, hasTable_eq_false hnone, if_neg Bool.false_ne_true]

/-- **A migration that fails leaves the database as it was.** -/
theorem opened_of_migrate_error (checkColumns : Bool) {e : Failure}
    (h : ((if checkColumns then migrate else ensureTable) s).run Storage.engine st =
      (.error e, st')) : st'.opened = st.opened := by
  cases checkColumns with
  | false =>
    obtain h | ⟨found, st₁, hask, h⟩ := Program.run_bind_eq_error.1 h
    · exact Storage.opened_of_reads (Storage.reads_hasTable _) h
    · rw [opened_of_apply_error h, Storage.opened_of_reads (Storage.reads_hasTable _) hask]
  | true =>
    obtain h | ⟨found, st₁, hask, h⟩ := Program.run_bind_eq_error.1 h
    · exact Storage.opened_of_reads (Storage.reads_hasTable _) h
    · rw [← Storage.opened_of_reads (Storage.reads_hasTable _) hask]
      split_ifs at h
      · obtain h | ⟨live, st₂, hcolumns, h⟩ := Program.run_bind_eq_error.1 h
        · exact Storage.opened_of_reads (Storage.reads_columns _) h
        · exact (opened_of_reconcile_error h).trans
            (Storage.opened_of_reads (Storage.reads_columns _) hcolumns)
      · exact opened_of_reconcile_error h

/-! ## Registries -/

/-- Schemas are migrated one after the other, and each result is kept. -/
theorem migrateEach_cons_eq_ok_iff {one : Schema → Program Report} {rest : List Schema}
    {summary : Summary} :
    (migrateEach one (s :: rest)).run Storage.engine st = (.ok summary, st') ↔
      ∃ more, (migrateEach one rest).run Storage.engine ((one s).run Storage.engine st).2 =
          (.ok more, st') ∧ summary = more.add s.entity ((one s).run Storage.engine st).1 := by
  rw [migrateEach]
  simp only [Program.bind_eq, Program.pure_eq]
  constructor
  · intro h
    obtain ⟨result, st₁, hone, h⟩ := Program.run_bind_eq_ok.1 h
    obtain ⟨more, st₂, hrest, h⟩ := Program.run_bind_eq_ok.1 h
    obtain ⟨hadd, rfl⟩ := Prod.mk.inj h
    rw [Program.run_attempt] at hone
    obtain ⟨hresult, rfl⟩ := Prod.mk.inj hone
    rw [Except.ok.inj hresult]
    exact ⟨more, hrest, (Except.ok.inj hadd).symm⟩
  · rintro ⟨more, hrest, rfl⟩
    exact Program.run_bind_eq_ok.2 ⟨_, _, Program.run_attempt _ _ _,
      Program.run_bind_eq_ok.2 ⟨more, st', hrest, rfl⟩⟩

theorem isSuccess_add {entity : String} {result : Except Failure Report} {summary : Summary}
    (h : (summary.add entity result).isSuccess) :
    (∃ r, result = .ok r) ∧ summary.isSuccess := by
  cases result with
  | ok r => exact ⟨⟨r, rfl⟩, h⟩
  | error e => exact nomatch h

theorem exists_of_isSuccess {one : Schema → Program Report} {rest : List Schema} {summary : Summary}
    (h : (migrateEach one (s :: rest)).run Storage.engine st = (.ok summary, st'))
    (hsuccess : summary.isSuccess) :
    ∃ r st₁ more, (one s).run Storage.engine st = (.ok r, st₁) ∧
      (migrateEach one rest).run Storage.engine st₁ = (.ok more, st') ∧ more.isSuccess := by
  obtain ⟨more, hrest, rfl⟩ := migrateEach_cons_eq_ok_iff.1 h
  obtain ⟨⟨r, hr⟩, hmore⟩ := isSuccess_add hsuccess
  exact ⟨r, _, more, Prod.ext hr rfl, hrest, hmore⟩

end Daybook.Migration
