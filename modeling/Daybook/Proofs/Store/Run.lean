import Daybook.Proofs.Engine.Storage
import Daybook.Store.Find

/-!
# Statements that a storage runs

A change or a query of a storage is its statement, run on the database as it is opened. It succeeds
just if the statement does, and a statement that is refused changes nothing.

* `run_change_of_run?`, `run_change_of_error`, **`run_change_eq_ok`**: changes of rows;
* `run_query_of_select?`, `run_query_of_error`, `run_query_eq_ok`, **`run_query_eq_ok_iff`**:
  queries;
* `clash?_allColumns`: what is wrong with the text of a query, if anything is.
-/

namespace Daybook.Store

open Sql

variable {st st' : Storage} {c : Connection}

theorem run_change (s : Statement) (st : Storage) : (change s).run Storage.engine st =
    st.on fun c => (c.change? (.statement s)).map fun c => (c.changes, c) :=
  Program.run_ask (.change (.statement s) false)

theorem run_query (q : Query) (st : Storage) : (query q).run Storage.engine st =
    st.on fun c => c.query? st.config (.statement (.select q)) :=
  Program.run_ask (.query (.statement (.select q)))

theorem run_change_of_run? {s : Statement} {db : Database} {n : Nat} {last : Option Int}
    (hc : st.opened = .ok c) (h : c.database.run? s = .ok (db, .changed n last)) :
    (change s).run Storage.engine st = (.ok n, st.keep ⟨db, n, last.getD c.lastRow⟩) := by
  rw [run_change]
  exact Storage.on_of_eq_ok hc
    (Result.map_eq_ok_iff.2 ⟨_, Connection.change?_of_run? h, rfl⟩)

theorem run_change_of_error {s : Statement} {fault : Fault} (hc : st.opened = .ok c)
    (h : c.database.run? s = .error fault) :
    (change s).run Storage.engine st = (.error (.storage fault), st.keep c) := by
  rw [run_change]
  exact Storage.on_of_eq_error hc (Result.map_eq_error_iff.2 (Connection.change?_of_error h))

/-- Updates and deletions count the rows that they change. -/
theorem outcome_of_target {db db' : Database} {table : String} {target : Target} {o : Outcome}
    {s : Statement} (hs : (∃ set, s = .update table set target) ∨ s = .delete table target)
    (h : db.run? s = .ok (db', o)) : ∃ n, o = .changed n none := by
  have hperform := (Database.run?_eq_ok h).2
  obtain ⟨set, rfl⟩ | rfl := hs
  · obtain ⟨⟨d, n⟩, -, heq⟩ := Result.map_eq_ok_iff.1 hperform
    exact ⟨n, (Prod.mk.inj heq).2.symm⟩
  · obtain ⟨⟨d, n⟩, -, heq⟩ := Result.map_eq_ok_iff.1 hperform
    exact ⟨n, (Prod.mk.inj heq).2.symm⟩

/-- **What a change that succeeds has run.** -/
theorem run_change_eq_ok {table : String} {target : Target} {s : Statement} {n : Nat}
    (hs : (∃ set, s = .update table set target) ∨ s = .delete table target)
    (h : (change s).run Storage.engine st = (.ok n, st')) :
    ∃ c db, st.opened = .ok c ∧ c.database.run? s = .ok (db, .changed n none) ∧
      st' = st.keep ⟨db, n, c.lastRow⟩ := by
  have hask := h
  rw [run_change] at hask
  obtain ⟨c, -, hc, -, -⟩ := Storage.on_eq_ok hask
  cases hrun : c.database.run? s with
  | error fault =>
    rw [run_change_of_error hc hrun] at h
    cases h
  | ok p =>
    obtain ⟨db, o⟩ := p
    obtain ⟨k, rfl⟩ := outcome_of_target hs hrun
    rw [run_change_of_run? hc hrun] at h
    obtain ⟨hn, rfl⟩ := Prod.mk.inj h
    rw [← Except.ok.inj hn]
    exact ⟨c, db, hc, hrun, rfl⟩

theorem length_params_allColumns (s : Schema) (conditions : List Condition) :
    (Statement.select (allColumns s conditions (.page [] none none))).params.length =
      (Condition.paramsList conditions).length := rfl

/-- Only its conditions can be wrong in the text of a query. -/
theorem clash?_allColumns {s : Schema} {conditions : List Condition}
    (htable : nameClash? s.table = none)
    (hmarks : (Condition.paramsList conditions).length ≤ maxMarks) :
    (Statement.select (allColumns s conditions (.page [] none none))).clash? =
      whereClash? conditions := by
  rw [Statement.clash?, length_params_allColumns, if_neg (Nat.not_lt.2 hmarks)]
  show firstFault? [nameClash? s.table, whereClash? conditions, none] = _
  rw [htable]
  cases whereClash? conditions <;> rfl

theorem run_query_of_select? {q : Query} {records : List Record} (hc : st.opened = .ok c)
    (hclash : (Statement.select q).clash? = none) (h : c.database.select? q = .ok records) :
    (query q).run Storage.engine st = (.ok records, st.keep c) := by
  have hrun : c.database.run? (.select q) = .ok (c.database, .rows records) := by
    rw [Database.run?, hclash]
    exact Result.map_eq_ok_iff.2 ⟨records, h, rfl⟩
  have hselect : Statement.select q ≠ .journalMode := by simp
  rw [run_query]
  exact Storage.on_of_eq_ok hc (Connection.query?_of_run? hrun hselect)

theorem run_query_of_error {q : Query} {fault : Fault} (hc : st.opened = .ok c)
    (h : c.database.run? (.select q) = .error fault) :
    (query q).run Storage.engine st = (.error (.storage fault), st.keep c) := by
  rw [run_query]
  exact Storage.on_of_eq_error hc (Connection.query?_of_error h)

/-- What a query that succeeds has run. It leaves the database as it is. -/
theorem run_query_eq_ok {q : Query} {records : List Record}
    (h : (query q).run Storage.engine st = (.ok records, st')) :
    ∃ c, st.opened = .ok c ∧ (Statement.select q).clash? = none ∧
      c.database.select? q = .ok records ∧ st' = st.keep c := by
  have hask := h
  rw [run_query] at hask
  obtain ⟨c, -, hc, -, -⟩ := Storage.on_eq_ok hask
  cases hrun : c.database.run? (.select q) with
  | error fault =>
    rw [run_query_of_error hc hrun] at h
    cases h
  | ok p =>
    obtain ⟨hclash, hperform⟩ := Database.run?_eq_ok hrun
    obtain ⟨found, hselect, -⟩ := Result.map_eq_ok_iff.1 hperform
    rw [run_query_of_select? hc hclash hselect] at h
    obtain ⟨hfound, rfl⟩ := Prod.mk.inj h
    rw [← Except.ok.inj hfound]
    exact ⟨c, hc, hclash, hselect, rfl⟩

/-- **What a query finds.** -/
theorem run_query_eq_ok_iff {q : Query} {records : List Record} (hc : st.opened = .ok c)
    (hclash : (Statement.select q).clash? = none) :
    ((query q).run Storage.engine st).1 = .ok records ↔ c.database.select? q = .ok records := by
  cases hselect : c.database.select? q with
  | ok found =>
    rw [run_query_of_select? hc hclash hselect, Except.ok.injEq, Except.ok.injEq]
  | error fault =>
    have hrun : c.database.run? (.select q) = .error fault := by
      rw [Database.run?, hclash]
      exact Result.map_eq_error_iff.2 hselect
    rw [run_query_of_error hc hrun]
    exact iff_of_false (by simp) (by simp)

end Daybook.Store
