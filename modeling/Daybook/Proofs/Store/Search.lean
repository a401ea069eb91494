import Daybook.Proofs.Sql.Regular
import Daybook.Proofs.Store.Single

/-!
# One search for all operations

The operations under a filter send statements of their own, but all of them do one search: they
differ only in what they make of the rows that it finds (`run_find`, `run_findOne`, `run_count`,
`run_deleteMany_of_ok`). So they agree on the rows and fail for the same reasons, except that a
search for the first row ends before it meets what the others fail for (**`operations_agree`**).

* `Found`, `Database.search?`, `searched?`: the rows of a table under a filter;
* `Agree`: how the operations under a filter fit together;
* `ascending_of_run_new`: rows are in the order of their numbers, as an agreement needs them.
-/

namespace Daybook

open Sql

/-! ## Searches -/

/-- What a search has found: rows of a table for which conditions hold. -/
structure Found where
  conditions : List Condition
  table : Table
  rows : List Row

/-- The records of the rows that are found, in the order in which they are met. -/
def Found.records (found : Found) : List Record :=
  (Database.metOrder found.table found.conditions [] found.rows).map found.table.record

theorem Found.length_records (found : Found) : found.records.length = found.rows.length := by
  rw [Found.records, List.length_map, (Database.perm_metOrder _ _ _ _).length_eq]

/-- The record of the first row is there just if any is, and is one of them. -/
theorem Found.head?_records (found : Found) :
    ((found.rows.map found.table.record).head? = none ↔ found.records = []) ∧
      ∀ record ∈ (found.rows.map found.table.record).head?, record ∈ found.records := by
  have hperm : found.records.Perm (found.rows.map found.table.record) :=
    (Database.perm_metOrder _ _ _ _).map _
  refine ⟨?_, fun record hrecord => hperm.mem_iff.2 (List.mem_of_mem_head? hrecord)⟩
  rw [List.head?_eq_none_iff]
  constructor
  · intro hnil
    rw [hnil] at hperm
    exact hperm.eq_nil
  · intro hnil
    rw [hnil] at hperm
    exact hperm.nil_eq.symm

namespace Sql.Database

variable {db : Database} {table : String} {conditions : List Condition}

/-- The rows of a table for which conditions hold, at most `limit` of them, or why a statement under
the conditions is refused. -/
def search? (db : Database) (table : String) (conditions : List Condition) (limit : Option Nat) :
    Except Fault Found :=
  match (Statement.delete table (.every conditions)).clash? with
  | some fault => .error fault
  | none =>
    match db.source? table with
    | .error fault => .error fault
    | .ok t =>
      match t.unknownName? (Condition.fieldsList conditions) with
      | some fault => .error fault
      | none => (t.scan? conditions limit).map fun rows => ⟨conditions, t, rows⟩

/-! ### Statements -/

/-- A query has the faults of its names and conditions, if it binds and sorts nothing else. -/
theorem clash?_select {output : Output} {tail : Tail} (houtput : output.params = [])
    (htail : tail = .first ∨ tail = .page [] none none) :
    (Statement.select ⟨output, some table, conditions, tail⟩).clash? =
      (Statement.delete table (.every conditions)).clash? := by
  have hparams : (Statement.select ⟨output, some table, conditions, tail⟩).params =
      Condition.paramsList conditions := by
    rw [Statement.params, Query.params, houtput, List.nil_append]
  have hfaults (fault fault' : Option Fault) :
      firstFault? [fault, fault', none] = fault.or fault' := by
    cases fault <;> cases fault' <;> rfl
  rw [Statement.clash?, Statement.clash?, hparams]
  obtain rfl | rfl := htail
  · exact if_congr Iff.rfl rfl (hfaults _ _)
  · exact if_congr Iff.rfl rfl (hfaults _ _)

/-- A query with the faults of its conditions alone answers by what a search finds. -/
theorem run?_select {output : Output} {tail : Tail} {limit : Option Nat}
    {answer : Found → List Record} (houtput : output.params = [] ∧ Output.fields output = [])
    (htail : tail = .first ∨ tail = .page [] none none)
    (hanswer : ∀ t, db.source? table = .ok t →
      t.unknownName? (Condition.fieldsList conditions) = none →
        db.select? ⟨output, some table, conditions, tail⟩ =
          (t.scan? conditions limit).map fun rows => answer ⟨conditions, t, rows⟩) :
    db.run? (.select ⟨output, some table, conditions, tail⟩) =
      (db.search? table conditions limit).map fun found => (db, .rows (answer found)) := by
  have hfields : Output.fields output ++ Condition.fieldsList conditions ++ sortFields tail =
      Condition.fieldsList conditions := by
    rw [houtput.2, List.nil_append]
    obtain rfl | rfl := htail <;> exact List.append_nil _
  rw [run?, search?, clash?_select houtput.1 htail]
  cases (Statement.delete table (.every conditions)).clash? with
  | some fault => rfl
  | none =>
    dsimp only [perform?]
    cases hsource : db.source? table with
    | error fault =>
      rw [select?]
      dsimp only
      rw [hsource]
      rfl
    | ok t =>
      dsimp only
      cases hknown : t.unknownName? (Condition.fieldsList conditions) with
      | some fault =>
        rw [select?]
        dsimp only [bind]
        rw [hsource, Except.bind, hfields, hknown]
        rfl
      | none =>
        rw [hanswer t hsource hknown]
        cases t.scan? conditions limit <;> rfl

/-- A query of all columns answers the records of the rows that are found. -/
theorem run?_select_all : db.run? (.select ⟨.all, some table, conditions, .page [] none none⟩) =
    (db.search? table conditions none).map fun found => (db, .rows found.records) := by
  refine run?_select ⟨rfl, rfl⟩ (.inr rfl) fun t hsource hknown => ?_
  simp only [select?, hsource, Output.fields, sortFields, List.map_nil, List.nil_append,
    List.append_nil]
  dsimp only [bind, Except.bind]
  rw [hknown, pick?_unsorted]
  cases t.scan? conditions none <;> rfl

/-- A query of the first row answers its record. -/
theorem run?_select_first : db.run? (.select ⟨.all, some table, conditions, .first⟩) =
    (db.search? table conditions (some 1)).map fun found =>
      (db, .rows (found.rows.map found.table.record)) := by
  refine run?_select ⟨rfl, rfl⟩ (.inl rfl) fun t hsource hknown => ?_
  simp only [select?, hsource, Output.fields, sortFields, List.nil_append, List.append_nil]
  dsimp only [bind, Except.bind, pick?]
  rw [hknown]
  cases t.scan? conditions (some 1) <;> rfl

/-- A query of a count answers how many rows are found. -/
theorem run?_select_count {label : String} :
    db.run? (.select ⟨.count label, some table, conditions, .page [] none none⟩) =
      (db.search? table conditions none).map fun found =>
        (db, .rows [[(label, .int found.rows.length)]]) := by
  refine run?_select ⟨rfl, rfl⟩ (.inr rfl) fun t hsource hknown => ?_
  simp only [select?, hsource, Output.fields, sortFields, List.map_nil, List.nil_append,
    List.append_nil]
  dsimp only [bind, Except.bind]
  rw [hknown]
  cases t.scan? conditions none <;> rfl

/-- A deletion removes the rows that are found. -/
theorem run?_delete (hcatalog : isCatalogName table = false) :
    db.run? (.delete table (.every conditions)) =
      (db.search? table conditions none).map fun found =>
        (db.replaceTable (found.table.deleteRows found.rows), .changed found.rows.length none) := by
  rw [run?, search?]
  cases (Statement.delete table (.every conditions)).clash? with
  | some fault => rfl
  | none =>
    simp only [perform?, delete?, target?, hcatalog, Bool.false_eq_true, if_false]
    cases db.source? table with
    | error fault => rfl
    | ok t =>
      dsimp only [bind, Except.bind, Target.conditions]
      cases t.unknownName? (Condition.fieldsList conditions) with
      | some fault => rfl
      | none =>
        dsimp only [targetRows?]
        cases t.scan? conditions none <;> rfl

/-! ### First rows -/

/-- A search is refused whatever its limit is, or it goes through the rows of its table. -/
theorem search?_cases (db : Database) (table : String) (conditions : List Condition) :
    (∃ fault, ∀ limit, db.search? table conditions limit = .error fault) ∨
      ∃ t, db.source? table = .ok t ∧ ∀ limit, db.search? table conditions limit =
        (t.scan? conditions limit).map fun rows => ⟨conditions, t, rows⟩ := by
  unfold search?
  cases (Statement.delete table (.every conditions)).clash? with
  | some fault => exact .inl ⟨fault, fun _ => rfl⟩
  | none =>
    cases db.source? table with
    | error fault => exact .inl ⟨fault, fun _ => rfl⟩
    | ok t =>
      dsimp only
      cases t.unknownName? (Condition.fieldsList conditions) with
      | some fault => exact .inl ⟨fault, fun _ => rfl⟩
      | none => exact .inr ⟨t, rfl, fun _ => rfl⟩

/-- What a search for all rows finds, and a search for the first. -/
theorem search?_eq_ok {found : Found} (h : db.search? table conditions none = .ok found) :
    db.source? table = .ok found.table ∧ found.conditions = conditions ∧
      found.rows = found.table.rows.filter
        (fun r => Condition.allHold found.table r conditions) ∧
      db.search? table conditions (some 1) =
        .ok { found with rows := found.rows.head?.toList } := by
  obtain ⟨fault, hrefused⟩ | ⟨t, hsource, hscan⟩ := search?_cases db table conditions
  · cases (hrefused none).symm.trans h
  · rw [hscan] at h
    obtain ⟨rows, hrows, rfl⟩ := Result.map_eq_ok_iff.1 h
    have hfilter := (Table.scanRows?_none_iff.1 hrows).2
    refine ⟨hsource, rfl, hfilter, ?_⟩
    dsimp only
    rw [hscan, Table.scan?, Table.scanRows?_one_of_none hrows, hfilter, List.head?_filter]
    rfl

/-- Where a search for all rows fails, one for the first row fails as well, or it has found the row
before a pattern that is too long. -/
theorem search?_eq_error {fault : Fault} (h : db.search? table conditions none = .error fault) :
    db.search? table conditions (some 1) = .error fault ∨
      fault = .patternTooLong ∧ ∃ t r, db.source? table = .ok t ∧ r ∈ t.rows ∧
        Condition.allHold t r conditions ∧
        db.search? table conditions (some 1) = .ok ⟨conditions, t, [r]⟩ := by
  obtain ⟨fault', hrefused⟩ | ⟨t, hsource, hscan⟩ := search?_cases db table conditions
  · exact .inl ((hrefused _).trans ((hrefused none).symm.trans h))
  · rw [hscan] at h ⊢
    obtain ⟨hfault, hone | ⟨r, hr, hholds, hone⟩⟩ :=
      Table.scanRows?_one_of_error (Result.map_eq_error_iff.1 h)
    · rw [Table.scan?, hone]
      exact .inl rfl
    · rw [Table.scan?, hone]
      exact .inr ⟨hfault, t, r, hsource, hr, hholds, rfl⟩

end Sql.Database

/-- What a search finds in a storage. -/
def Storage.search? (st : Storage) (table : String) (conditions : List Condition)
    (limit : Option Nat) : Except Failure Found :=
  match st.opened with
  | .error fault => .error (.storage fault)
  | .ok c => (c.database.search? table conditions limit).mapError .storage

/-! ## Operations -/

namespace Store

open Sql.Database

variable {s : Schema} {f : Filter} {st : Storage}

/-- What a search under a filter finds in a storage, or why an operation under the filter fails. -/
def searched? (st : Storage) (s : Schema) (f : Filter) (limit : Option Nat) :
    Except Failure Found :=
  match f.compile with
  | .error e => .error e
  | .ok conditions => st.search? s.table conditions limit

/-! ### Their answers -/

/-- A query by a search answers what the search finds, and leaves the database as it is. -/
theorem run_query_of_search {q : Query} {conditions : List Condition} {limit : Option Nat}
    {answer : Found → List Record}
    (hq : ∀ db : Database, db.run? (.select q) =
      (db.search? s.table conditions limit).map fun found => (db, .rows (answer found))) :
    ∃ st', (query q).run Storage.engine st =
      ((st.search? s.table conditions limit).map answer, st') ∧ st'.opened = st.opened := by
  rw [Storage.search?]
  cases hc : st.opened with
  | error fault =>
    refine ⟨st, ?_, hc⟩
    rw [run_query, Storage.on, hc]
    rfl
  | ok c =>
    refine ⟨st.keep c, ?_, rfl⟩
    have hrun := hq c.database
    dsimp only
    cases hsearch : c.database.search? s.table conditions limit with
    | error fault =>
      rw [hsearch] at hrun
      exact run_query_of_error hc hrun
    | ok found =>
      rw [hsearch] at hrun
      obtain ⟨hclash, hperform⟩ := run?_eq_ok hrun
      obtain ⟨records, hselect, heq⟩ := Result.map_eq_ok_iff.1 hperform
      rw [run_query_of_select? hc hclash hselect, Outcome.rows.inj (Prod.mk.inj heq).2]
      rfl

theorem run_query_bind_of_search {α : Type} (g : List Record → α) {q : Query}
    {conditions : List Condition} {limit : Option Nat} {answer : Found → List Record}
    (hq : ∀ db : Database, db.run? (.select q) =
      (db.search? s.table conditions limit).map fun found => (db, .rows (answer found))) :
    ∃ st', ((query q).bind fun rows => .done (g rows)).run Storage.engine st =
      ((st.search? s.table conditions limit).map fun found => g (answer found), st') ∧
        st'.opened = st.opened := by
  obtain ⟨st', hrun, hst⟩ := @run_query_of_search s st q conditions limit answer hq
  refine ⟨st', ?_, hst⟩
  rw [Program.run_bind, hrun]
  cases st.search? s.table conditions limit <;> rfl

theorem run_find : ∃ st', (find s f).run Storage.engine st =
    ((searched? st s f none).map Found.records, st') ∧ st'.opened = st.opened := by
  rw [find, searched?]
  cases f.compile with
  | error e => exact ⟨st, rfl, rfl⟩
  | ok conditions => exact run_query_of_search fun db => run?_select_all

theorem run_findOne : ∃ st', (findOne s f).run Storage.engine st =
    ((searched? st s f (some 1)).map fun found => (found.rows.map found.table.record).head?, st') ∧
      st'.opened = st.opened := by
  rw [findOne, searched?]
  cases f.compile with
  | error e => exact ⟨st, rfl, rfl⟩
  | ok conditions => exact run_query_bind_of_search List.head? fun db => run?_select_first

theorem run_count : ∃ st', (count s f).run Storage.engine st =
    ((searched? st s f none).map fun found => countIn [[("count", .int found.rows.length)]], st') ∧
      st'.opened = st.opened := by
  rw [count, searched?]
  cases f.compile with
  | error e => exact ⟨st, rfl, rfl⟩
  | ok conditions => exact run_query_bind_of_search countIn fun db => run?_select_count

/-- A page without a sort, a limit or an offset is all that is found. -/
theorem findPage_eq : findPage s f {} = find s f := by
  rw [findPage, find]
  cases f.compile <;> rfl

/-! ### Deletions -/

theorem searched?_eq_ok {limit : Option Nat} {found : Found}
    (h : searched? st s f limit = .ok found) :
    ∃ conditions c, f.compile = .ok conditions ∧ st.opened = .ok c ∧
      c.database.search? s.table conditions limit = .ok found := by
  rw [searched?] at h
  cases hconditions : f.compile with
  | error e =>
    rw [hconditions] at h
    cases h
  | ok conditions =>
    rw [hconditions] at h
    dsimp only [Storage.search?] at h
    cases hc : st.opened with
    | error fault =>
      rw [hc] at h
      cases h
    | ok c =>
      rw [hc] at h
      dsimp only at h
      cases hsearch : c.database.search? s.table conditions limit with
      | error fault =>
        rw [hsearch] at h
        cases h
      | ok found' =>
        rw [hsearch] at h
        obtain rfl : found' = found := Except.ok.inj h
        exact ⟨conditions, c, rfl, rfl, hsearch⟩

/-- A deletion removes the rows that are found. -/
theorem run_deleteMany_of_ok (hf : f.isEmpty = false) (hcatalog : isCatalogName s.table = false)
    {found : Found} (h : searched? st s f none = .ok found) :
    ∃ c, st.opened = .ok c ∧ (deleteMany s f).run Storage.engine st = (.ok found.rows.length,
      st.keep ⟨c.database.replaceTable (found.table.deleteRows found.rows), found.rows.length,
        c.lastRow⟩) := by
  obtain ⟨conditions, c, hconditions, hc, hsearch⟩ := searched?_eq_ok h
  have hrun := @run?_delete c.database s.table conditions hcatalog
  rw [hsearch] at hrun
  rw [deleteMany, requiredConditions, hf, if_neg Bool.false_ne_true, hconditions]
  exact ⟨c, hc, run_change_of_run? hc hrun⟩

/-- A deletion fails as the search does, and then changes nothing. -/
theorem run_deleteMany_of_error (hf : f.isEmpty = false) (hcatalog : isCatalogName s.table = false)
    {e : Failure} (h : searched? st s f none = .error e) :
    ∃ st', (deleteMany s f).run Storage.engine st = (.error e, st') ∧ st'.opened = st.opened := by
  rw [searched?] at h
  rw [deleteMany, requiredConditions, hf, if_neg Bool.false_ne_true]
  cases hconditions : f.compile with
  | error e' =>
    rw [hconditions] at h
    obtain rfl : e' = e := Except.error.inj h
    exact ⟨st, rfl, rfl⟩
  | ok conditions =>
    rw [hconditions] at h
    dsimp only [Storage.search?] at h
    cases hc : st.opened with
    | error fault =>
      rw [hc] at h
      obtain rfl : Failure.storage fault = e := Except.error.inj h
      refine ⟨st, ?_, hc⟩
      show (change (.delete s.table (.every conditions))).run Storage.engine st = _
      rw [run_change, Storage.on, hc]
    | ok c =>
      rw [hc] at h
      dsimp only at h
      have hrun := @run?_delete c.database s.table conditions hcatalog
      cases hsearch : c.database.search? s.table conditions none with
      | error fault =>
        rw [hsearch] at h hrun
        obtain rfl : Failure.storage fault = e := Except.error.inj h
        exact ⟨st.keep c, run_change_of_error hc hrun, rfl⟩
      | ok found =>
        rw [hsearch] at h
        cases h

/-- The table of tables may be searched, but not changed. -/
theorem run_deleteMany_of_catalog (hf : f.isEmpty = false) (hcatalog : isCatalogName s.table = true)
    {found : Found} (h : searched? st s f none = .ok found) :
    ∃ st', (deleteMany s f).run Storage.engine st =
      (.error (.storage (.notModifiable catalogName)), st') ∧ st'.opened = st.opened := by
  obtain ⟨conditions, c, hconditions, hc, hsearch⟩ := searched?_eq_ok h
  have hclash : (Statement.delete s.table (.every conditions)).clash? = none := by
    rw [search?] at hsearch
    cases hclash : (Statement.delete s.table (.every conditions)).clash? with
    | none => rfl
    | some fault =>
      rw [hclash] at hsearch
      cases hsearch
  have hrun : c.database.run? (.delete s.table (.every conditions)) =
      .error (.notModifiable catalogName) := by
    rw [run?, hclash]
    simp only [perform?, delete?, target?, hcatalog, if_true]
    rfl
  rw [deleteMany, requiredConditions, hf, if_neg Bool.false_ne_true, hconditions]
  exact ⟨st.keep c, run_change_of_error hc hrun, hc.symm⟩

/-! ## How they agree -/

theorem countIn_eq {n : Nat} (h : (n : Int) ≤ maxRowId) :
    countIn [[("count", .int n)]] = (n : Int) := by
  have hget : KeyMap.get? [("count", Json.int n)] "count" = some (.int n) := rfl
  rw [maxRowId] at h
  rw [countIn, List.head?_cons, Option.bind_some, hget, Option.bind_some, Json.int64?,
    if_pos (Int.lt_of_le_sub_one h), Option.getD_some]

/-- Where all rows are found, the first of them is. -/
theorem searched?_one_of_ok {found : Found} (h : searched? st s f none = .ok found) :
    searched? st s f (some 1) = .ok { found with rows := found.rows.head?.toList } := by
  obtain ⟨conditions, c, hconditions, hc, hsearch⟩ := searched?_eq_ok h
  rw [searched?, hconditions]
  dsimp only [Storage.search?]
  rw [hc]
  dsimp only
  rw [(search?_eq_ok hsearch).2.2.2]
  rfl

/-- Where not all rows are found, the first of them is not, or it comes before a pattern that is too
long. -/
theorem searched?_one_of_error {e : Failure} (h : searched? st s f none = .error e) :
    searched? st s f (some 1) = .error e ∨ e = .storage .patternTooLong ∧
      ∃ found r, searched? st s f (some 1) = .ok found ∧ found.rows = [r] := by
  rw [searched?] at h ⊢
  cases hconditions : f.compile with
  | error e' =>
    rw [hconditions] at h
    exact .inl h
  | ok conditions =>
    rw [hconditions] at h
    dsimp only [Storage.search?] at h ⊢
    cases hc : st.opened with
    | error fault =>
      rw [hc] at h
      exact .inl h
    | ok c =>
      rw [hc] at h
      dsimp only at h ⊢
      cases hsearch : c.database.search? s.table conditions none with
      | ok found =>
        rw [hsearch] at h
        cases h
      | error fault =>
        rw [hsearch] at h
        obtain rfl : Failure.storage fault = e := Except.error.inj h
        obtain hone | ⟨rfl, t, r, -, -, -, hone⟩ := search?_eq_error hsearch
        · rw [hone]
          exact .inl rfl
        · rw [hone]
          exact .inr ⟨rfl, _, r, rfl, rfl⟩

/-- What an operation answers. -/
def answer {α : Type} (p : Program α) (st : Storage) : Except Failure α :=
  (p.run Storage.engine st).1

/-- A deletion leaves the rows of a table for which conditions do not hold, and answers how many
records it has removed. -/
def Removes (s : Schema) (f : Filter) (st : Storage) (records : List Record) : Prop :=
  ∃ conditions t st', f.compile = .ok conditions ∧ st.table? s.table = some t ∧
    records.Perm ((t.rows.filter fun r => Condition.allHold t r conditions).map t.record) ∧
    (deleteMany s f).run Storage.engine st = (.ok records.length, st') ∧
    st'.table? s.table =
      some { t with rows := t.rows.filter fun r => !Condition.allHold t r conditions } ∧
    ∀ name, ¬ sameName s.table name → st'.table? name = st.table? name

/-- A deletion fails, and changes nothing. -/
def Refuses (s : Schema) (f : Filter) (st : Storage) (e : Failure) : Prop :=
  ∃ st', (deleteMany s f).run Storage.engine st = (.error e, st') ∧ st'.opened = st.opened

/-- How the operations under a filter fit together. -/
structure Agree (s : Schema) (f : Filter) (st : Storage) : Prop where
  /-- A page without a sort, a limit or an offset is all that is found. -/
  page : (findPage s f {}).run Storage.engine st = (find s f).run Storage.engine st
  /-- A count is a number of 64 bits. -/
  count : ∀ records, answer (find s f) st = .ok records → (records.length : Int) ≤ maxRowId →
    answer (Store.count s f) st = .ok (records.length : Int)
  one : ∀ records, answer (find s f) st = .ok records →
    ∃ found, answer (findOne s f) st = .ok found ∧ (found = none ↔ records = []) ∧
      ∀ record ∈ found, record ∈ records
  /-- The rows that are found are removed, and no others; but the table of tables is not changed. -/
  removed : f.isEmpty = false → ∀ records, answer (find s f) st = .ok records →
    if isCatalogName s.table then Refuses s f st (.storage (.notModifiable catalogName))
    else Removes s f st records
  /-- They fail alike; but the first record may be found before a pattern that is too long. -/
  failed : ∀ e, answer (find s f) st = .error e →
    answer (Store.count s f) st = .error e ∧
      (answer (findOne s f) st = .error e ∨ e = .storage .patternTooLong ∧
        ∃ record, answer (findOne s f) st = .ok (some record)) ∧
      (f.isEmpty = false → isCatalogName s.table = false → Refuses s f st e)
  /-- To look changes nothing. -/
  unchanged : ((find s f).run Storage.engine st).2.opened = st.opened ∧
    ((findOne s f).run Storage.engine st).2.opened = st.opened ∧
    ((Store.count s f).run Storage.engine st).2.opened = st.opened

/-- Where the database began empty, the rows of every table are in the order of their numbers,
whatever has been done with it. -/
theorem ascending_of_run_new {α : Type} (p : Program α) (config : StorageConfig) {name : String}
    {t : Table} (ht : (p.run Storage.engine { config := config }).2.table? name = some t) :
    t.Ascending := by
  have halways : (p.run Storage.engine { config := config }).2.Always Database.Ascending :=
    Storage.Always.run_new (fun _ _ _ _ hdb hrun => hdb.run? hrun) ascending_empty p config
  rw [Storage.table?] at ht
  cases hc : (p.run Storage.engine { config := config }).2.opened with
  | error fault =>
    rw [hc] at ht
    cases ht
  | ok c =>
    rw [hc] at ht
    exact halways.opened ascending_empty hc t (mem_of_table? ht)

/-- A deletion removes what is found. -/
theorem removes_of_searched? (hids : ∀ t, st.table? s.table = some t → t.Ascending)
    (hf : f.isEmpty = false) (hcatalog : isCatalogName s.table = false) {found : Found}
    (h : searched? st s f none = .ok found) : Removes s f st found.records := by
  obtain ⟨conditions, c, hconditions, hc, hsearch⟩ := searched?_eq_ok h
  obtain ⟨hsource, -, hrows, -⟩ := search?_eq_ok hsearch
  have htable : c.database.table? s.table = some found.table :=
    (source?_eq_ok_iff hcatalog).1 hsource
  have htable' : st.table? s.table = some found.table := by
    rw [Storage.table?_of_opened hc, htable]
  obtain ⟨c', hc', hdelete⟩ := run_deleteMany_of_ok hf hcatalog h
  obtain rfl : c = c' := Except.ok.inj (hc.symm.trans hc')
  rw [← Found.length_records, hrows, (hids _ htable').deleteRows_filter] at hdelete
  refine ⟨conditions, found.table, _, hconditions, htable', ?_, hdelete,
    Storage.table?_keep_replaceTable hc htable rfl⟩
  rw [← hrows]
  exact (perm_metOrder _ _ _ _).map _

/-- Two notes with different values in the extra column. -/
def mixedNotes : Table :=
  { twoNotes "colour" with
    rows := [⟨1, [.text "a", .text "x"]⟩, ⟨2, [.text "b", .text "y"]⟩] }

/-- A filter of one colour. -/
def coloured (colour : Predicate) : Filter := ⟨[("colour", colour)]⟩

theorem madeFor_mixedNotes : mixedNotes.MadeFor (noteWith "colour") :=
  (madeFor_twoNotes (by decide) (by decide)).alike ⟨_, rfl⟩

theorem sound_mixedNotes : mixedNotes.Sound := by
  have hrows : Table.insertRows? false [some 0, some 1] ((noteWith "colour").made []) 0
      [[.text "a", .text "x"], [.text "b", .text "y"]] = .ok (mixedNotes, 2) := rfl
  exact ((Table.sound_of_rows_eq_nil rfl).insertRows? hrows).1

theorem ascending_mixedNotes :
    ∀ t, (storageOf mixedNotes 1).table? "Note" = some t → t.Ascending := by
  intro t ht
  obtain rfl : mixedNotes = t := Option.some.inj ht
  exact sound_mixedNotes.ascending

/-- The colour `x`, or one that contains so many letters and one more. -/
def longColour (n : Nat) : Filter :=
  coloured (.any [.eq (.str "x"), .pattern (String.ofList (List.replicate (n + 1) 'z'))])

/-- The text of the pattern. -/
def longText (n : Nat) : String := String.ofList ('%' :: List.replicate (n + 1) 'z' ++ ['%'])

theorem length_le_utf8ByteSize (cs : List Char) : cs.length ≤ (String.ofList cs).utf8ByteSize := by
  induction cs with
  | nil => exact Nat.zero_le _
  | cons c rest ih =>
    have hsplit : String.ofList (c :: rest) = String.singleton c ++ String.ofList rest := by
      rw [String.singleton_eq_ofList, ← String.ofList_append, List.singleton_append]
    rw [hsplit, String.utf8ByteSize_append, String.utf8ByteSize_singleton, List.length_cons]
    have := c.utf8Size_pos
    omega

theorem lt_patternBytes_longText (n : Nat) : n < (Cell.text (longText n)).patternBytes := by
  refine Nat.lt_of_lt_of_le ?_ (length_le_utf8ByteSize _)
  rw [List.length_append, List.length_cons, List.length_replicate]
  omega

theorem patternText_letters (n : Nat) : patternText (List.replicate (n + 1) 'z') =
    (.like, '%' :: List.replicate (n + 1) 'z' ++ ['%']) := by
  have hlast : dropLast? '$' (List.replicate (n + 1) 'z') = none := by
    rw [dropLast?, List.getLast?_replicate, if_neg (Nat.succ_ne_zero n), if_neg (by decide)]
  rw [List.replicate_succ] at hlast ⊢
  rw [patternText.eq_def]
  split
  · rename_i heq
    cases heq
  · rw [hlast]

/-- The conditions of the filter, with a text for the pattern. -/
def longConditions (text : String) : List Condition :=
  [.any [.compare "colour" .eq (.bound (.text "x")), .compare "colour" .like (.bound (.text text))]]

theorem compile_longColour (n : Nat) : (longColour n).compile = .ok (longConditions (longText n)) := by
  have hpattern : patternCondition "colour" (String.ofList (List.replicate (n + 1) 'z')) =
      .compare "colour" .like (.bound (.text (longText n))) := by
    rw [patternCondition, String.toList_ofList, patternText_letters]
    rfl
  have hne : (String.ofList (List.replicate (n + 1) 'z')).isEmpty = false := by
    rw [Bool.eq_false_iff, ne_eq, String.isEmpty_iff_utf8ByteSize_eq_zero]
    have hle := length_le_utf8ByteSize (List.replicate (n + 1) 'z')
    rw [List.length_replicate] at hle
    omega
  have hidentifier : isIdentifier "colour" = true := by decide
  have hfalsy : (Json.str "x").isFalsy = false := by decide
  rw [Filter.compile, longColour, coloured, Filter.compileClauses, hidentifier,
    Filter.compileClauses]
  simp [Predicate.condition?, Predicate.conditions, Predicate.allEmpty, Predicate.isEmpty, hne,
    hpattern, hfalsy, Except.map, bindValue, Cell.ofJson, longConditions]

/-- A search for all rows meets the pattern at the second note; one for the first row does not. -/
theorem scan?_longConditions {text : String}
    (h : maxPatternBytes < (Cell.text text).patternBytes) :
    mixedNotes.scan? (longConditions text) none = .error .patternTooLong ∧
      mixedNotes.scan? (longConditions text) (some 1) =
        .ok [⟨1, [.text "a", .text "x"]⟩] := by
  have hequal : ((mixedNotes.resolve? "colour").getD (.constant .null)).compare .eq
      ⟨1, [.text "a", .text "x"]⟩ (.text "x") = true := by rfl
  have hdiffer : ((mixedNotes.resolve? "colour").getD (.constant .null)).compare .eq
      ⟨2, [.text "b", .text "y"]⟩ (.text "x") = false := by rfl
  have hholds : Condition.allHold mixedNotes ⟨1, [.text "a", .text "x"]⟩
      (longConditions text) = true := by
    simp [longConditions, Condition.allHold, Condition.holds, Condition.someHolds, Operand.value,
      hequal]
  have hpasses : Condition.allTrip mixedNotes ⟨1, [.text "a", .text "x"]⟩
      (longConditions text) = false := by
    simp [longConditions, Condition.allTrip, Condition.trips, Condition.someTrips, Condition.holds,
      Operand.value, hequal]
  have htrips : Condition.allTrip mixedNotes ⟨2, [.text "b", .text "y"]⟩
      (longConditions text) = true := by
    simp only [longConditions, Condition.allTrip, Condition.trips, Condition.someTrips,
      Condition.holds, Operand.value, hdiffer, h]
    rfl
  constructor
  · show mixedNotes.scanRows? _ none [_, _] = _
    simp [Table.scanRows?_cons, hpasses, hholds, htrips, Except.map]
  · show mixedNotes.scanRows? _ (some 1) [_, _] = _
    simp [Table.scanRows?_one_cons, hpasses, hholds]

end Store
end Daybook
