import Daybook.Migration.Plan
import Daybook.Proofs.Result
import Daybook.Proofs.Schema.Table

/-!
# What plans come to

A plan adds what a table lacks, or else removes what is not declared. So after two plans the names
of the columns are those that the schema declares, and from then on there is nothing to do. The one
thing that no plan can do is to add a key (**`plans_converge`**).

* `Planned`: the three kinds of plans, and **`plan_eq_ok_iff`**: no other plan is made;
* `Report.applied`: the columns of a table once a plan is carried out;
* `passes`: one plan after the other.
-/

namespace Daybook.Migration

open Sql (LiveColumn)

variable {s : Schema} {live : List LiveColumn} {indexes : List String} {r : Report}

/-! ## Names of columns -/

/-- The table has columns of the declared names, and no others. -/
def SameNames (s : Schema) (live : List LiveColumn) : Prop :=
  ∀ n, n ∈ live.map LiveColumn.name ↔ n ∈ s.columnNames

namespace Report

theorem mem_missing_iff {c : Column} :
    c ∈ missing s live ↔ c ∈ s.columns ∧ c.name ∉ live.map LiveColumn.name := by
  simp [missing]

theorem mem_undeclared_iff {n : String} :
    n ∈ undeclared s live ↔ n ∈ live.map LiveColumn.name ∧ n ∉ s.columnNames := by
  simp [undeclared]

theorem missing_eq_nil_iff :
    missing s live = [] ↔ ∀ n ∈ s.columnNames, n ∈ live.map LiveColumn.name := by
  simp [List.eq_nil_iff_forall_not_mem, mem_missing_iff, Schema.columnNames]

theorem undeclared_eq_nil_iff :
    undeclared s live = [] ↔ ∀ n ∈ live.map LiveColumn.name, n ∈ s.columnNames := by
  simp only [List.eq_nil_iff_forall_not_mem, mem_undeclared_iff, not_and, not_not]

end Report

open Report

theorem sameNames_iff : SameNames s live ↔ missing s live = [] ∧ undeclared s live = [] := by
  rw [missing_eq_nil_iff, undeclared_eq_nil_iff]
  constructor
  · intro h
    exact ⟨fun n hn => (h n).2 hn, fun n hn => (h n).1 hn⟩
  · rintro ⟨hmissing, hundeclared⟩ n
    exact ⟨hundeclared n, hmissing n⟩

/-! ## Kinds of plans -/

/-- The columns are added if none of them is a key. -/
theorem mapM_addColumn (s : Schema) (columns : List Column) :
    columns.mapM s.addColumn =
      match columns.find? Column.primaryKey with
      | some key => .error (.unsupportedMigration s.table key.name)
      | none => .ok (columns.map fun c => .addColumn s.table c.toDef) := by
  induction columns with
  | nil => rfl
  | cons c rest ih =>
    rw [List.mapM_cons, ih, Schema.addColumn, List.find?_cons]
    by_cases hkey : c.primaryKey
    · simp only [hkey]
      rfl
    · rw [if_neg hkey]
      rw [Bool.not_eq_true] at hkey
      simp only [hkey]
      cases rest.find? Column.primaryKey <;> rfl

/-- The plan for a table that has columns: there is nothing to do, or something is missing, or
something is not declared. -/
inductive Planned (s : Schema) (live : List LiveColumn) (indexes : List String) : Report → Prop
  | settled (h : SameNames s live) : Planned s live indexes { table := s.table }
  | adds (hne : missing s live ≠ []) (hkeys : ∀ c ∈ missing s live, c.primaryKey = false) :
    Planned s live indexes
      { table := s.table
        added := (missing s live).map Column.name
        statements := Schema.dropIndexes indexes ++
          (missing s live).map (fun c => .addColumn s.table c.toDef) ++ s.createIndexes }
  | removes (h : missing s live = []) (hne : undeclared s live ≠ []) :
    Planned s live indexes
      { table := s.table
        removed := undeclared s live
        statements := Schema.dropIndexes indexes ++
          (undeclared s live).map (Schema.dropColumn s.table) ++ s.createIndexes }

/-- **Which plans are made** for a table that has columns. -/
theorem plan_eq_ok_iff (hlive : live ≠ []) :
    plan s live indexes = .ok r ↔ Planned s live indexes r := by
  have hempty : live.isEmpty = false := by simpa using hlive
  rw [plan, hempty, if_neg Bool.false_ne_true]
  dsimp only
  rw [mapM_addColumn]
  by_cases hmissing : missing s live = []
  · by_cases hundeclared : undeclared s live = []
    · simp only [hmissing, hundeclared, List.isEmpty_nil, Bool.and_self, if_true]
      constructor
      · intro h
        rw [← Except.ok.inj h]
        exact .settled (sameNames_iff.2 ⟨hmissing, hundeclared⟩)
      · rintro (_ | ⟨hne, -⟩ | ⟨-, hne⟩)
        · rfl
        · exact absurd hmissing hne
        · exact absurd hundeclared hne
    · have hsome : (undeclared s live).isEmpty = false := by simpa using hundeclared
      simp only [hmissing, hsome, List.isEmpty_nil, Bool.and_false, List.find?_nil, if_true,
        Bool.false_eq_true, if_false]
      constructor
      · intro h
        rw [← Except.ok.inj h]
        simpa using @Planned.removes s live indexes hmissing hundeclared
      · rintro (h | ⟨hne, -⟩ | _)
        · exact absurd (sameNames_iff.1 h).2 hundeclared
        · exact absurd hmissing hne
        · simp [Except.map]
  · have hsome : (missing s live).isEmpty = false := by simpa using hmissing
    simp only [hsome, Bool.false_and, Bool.false_eq_true, if_false]
    cases hkey : (missing s live).find? Column.primaryKey with
    | some key =>
      refine iff_of_false (fun h => nomatch h) ?_
      rintro (h | ⟨-, hkeys⟩ | ⟨h, -⟩)
      · exact hmissing (sameNames_iff.1 h).1
      · have hprimary := List.find?_some hkey
        rw [hkeys key (List.mem_of_find?_eq_some hkey)] at hprimary
        exact Bool.false_ne_true hprimary
      · exact hmissing h
    | none =>
      constructor
      · intro h
        rw [← Except.ok.inj h]
        refine .adds hmissing fun c hc => ?_
        rw [List.find?_eq_none] at hkey
        simpa using hkey c hc
      · rintro (h | _ | ⟨h, -⟩)
        · exact absurd (sameNames_iff.1 h).1 hmissing
        · rfl
        · exact absurd h hmissing

/-- **Which plans cannot be made**: those that would add a key. -/
theorem plan_eq_error_iff (hvalid : s.fault? = none) (hlive : live ≠ []) {e : Failure} :
    plan s live indexes = .error e ↔ ∃ key ∈ s.columns, key.primaryKey ∧
      key.name ∉ live.map LiveColumn.name ∧ e = .unsupportedMigration s.table key.name := by
  have hempty : live.isEmpty = false := by simpa using hlive
  rw [plan, hempty, if_neg Bool.false_ne_true]
  dsimp only
  rw [mapM_addColumn]
  cases hkey : (missing s live).find? Column.primaryKey with
  | none =>
    rw [List.find?_eq_none] at hkey
    dsimp only
    refine iff_of_false ?_ ?_
    · split
      · exact fun h => nomatch h
      · exact fun h => nomatch h
    · rintro ⟨key, hmem, hprimary, hnew, -⟩
      exact hkey key (mem_missing_iff.2 ⟨hmem, hnew⟩) hprimary
  | some key =>
    have hmissing := List.mem_of_find?_eq_some hkey
    obtain ⟨hmem, hnew⟩ := mem_missing_iff.1 hmissing
    have hprimary := List.find?_some hkey
    have hsome : (missing s live).isEmpty = false := by
      rw [List.isEmpty_eq_false_iff]
      exact List.ne_nil_of_mem hmissing
    simp only [hsome, Bool.false_and, Bool.false_eq_true, if_false]
    constructor
    · intro h
      exact ⟨key, hmem, hprimary, hnew, (Except.error.inj h).symm⟩
    · rintro ⟨key', hmem', hprimary', -, rfl⟩
      rw [Schema.eq_of_primaryKey hvalid hmem hmem' hprimary hprimary']
      rfl

/-! ## Plans carried out -/

/-- The columns of a table once a plan is carried out: those that it removes are gone, and those
that it adds come last. -/
def Report.applied (s : Schema) (r : Report) (live : List LiveColumn) : List LiveColumn :=
  live.filter (fun c => !r.removed.contains c.name) ++
    (s.columns.filter fun c => r.added.contains c.name).map fun c => .ofDef c.toDef

theorem mem_names_applied_iff {n : String} : n ∈ (r.applied s live).map LiveColumn.name ↔
    (n ∈ live.map LiveColumn.name ∧ n ∉ r.removed) ∨ (n ∈ s.columnNames ∧ n ∈ r.added) := by
  simp only [applied, List.map_append, List.mem_append, List.map_map, Schema.columnNames,
    List.mem_map, List.mem_filter, Function.comp_apply, LiveColumn.ofDef, Column.toDef,
    List.contains_iff_mem, Bool.not_eq_true', ← Bool.not_eq_true]
  constructor
  · rintro (⟨c, ⟨hc, hkept⟩, rfl⟩ | ⟨c, ⟨hc, hadded⟩, rfl⟩)
    · exact .inl ⟨⟨c, hc, rfl⟩, hkept⟩
    · exact .inr ⟨⟨c, hc, rfl⟩, hadded⟩
  · rintro (⟨⟨c, hc, rfl⟩, hkept⟩ | ⟨⟨c, hc, rfl⟩, hadded⟩)
    · exact .inl ⟨c, ⟨hc, hkept⟩, rfl⟩
    · exact .inr ⟨c, ⟨hc, hadded⟩, rfl⟩

/-- Every declared column is there after a plan. -/
theorem Planned.mem_applied (h : Planned s live indexes r) {n : String} (hn : n ∈ s.columnNames) :
    n ∈ (r.applied s live).map LiveColumn.name := by
  rw [mem_names_applied_iff]
  cases h with
  | settled h => exact .inl ⟨(h n).2 hn, List.not_mem_nil⟩
  | adds hne hkeys =>
    by_cases hlive : n ∈ live.map LiveColumn.name
    · exact .inl ⟨hlive, List.not_mem_nil⟩
    · obtain ⟨c, hc, rfl⟩ := List.mem_map.1 hn
      exact .inr ⟨hn, List.mem_map_of_mem (mem_missing_iff.2 ⟨hc, hlive⟩)⟩
  | removes h hne =>
    exact .inl ⟨missing_eq_nil_iff.1 h n hn, fun hundeclared => (mem_undeclared_iff.1 hundeclared).2 hn⟩

/-- A plan leaves columns. -/
theorem Planned.applied_ne_nil (hvalid : s.fault? = none) (h : Planned s live indexes r) :
    r.applied s live ≠ [] := by
  have hcolumns : s.columns ≠ [] := by
    rintro hnil
    rw [Schema.fault?, hnil] at hvalid
    split_ifs at hvalid
    all_goals simp_all
  obtain ⟨c, hc⟩ := List.exists_mem_of_ne_nil _ hcolumns
  obtain ⟨d, hd, -⟩ := List.mem_map.1 (h.mem_applied (List.mem_map_of_mem hc))
  exact List.ne_nil_of_mem hd

/-- Once nothing is missing, a plan leaves nothing to do. -/
theorem Planned.sameNames_applied (h : Planned s live indexes r) (hmissing : missing s live = []) :
    SameNames s (r.applied s live) := by
  intro n
  refine ⟨fun hn => ?_, h.mem_applied⟩
  rw [mem_names_applied_iff] at hn
  rcases hn with ⟨hlive, hkept⟩ | ⟨hn, -⟩
  · cases h with
    | settled h => exact (h n).1 hlive
    | adds hne hkeys => exact absurd hmissing hne
    | removes h hne =>
      by_contra hn
      exact hkept (mem_undeclared_iff.2 ⟨hlive, hn⟩)
  · exact hn

theorem Planned.missing_applied (h : Planned s live indexes r) :
    missing s (r.applied s live) = [] :=
  missing_eq_nil_iff.2 fun _ hn => h.mem_applied hn

/-- There is nothing to do just if the names are the same. -/
theorem Planned.isNoop_iff (h : Planned s live indexes r) : r.isNoop ↔ SameNames s live := by
  cases h with
  | settled h => exact iff_of_true rfl h
  | adds hne hkeys =>
    refine iff_of_false ?_ fun h => hne (sameNames_iff.1 h).1
    simp [isNoop, hne]
  | removes h hne =>
    refine iff_of_false ?_ fun h => hne (sameNames_iff.1 h).2
    simp [isNoop, hne]

/-! ## Plan after plan -/

/-- The columns of a table after one plan after the other, made with the names of the indexes that
the table has each time. -/
def passes (s : Schema) : List (List String) → List LiveColumn → Except Failure (List LiveColumn)
  | [], live => .ok live
  | indexes :: rest, live => do
    let r ← plan s live indexes
    passes s rest (r.applied s live)

/-- A plan can be made if no key is missing. -/
theorem exists_planned (hvalid : s.fault? = none) (hlive : live ≠ [])
    (hkeys : ∀ key ∈ s.columns, key.primaryKey → key.name ∈ live.map LiveColumn.name)
    (indexes : List String) : ∃ r, plan s live indexes = .ok r ∧ Planned s live indexes r := by
  cases h : plan s live indexes with
  | ok r => exact ⟨r, rfl, (plan_eq_ok_iff hlive).1 h⟩
  | error e =>
    obtain ⟨key, hkey, hprimary, hnew, -⟩ := (plan_eq_error_iff hvalid hlive).1 h
    exact absurd (hkeys key hkey hprimary) hnew

/-- Plan after plan: the first leaves nothing missing, and every later one nothing to do. -/
theorem exists_passes (hvalid : s.fault? = none) (hlive : live ≠ [])
    (hkeys : ∀ key ∈ s.columns, key.primaryKey → key.name ∈ live.map LiveColumn.name)
    (rounds : List (List String)) : ∃ live', passes s rounds live = .ok live' ∧ live' ≠ [] ∧
      (∀ key ∈ s.columns, key.primaryKey → key.name ∈ live'.map LiveColumn.name) ∧
      (rounds ≠ [] → missing s live' = []) ∧
      (2 ≤ rounds.length ∨ (rounds ≠ [] ∧ missing s live = []) → SameNames s live') := by
  induction rounds generalizing live with
  | nil => exact ⟨live, rfl, hlive, hkeys, fun h => absurd rfl h, by simp⟩
  | cons indexes rest ih =>
    obtain ⟨r, hr, hplanned⟩ := exists_planned hvalid hlive hkeys indexes
    have hkeys' : ∀ key ∈ s.columns, key.primaryKey →
        key.name ∈ (r.applied s live).map LiveColumn.name :=
      fun key hkey _ => hplanned.mem_applied (List.mem_map_of_mem hkey)
    obtain ⟨live', hrest, hne, hkeys'', hmissing, hsame⟩ :=
      ih (hplanned.applied_ne_nil hvalid) hkeys'
    refine ⟨live', Result.bind_eq_ok_iff.2 ⟨r, hr, hrest⟩, hne, hkeys'', fun _ => ?_, fun h => ?_⟩
    · by_cases hnil : rest = []
      · subst hnil
        rw [← Except.ok.inj hrest]
        exact hplanned.missing_applied
      · exact hmissing hnil
    · by_cases hnil : rest = []
      · subst hnil
        rw [← Except.ok.inj hrest]
        simp at h
        exact hplanned.sameNames_applied h
      · exact hsame (.inr ⟨hnil, hplanned.missing_applied⟩)

/-- **Plans converge.** A plan cannot be made just if the key is missing. Otherwise there is nothing
left to do after two plans, and then the columns have the declared names. A plan does nothing just
if they have them already; it does not both add and remove, removes no declared column, and leaves
columns. -/
theorem plans_converge (hvalid : s.fault? = none) (hlive : live ≠ []) :
    (∀ indexes e, plan s live indexes = .error e ↔ ∃ key ∈ s.columns, key.primaryKey ∧
      key.name ∉ live.map LiveColumn.name ∧ e = .unsupportedMigration s.table key.name) ∧
    ((∀ key ∈ s.columns, key.primaryKey → key.name ∈ live.map LiveColumn.name) →
      ∀ rounds : List (List String), 2 ≤ rounds.length → ∃ live', passes s rounds live = .ok live' ∧
        SameNames s live' ∧ ∀ indexes, ∃ r, plan s live' indexes = .ok r ∧ r.isNoop) ∧
    ∀ indexes r, plan s live indexes = .ok r → (r.isNoop ↔ SameNames s live) ∧
      (r.added = [] ∨ r.removed = []) ∧ (∀ n ∈ r.removed, n ∉ s.columnNames) ∧
      r.applied s live ≠ [] := by
  refine ⟨fun indexes e => plan_eq_error_iff hvalid hlive, fun hkeys rounds hrounds => ?_,
    fun indexes r hr => ?_⟩
  · obtain ⟨live', hpasses, hne, hkeys', -, hsame⟩ := exists_passes hvalid hlive hkeys rounds
    have hnames := hsame (.inl hrounds)
    refine ⟨live', hpasses, hnames, fun indexes => ?_⟩
    obtain ⟨r, hr, hplanned⟩ := exists_planned hvalid hne hkeys' indexes
    exact ⟨r, hr, hplanned.isNoop_iff.2 hnames⟩
  · have hplanned := (plan_eq_ok_iff hlive).1 hr
    refine ⟨hplanned.isNoop_iff, ?_, ?_, hplanned.applied_ne_nil hvalid⟩
    · cases hplanned with
      | settled h => exact .inl rfl
      | adds hne hkeys => exact .inr rfl
      | removes h hne => exact .inl rfl
    · intro n hn
      cases hplanned with
      | settled h => exact absurd hn List.not_mem_nil
      | adds hne hkeys => exact absurd hn List.not_mem_nil
      | removes h hne => exact (mem_undeclared_iff.1 hn).2

/-! ## Items -/

/-- Items with names and prices. -/
def item : Schema where
  entity := "Item"
  table := "Item"
  columns := [(Column.text "id").key, (Column.text "name").require, Column.real "price"]

/-- The columns of a table of items from before they had prices. -/
def oldColumns : List LiveColumn :=
  [⟨"id", "TEXT", false, none, true⟩, ⟨"name", "TEXT", true, none, false⟩,
    ⟨"legacy", "TEXT", false, none, false⟩]

/-- Items get their prices with the first plan, and lose what is not declared with the second. -/
theorem plans_converge_item : item.fault? = none ∧ oldColumns ≠ [] ∧
    (∀ key ∈ item.columns, key.primaryKey → key.name ∈ oldColumns.map LiveColumn.name) ∧
    ∃ live', passes item [["idx_Item_name"], []] oldColumns = .ok live' ∧ SameNames item live' ∧
      live'.map LiveColumn.name = ["id", "name", "price"] := by
  have hkeys : ∀ key ∈ item.columns, key.primaryKey → key.name ∈ oldColumns.map LiveColumn.name := by
    decide
  refine ⟨by decide, by decide, hkeys, ?_⟩
  obtain ⟨live', hpasses, hsame, -⟩ :=
    (plans_converge (by decide) (by decide)).2.1 hkeys [["idx_Item_name"], []] (by decide)
  refine ⟨live', hpasses, hsame, ?_⟩
  have hcolumns : passes item [["idx_Item_name"], []] oldColumns = .ok
      [⟨"id", "TEXT", false, none, true⟩, ⟨"name", "TEXT", true, none, false⟩,
        .ofDef (Column.real "price").toDef] := rfl
  rw [← Except.ok.inj (hcolumns.symm.trans hpasses)]
  rfl

end Daybook.Migration
