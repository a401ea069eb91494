import Daybook.Proofs.Migration.Create
import Daybook.Proofs.Migration.Preserve

/-!
# What one migration makes of the columns

A migration that comes to its end makes the table of its schema with the declared columns, or
carries out the plan for the columns that it finds; it leaves the columns of all other tables
(**`turned_of_migrate`**). So every declared column is there afterwards, and if every one was there
before, no others are.

* `Table.live`, `Storage.live?`: what a database tells of the columns of a table;
* `Database.Ready`: what a migration needs to find the tables of schemas;
* `Turned`: what a migration makes of the columns;
* `Complete`, `Settled`: every declared column is there, and no others are.
-/

namespace Daybook

open Sql

/-! ## Columns of tables -/

/-- What a database tells of the columns of the table. -/
def Sql.Table.live (t : Table) : List LiveColumn := t.columns.map LiveColumn.ofDef

/-- What the database, as it is opened, tells of the columns of a table. -/
def Storage.live? (st : Storage) (name : String) : Option (List LiveColumn) :=
  (st.table? name).map Table.live

theorem Storage.live?_of_opened {st : Storage} {c : Connection} (h : st.opened = .ok c)
    (name : String) : st.live? name = (c.database.table? name).map Table.live := by
  rw [live?, table?_of_opened h]

theorem Storage.live?_congr (st : Storage) {a b : String} (h : sameName a b) :
    st.live? a = st.live? b := by
  rw [live?, live?, table?, table?]
  split
  · rw [Database.table?_congr h]
  · rfl

/-- The columns that a schema declares, as a database tells of them. -/
def Schema.live (s : Schema) : List LiveColumn := s.columns.map fun c => .ofDef c.toDef

theorem Schema.names_live (s : Schema) : s.live.map LiveColumn.name = s.columnNames := by
  rw [live, List.map_map]
  rfl

namespace Sql

/-! ## Tables that are found -/

/-- The table has columns, and its name is not taken otherwise; where it is the name of a schema up
to the case of letters, it is exactly that. -/
structure Table.Ready (schemas : List Schema) (t : Table) : Prop where
  columns : t.columns ≠ []
  notCatalog : Database.isCatalogName t.name = false
  spelled : ∀ s ∈ schemas, sameName t.name s.table → t.name = s.table

/-- A database in which a migration finds the tables of schemas. -/
structure Database.Ready (schemas : List Schema) (db : Database) : Prop where
  regular : db.Regular
  tables : ∀ t ∈ db.tables, t.Ready schemas

variable {schemas : List Schema} {s : Schema} {db db' : Database}

/-- A migration finds the columns that the table has. -/
theorem Database.Ready.foundColumns (h : db.Ready schemas) (hs : s ∈ schemas) :
    Migration.foundColumns db s.table = ((db.table? s.table).map Table.live).getD [] := by
  rw [Migration.foundColumns]
  cases ht : db.table? s.table with
  | none =>
    rw [Migration.hasTable_eq_false ht]
    rfl
  | some t =>
    have hmem := Database.mem_of_table? ht
    have hready := h.tables t hmem
    have hname := hready.spelled s hs (Database.sameName_of_table? ht)
    have hthere : db.hasTable s.table = true :=
      List.any_eq_true.2 ⟨t, hmem, decide_eq_true hname⟩
    have hsource : db.source? s.table = .ok t := by
      rw [Database.source?, ← hname, hready.notCatalog, if_neg Bool.false_ne_true, hname, ht]
    rw [hthere, if_pos rfl, Database.liveColumns, hsource]
    rfl

/-- Where columns of a table were removed and others added, the tables are found as before. -/
theorem Database.Reshaped.ready {removed : List String} {added : List ColumnDef} {table : String}
    (h : db.Reshaped table removed added db') (hdb : db.Ready schemas) (hregular : db'.Regular)
    (hcolumns : ∀ t', db'.table? table = some t' → t'.columns ≠ []) : db'.Ready schemas := by
  refine ⟨hregular, fun t' ht' => ?_⟩
  obtain ⟨t, ht, hone⟩ := (Result.exists_of_forall₂ h).1 t' ht'
  have hready := hdb.tables t ht
  split_ifs at hone with hname
  · rw [← hone.name] at hname
    have hcolumns' := hcolumns t' (hregular.table?_of_mem ht' hname)
    exact ⟨hcolumns', hone.name ▸ hready.notCatalog, hone.name ▸ hready.spelled⟩
  · obtain ⟨indexes, rfl⟩ := hone
    exact ⟨hready.columns, hready.notCatalog, hready.spelled⟩

/-- The columns of the other tables stay. -/
theorem Database.Reshaped.live_of_ne {removed : List String} {added : List ColumnDef}
    {table name : String} (h : db.Reshaped table removed added db') (hne : ¬ sameName table name) :
    (db'.table? name).map Table.live = (db.table? name).map Table.live := by
  have hrel := h.rel_table? name
  cases ht : db.table? name with
  | none =>
    rw [ht] at hrel
    generalize db'.table? name = found at hrel ⊢
    cases hrel
    rfl
  | some t =>
    have hname : ¬ sameName t.name table := by
      have hsame := sameName_of_table? ht
      rw [sameName_iff] at hsame hne ⊢
      rw [hsame]
      exact fun h => hne h.symm
    rw [ht] at hrel
    generalize db'.table? name = found at hrel ⊢
    cases hrel with
    | some htable =>
      rw [if_neg hname] at htable
      obtain ⟨indexes, rfl⟩ := htable
      rfl

/-- Names that are those of columns tell the columns as they are spelled. -/
theorem Table.Regular.isNamed_eq_contains {t : Table} (h : t.Regular) {names : List String}
    (hnames : ∀ n ∈ names, n ∈ t.live.map LiveColumn.name) {c : ColumnDef} (hc : c ∈ t.columns) :
    c.isNamed names = names.contains c.name := by
  rw [Bool.eq_iff_iff, List.contains_iff_mem, ColumnDef.isNamed, List.any_eq_true]
  constructor
  · rintro ⟨n, hn, hsame⟩
    obtain ⟨_, hlive, rfl⟩ := List.mem_map.1 (hnames n hn)
    obtain ⟨d, hd, rfl⟩ := List.mem_map.1 hlive
    have hcd : c = d := List.inj_on_of_nodup_map (f := fun c : ColumnDef => upper c.name) h.names
      hc hd ((sameName_iff _ _).1 hsame)
    rwa [hcd]
  · intro hmem
    exact ⟨c.name, hmem, (sameName_iff _ _).2 rfl⟩

end Sql

namespace Migration

variable {schemas : List Schema} {s s' : Schema} {live : List LiveColumn} {indexes : List String}
  {r : Report} {st st' : Storage}

/-! ## Plans carried out -/

/-- A plan removes columns that are there and not declared. -/
theorem Planned.mem_removed (h : Planned s live indexes r) {n : String} (hn : n ∈ r.removed) :
    n ∈ live.map LiveColumn.name ∧ n ∉ s.columnNames := by
  cases h with
  | settled _ => exact absurd hn List.not_mem_nil
  | adds _ _ => exact absurd hn List.not_mem_nil
  | removes _ _ => exact Report.mem_undeclared_iff.1 hn

theorem Planned.created (h : Planned s live indexes r) : r.created = false := by
  cases h <;> rfl

/-- To do nothing leaves the columns. -/
theorem Planned.applied_of_isNoop (h : Planned s live indexes r) (hnoop : r.isNoop) :
    r.applied s live = live := by
  have hsame := h.isNoop_iff.1 hnoop
  cases h with
  | settled _ => simp [Report.applied]
  | adds hne _ => exact absurd (sameNames_iff.1 hsame).1 hne
  | removes _ hne => exact absurd (sameNames_iff.1 hsame).2 hne

/-- The columns of a table for which a plan was carried out. -/
theorem Planned.live_of_reshaped {t t' : Table} (h : Planned s t.live indexes r) (ht : t.Regular)
    (hreshaped : t.Reshaped r.removed (r.additions s) t') : t'.live = r.applied s t.live := by
  have hkept : (t.columns.filter fun c => !c.isNamed r.removed) =
      t.columns.filter fun c => !r.removed.contains c.name := by
    refine List.filter_congr fun c hc => ?_
    rw [ht.isNamed_eq_contains (fun n hn => (h.mem_removed hn).1) hc]
  rw [Table.live, hreshaped.columns, hkept, Report.applied, Report.additions, Table.live,
    List.map_append, List.filter_map, List.map_map]
  rfl

/-! ## Migrations -/

/-- The database, as it is opened, is one in which a migration finds the tables of schemas. -/
def ReadyAt (schemas : List Schema) (st : Storage) : Prop :=
  ∀ c, st.opened = .ok c → c.database.Ready schemas

/-- What a migration makes of the columns of its table and of the others. -/
structure Turned (s : Schema) (r : Report) (st st' : Storage) : Prop where
  table : r.table = s.table
  fresh : st.live? s.table = none → r = .create s ∧ st'.live? s.table = some s.live
  found : ∀ live, st.live? s.table = some live →
    ∃ indexes, Planned s live indexes r ∧ st'.live? s.table = some (r.applied s live)
  others : ∀ name, ¬ sameName s.table name → st'.live? name = st.live? name

/-- A table that is made is found as the others are. -/
theorem ready_madeIn {db : Database} (hdb : db.Ready schemas) (hvalid : s.fault? = none)
    (hspelled : ∀ s' ∈ schemas, sameName s.table s'.table → s.table = s'.table)
    (hcatalog : Database.isCatalogName s.table = false)
    (hnames : (s.columns.map fun c => upper c.name).Nodup) (hnone : db.table? s.table = none) :
    (s.madeIn db).Ready schemas := by
  have hcolumns : ((s.made (s.indexedIn db)).columns.map fun c => upper c.name).Nodup := by
    rwa [Schema.made, List.map_map]
  refine ⟨hdb.regular.append ⟨hcolumns, fun r hr => absurd hr List.not_mem_nil⟩ hnone, ?_⟩
  refine List.forall_mem_append.2 ⟨hdb.tables, List.forall_mem_singleton.2 ⟨?_, hcatalog, hspelled⟩⟩
  exact fun h => (Schema.fault?_eq_none_iff.1 hvalid).columns_ne (List.map_eq_nil_iff.1 h)

section

variable (hvalid : s.fault? = none) (hs : s ∈ schemas)
  (hspelled : ∀ s' ∈ schemas, sameName s.table s'.table → s.table = s'.table)
  (hst : ReadyAt schemas st) (h : (migrate s).run Storage.engine st = (.ok r, st'))

include hvalid hs hspelled hst h

/-- **What a migration makes of the columns**: it makes the table, or carries out the plan for what
it finds. -/
theorem turned_of_migrate : Turned s r st st' ∧ ReadyAt schemas st' := by
  obtain ⟨c, st₁, indexes, plan, hc, hc₁, hplan, happly⟩ := exists_plan_of_found h
  have hdb := hst c hc
  have hlive := Storage.live?_of_opened hc
  rw [hdb.foundColumns hs] at hplan
  cases ht : c.database.table? s.table with
  | none =>
    have hnone : st.table? s.table = none := (Storage.table?_of_opened hc _).trans ht
    rw [ht] at hplan
    obtain rfl := Except.ok.inj hplan
    obtain ⟨rfl, -⟩ := exists_runAll?_of_apply hc₁ happly
    have happly : (apply { Report.create s with created := true }).run Storage.engine st₁ = _ :=
      happly
    obtain ⟨hnames, c', hc', hmade⟩ := apply_create_eq_ok hc₁ ht happly
    have hlive' := Storage.live?_of_opened hc'
    refine ⟨⟨rfl, fun _ => ⟨rfl, ?_⟩, fun live hsome => ?_, fun name hne => ?_⟩, fun d hd => ?_⟩
    · rw [hlive', hmade, Schema.table?_madeIn ht, Option.map_some, Schema.live, Table.live,
        Schema.made, List.map_map]
      rfl
    · rw [hlive, ht] at hsome
      cases hsome
    · rw [hlive', hmade, Schema.table?_madeIn_of_ne hne, hlive]
    · obtain rfl := Except.ok.inj (hc'.symm.trans hd)
      rw [hmade]
      exact ready_madeIn hdb hvalid hspelled (hasNames_of_migrate hnone true h).notCatalog hnames ht
  | some t =>
    have hmem := Database.mem_of_table? ht
    rw [ht, Option.map_some, Option.getD_some] at hplan
    have hplanned := (plan_eq_ok_iff fun hnil =>
      (hdb.tables t hmem).columns (List.map_eq_nil_iff.1 hnil)).1 hplan
    obtain ⟨rfl, c', os, hc', hos⟩ := exists_runAll?_of_apply hc₁ happly
    have hreshaped := hdb.regular.runAll?_altering hplanned.altering.1 hos
    obtain ⟨t', ht', htable⟩ := hreshaped.exists_table? ht
    have happlied := hplanned.live_of_reshaped (hdb.regular.tables t hmem) htable
    have hlive' := Storage.live?_of_opened hc'
    refine ⟨⟨table_of_plan hplan, fun hnone => ?_, fun live hsome => ⟨indexes, ?_⟩,
      fun name hne => ?_⟩, fun d hd => ?_⟩
    · rw [hlive, ht] at hnone
      cases hnone
    · rw [hlive, ht, Option.map_some, Option.some_inj] at hsome
      subst hsome
      rw [hlive', ht', Option.map_some, happlied]
      exact ⟨hplanned, rfl⟩
    · rw [hlive', hlive, hreshaped.live_of_ne hne]
    · obtain rfl := Except.ok.inj (hc'.symm.trans hd)
      refine hreshaped.ready hdb (hdb.regular.runAll? hos) fun u hu hnil => ?_
      obtain rfl := Option.some.inj (ht'.symm.trans hu)
      rw [Table.live, hnil] at happlied
      exact hplanned.applied_ne_nil hvalid happlied.symm

end

/-! ## What is there after a migration -/

/-- The table of the schema has every declared column. -/
def Complete (s : Schema) (st : Storage) : Prop :=
  ∃ live, st.live? s.table = some live ∧ Report.missing s live = []

/-- The table of the schema has the declared columns, and no others. -/
def Settled (s : Schema) (st : Storage) : Prop :=
  ∃ live, st.live? s.table = some live ∧ SameNames s live

theorem Settled.complete (h : Settled s st) : Complete s st := by
  obtain ⟨live, hlive, hsame⟩ := h
  exact ⟨live, hlive, (sameNames_iff.1 hsame).1⟩

namespace Turned

variable (h : Turned s r st st')

include h

theorem settled_of_fresh (hnone : st.live? s.table = none) : Settled s st' := by
  refine ⟨s.live, (h.fresh hnone).2, fun n => ?_⟩
  rw [s.names_live]

/-- A migration leaves no declared column missing. -/
theorem complete : Complete s st' := by
  cases hlive : st.live? s.table with
  | none => exact (h.settled_of_fresh hlive).complete
  | some live =>
    obtain ⟨indexes, hplanned, hlive'⟩ := h.found live hlive
    exact ⟨_, hlive', hplanned.missing_applied⟩

/-- Where no declared column is missing, a migration leaves no others. -/
theorem settled (hcomplete : Complete s st) : Settled s st' := by
  obtain ⟨live, hlive, hmissing⟩ := hcomplete
  obtain ⟨indexes, hplanned, hlive'⟩ := h.found live hlive
  exact ⟨_, hlive', hplanned.sameNames_applied hmissing⟩

/-- A migration has nothing to do just if the table has the declared columns, and no others. -/
theorem isNoop_iff : r.isNoop ↔ Settled s st := by
  cases hlive : st.live? s.table with
  | none =>
    obtain ⟨rfl, -⟩ := h.fresh hlive
    refine iff_of_false (fun hnoop => nomatch hnoop) ?_
    rintro ⟨live, hsome, -⟩
    rw [hlive] at hsome
    cases hsome
  | some live =>
    obtain ⟨indexes, hplanned, -⟩ := h.found live hlive
    rw [hplanned.isNoop_iff]
    constructor
    · intro hsame
      exact ⟨live, hlive, hsame⟩
    · rintro ⟨live', hsome, hsame⟩
      obtain rfl := Option.some.inj (hlive.symm.trans hsome)
      exact hsame

/-- A migration that has nothing to do leaves the columns of all tables. -/
theorem live?_of_isNoop (hnoop : r.isNoop) (name : String) : st'.live? name = st.live? name := by
  by_cases hname : sameName s.table name
  · obtain ⟨live, hlive, -⟩ := h.isNoop_iff.1 hnoop
    obtain ⟨indexes, hplanned, hlive'⟩ := h.found live hlive
    rw [← st'.live?_congr hname, ← st.live?_congr hname, hlive, hlive',
      hplanned.applied_of_isNoop hnoop]
  · exact h.others name hname

/-- A migration says that it made the table just if there was none. -/
theorem created_iff : r.created ↔ st.table? s.table = none := by
  cases ht : st.table? s.table with
  | none =>
    obtain ⟨rfl, -⟩ := h.fresh (by rw [Storage.live?, ht, Option.map_none])
    exact iff_of_true rfl rfl
  | some t =>
    obtain ⟨indexes, hplanned, -⟩ := h.found t.live (by rw [Storage.live?, ht, Option.map_some])
    rw [hplanned.created]
    exact iff_of_false Bool.false_ne_true (Option.some_ne_none t)

/-- A migration removes no declared column. -/
theorem not_mem_removed {n : String} (hn : n ∈ s.columnNames) : n ∉ r.removed := by
  cases hlive : st.live? s.table with
  | none =>
    obtain ⟨rfl, -⟩ := h.fresh hlive
    exact List.not_mem_nil
  | some live =>
    obtain ⟨indexes, hplanned, -⟩ := h.found live hlive
    exact fun hremoved => (hplanned.mem_removed hremoved).2 hn

end Turned
end Migration
end Daybook
