import Daybook.Proofs.Migration.Turn

/-!
# Schemas whose tables can be made

The rules of a schema ask for names of letters, digits and underscores that differ as they are
spelled. The names stand in statements as they are, so that more is asked of them there: they must
not be reserved, they must differ in more than the case of letters, and some may have no index or no
condition. A table is made, and its columns are found, just if the schema is writable
(**`migrate_lists_iff`**), which the rules do not ensure (`not_forall_lists_of_make`).

* `Column.Writable`, `Schema.Writable`: what the statements ask for;
* `run?_createTable_iff`, `run?_createIndex_iff`: what it takes to make a table and an index.
-/

namespace Daybook

open Sql

/-! ## What statements ask for -/

/-- The column may stand in the statements that make its table. -/
structure Column.Writable (c : Column) : Prop where
  notReserved : isReserved c.name = false
  /-- In the condition on its texts and in its index, the name stands for a value. -/
  notCall : c.toDef.allowed ≠ [] ∨ Schema.needsIndex c → upper c.name ∉ callWords
  notMoment : Schema.needsIndex c → upper c.name ∉ momentWords
  texts : ∀ text ∈ c.toDef.literals, '\x00' ∉ text.toList

theorem Column.writable_iff {c : Column} : c.Writable ↔ c.toDef.clash? true = none ∧
    (Schema.needsIndex c → upper c.name ∉ callWords ∧ upper c.name ∉ momentWords) := by
  rw [ColumnDef.clash?_eq_none_iff]
  constructor
  · intro h
    exact ⟨⟨h.notReserved, fun hallowed => h.notCall (.inl hallowed), h.texts⟩, fun hneeds =>
      ⟨h.notCall (.inr hneeds), h.notMoment hneeds⟩⟩
  · rintro ⟨⟨hname, hallowed, htexts⟩, hneeds⟩
    exact ⟨hname, fun h => h.elim hallowed fun h => (hneeds h).1, fun h => (hneeds h).2, htexts⟩

/-- The statements that make the table of the schema are in order. -/
structure Schema.Writable (s : Schema) : Prop where
  notReserved : isReserved s.table = false
  /-- The name is not one that the database keeps for itself. -/
  notOwn : Database.isReservedName s.table = false
  columns : ∀ c ∈ s.columns, c.Writable
  names : (s.columns.map fun c => upper c.name).Nodup
  width : s.columns.length ≤ Database.maxColumns

instance (c : Column) : Decidable c.Writable := decidable_of_iff _ Column.writable_iff.symm

theorem Schema.writable_iff {s : Schema} : s.Writable ↔
    (isReserved s.table = false ∧ Database.isReservedName s.table = false ∧
      (∀ c ∈ s.columns, c.toDef.clash? true = none) ∧
      (s.columns.map fun c => upper c.name).Nodup ∧ s.columns.length ≤ Database.maxColumns) ∧
    ∀ c ∈ s.columns.filter needsIndex, upper c.name ∉ callWords ∧ upper c.name ∉ momentWords := by
  constructor
  · intro h
    have hcolumns := fun c hc => Column.writable_iff.1 (h.columns c hc)
    refine ⟨⟨h.notReserved, h.notOwn, fun c hc => (hcolumns c hc).1, h.names, h.width⟩,
      fun c hc => ?_⟩
    obtain ⟨hc, hneeds⟩ := List.mem_filter.1 hc
    exact (hcolumns c hc).2 hneeds
  · rintro ⟨⟨hreserved, hown, hclash, hnames, hwidth⟩, hindexes⟩
    exact ⟨hreserved, hown, fun c hc => Column.writable_iff.2
      ⟨hclash c hc, fun hneeds => hindexes c (List.mem_filter.2 ⟨hc, hneeds⟩)⟩, hnames, hwidth⟩

instance (s : Schema) : Decidable s.Writable := decidable_of_iff _ Schema.writable_iff.symm

namespace Schema

variable {s : Schema} {c : Column} {indexed : List Column} {db : Database} {o : Outcome}

/-! ## Names of indexes -/

theorem upper_indexName (table column : String) :
    upper (indexName table column) = "IDX_" ++ upper (table ++ "_" ++ column) := by
  rw [indexName, String.append_assoc, String.append_assoc, upper_append, ← String.append_assoc]
  rfl

theorem isReserved_indexName (table column : String) :
    isReserved (indexName table column) = false := by
  have hwords : ∀ w ∈ reservedWords, w.toList.take 4 ≠ "IDX_".toList := by decide
  rw [isReserved, ← Bool.not_eq_true, List.contains_iff_mem, upper_indexName]
  intro hmem
  refine hwords _ hmem ?_
  rw [String.toList_append]
  rfl

theorem isReservedName_indexName (table column : String) :
    Database.isReservedName (indexName table column) = false := by
  rw [Database.isReservedName, upper_indexName, String.toList_append]
  rfl

/-- A table is not called like one of its indexes. -/
theorem not_sameName_indexName (table column : String) :
    ¬ sameName table (indexName table column) := by
  rw [sameName_iff]
  intro hname
  have hlength := congrArg (fun name => name.toList.length) hname
  simp [upper, indexName] at hlength
  omega

/-! ## Statements that make a table -/

theorem createTable_clash?_eq_none_iff :
    s.createTable.clash? = none ↔ isReserved s.table = false := by
  rw [createTable, Statement.clash?]
  split_ifs with hmarks
  · exact absurd hmarks (Nat.not_lt_zero _)
  · exact nameClash?_eq_none_iff

theorem createIndex_clash?_eq_none_iff (htable : isReserved s.table = false)
    (hname : isReserved c.name = false) :
    (s.createIndex c).clash? = none ↔ upper c.name ∉ callWords := by
  have hindex := nameClash?_eq_none_iff.2 (isReserved_indexName s.table c.name)
  have htable := nameClash?_eq_none_iff.2 htable
  have hcolumn : clash? false c.name [")"] = none ↔ _ := clash?_eq_none_iff
  rw [createIndex, Statement.clash?, hindex, htable, ← opening_eq_operand_iff hname, ← hcolumn]
  split_ifs with hmarks
  · exact absurd hmarks (Nat.not_lt_zero _)
  · simp [firstFault?]

/-- **What it takes to make a table** in an empty database. -/
theorem run?_createTable_iff :
    ({} : Database).run? s.createTable = .ok (db, o) ↔
      (isReserved s.table = false ∧ Database.isReservedName s.table = false ∧
        (∀ c ∈ s.columns, c.toDef.clash? true = none) ∧
        (s.columns.map fun c => upper c.name).Nodup ∧ s.columns.length ≤ Database.maxColumns) ∧
      db = ⟨[s.made []]⟩ ∧ o = .done := by
  have hfault : Database.columnsFault? true [] (s.columns.map Column.toDef) = none ↔
      (∀ c ∈ s.columns, c.toDef.clash? true = none) ∧
        (s.columns.map fun c => upper c.name).Nodup := by
    rw [Database.columnsFault?_eq_none_iff, List.forall_mem_map, List.map_map]
    simp [Function.comp_def, Column.toDef]
  have hlength : (s.columns.map Column.toDef).length = s.columns.length := List.length_map _
  rw [Database.run?_eq_ok_iff, createTable_clash?_eq_none_iff]
  constructor
  · rintro ⟨hreserved, hperform⟩
    obtain ⟨d, hcreate, heq⟩ := Result.map_eq_ok_iff.1 hperform
    obtain ⟨rfl, rfl⟩ := Prod.mk.inj heq
    obtain ⟨hown, ⟨hsome, -⟩ | ⟨-, hcolumns, hwidth, rfl⟩⟩ := Database.createTable?_eq_ok hcreate
    · cases hsome
    obtain ⟨hclash, hnames⟩ := hfault.1 hcolumns
    exact ⟨⟨hreserved, hown, hclash, hnames, hlength ▸ hwidth⟩, rfl, rfl⟩
  · rintro ⟨⟨hreserved, hown, hclash, hnames, hwidth⟩, rfl, rfl⟩
    exact ⟨hreserved, Result.map_eq_ok_iff.2 ⟨_, Database.createTable?_new rfl rfl hown
      (hfault.2 ⟨hclash, hnames⟩) (hlength.trans_le hwidth), rfl⟩⟩

theorem table?_made_alone (s : Schema) (indexed : List Column) :
    (⟨[s.made indexed]⟩ : Database).table? s.table = some (s.made indexed) :=
  @Database.table?_append [] _ _ ((sameName_iff _ _).2 rfl) rfl

section Indexes

variable (htable : isReserved s.table = false) (hown : Database.isReservedName s.table = false)
  (hnames : (s.columns.map fun c => upper c.name).Nodup)
  (hclash : ∀ c ∈ s.columns, c.toDef.clash? true = none)

include htable hown hnames hclash

/-- **What it takes to make one more index** in a database with nothing but the table. -/
theorem run?_createIndex_iff (hc : c ∈ s.columns)
    (hnew : ∀ d ∈ indexed, upper d.name ≠ upper c.name) :
    (⟨[s.made indexed]⟩ : Database).run? (s.createIndex c) = .ok (db, o) ↔
      (upper c.name ∉ callWords ∧ upper c.name ∉ momentWords) ∧
      db = ⟨[s.made (indexed ++ [c])]⟩ ∧ o = .done := by
  have hne : ∀ u ∈ ([] : List Table), ¬ sameName u.name s.table :=
    fun _ h => absurd h List.not_mem_nil
  have ht := s.table?_made_alone indexed
  have hfree : (⟨[s.made indexed]⟩ : Database).indexOwner? (indexName s.table c.name) = none := by
    have hfree : s.isFree ⟨[] ++ [s.made indexed]⟩ c :=
      isFree_append_made.2 ⟨rfl, fun d hd h => hnew d hd ((sameName_indexName_iff _ _ _).1 h)⟩
    exact Option.isNone_iff_eq_none.1 hfree
  have hnone : (⟨[s.made indexed]⟩ : Database).table? (indexName s.table c.name) = none :=
    @Database.table?_append_of_ne [] _ _ (not_sameName_indexName s.table c.name)
  have hposition : ∀ name ∈ [c.name], ((s.made indexed).position? name).isSome := by
    obtain ⟨i, hi, -⟩ : ∃ i, (s.made indexed).position? c.name = some i ∧ _ :=
      position?_made hnames hc
    rw [List.forall_mem_singleton, hi, Option.isSome_some]
  have hfault := Database.indexFault?_eq_none_iff hposition
  rw [List.forall_mem_singleton] at hfault
  obtain ⟨hname, -⟩ := ColumnDef.clash?_eq_none_iff.1 (hclash c hc)
  rw [Database.run?_eq_ok_iff, createIndex_clash?_eq_none_iff htable hname, and_assoc, ← hfault]
  refine and_congr_right fun _ => ?_
  have hreplace := @replaceTable_made _ hnames _ hne indexed _ hc
  constructor
  · intro hperform
    obtain ⟨d, hcreate, heq⟩ := Result.map_eq_ok_iff.1 hperform
    obtain ⟨rfl, rfl⟩ := Prod.mk.inj heq
    obtain ⟨t, ht', hcases⟩ := Database.createIndex?_eq_ok hcreate
    obtain rfl := Option.some.inj (ht.symm.trans ht')
    rcases hcases with ⟨htaken, -⟩ | ⟨-, hfault, rfl⟩
    · rw [hfree] at htaken
      cases htaken
    · exact ⟨hfault, hreplace, rfl⟩
  · rintro ⟨hfault, rfl, rfl⟩
    refine Result.map_eq_ok_iff.2 ⟨_, (Database.createIndex?_new
      (Database.isCatalogName_of_not_isReservedName hown) ht rfl
      (isReservedName_indexName s.table c.name) hnone hfree hfault).trans ?_, rfl⟩
    exact congrArg Except.ok hreplace

/-- What it takes to make several indexes, one after the other. -/
theorem runAll?_createIndexes_iff {cs : List Column} (hcs : ∀ c ∈ cs, c ∈ s.columns)
    (hnew : ((indexed ++ cs).map fun c => upper c.name).Nodup) {os : List Outcome} :
    (⟨[s.made indexed]⟩ : Database).runAll? (cs.map s.createIndex) = .ok (db, os) ↔
      (∀ c ∈ cs, upper c.name ∉ callWords ∧ upper c.name ∉ momentWords) ∧
      db = ⟨[s.made (indexed ++ cs)]⟩ ∧ os = cs.map fun _ => .done := by
  induction cs generalizing indexed os with
  | nil =>
    rw [List.map_nil, Database.runAll?, Except.ok.injEq, Prod.mk.injEq, List.append_nil]
    simp [eq_comm]
  | cons c rest ih =>
    obtain ⟨hc, hrest⟩ := List.forall_mem_cons.1 hcs
    have hnew' : ∀ d ∈ indexed, upper d.name ≠ upper c.name := by
      rw [List.map_append, List.nodup_append] at hnew
      exact fun d hd =>
        hnew.2.2 _ (List.mem_map_of_mem hd) _ (List.mem_map_of_mem List.mem_cons_self)
    have hstep (d : Database) (o : Outcome) :
        (⟨[s.made indexed]⟩ : Database).run? (s.createIndex c) = .ok (d, o) ↔ _ :=
      run?_createIndex_iff htable hown hnames hclash hc hnew'
    rw [← List.singleton_append, ← List.append_assoc] at hnew
    have ih (os : List Outcome) :
        (⟨[s.made (indexed ++ [c])]⟩ : Database).runAll? (rest.map s.createIndex) = .ok (db, os) ↔
          _ := ih hrest hnew
    rw [List.append_assoc, List.singleton_append] at ih
    rw [List.map_cons, Database.runAll?_cons_eq_ok_iff, List.forall_mem_cons]
    constructor
    · rintro ⟨d, o, os', hone, hmore, rfl⟩
      obtain ⟨hindex, rfl, rfl⟩ := (hstep d o).1 hone
      obtain ⟨hall, rfl, rfl⟩ := (ih _).1 hmore
      exact ⟨⟨hindex, hall⟩, rfl, rfl⟩
    · rintro ⟨⟨hindex, hall⟩, rfl, rfl⟩
      exact ⟨_, _, _, (hstep _ _).2 ⟨hindex, rfl, rfl⟩, (ih _).2 ⟨hall, rfl, rfl⟩, rfl⟩

end Indexes

/-- **What it takes to make a table with its indexes** in an empty database. -/
theorem runAll?_create_iff {os : List Outcome} :
    ({} : Database).runAll? (s.createTable :: s.createIndexes) = .ok (db, os) ↔ s.Writable ∧
      db = ⟨[s.made (s.columns.filter needsIndex)]⟩ ∧
      os = .done :: (s.columns.filter needsIndex).map fun _ => .done := by
  have hcs : ∀ c ∈ s.columns.filter needsIndex, c ∈ s.columns := fun _ => List.mem_of_mem_filter
  have hnodup (h : (s.columns.map fun c => upper c.name).Nodup) :
      (([] ++ s.columns.filter needsIndex).map fun c : Column => upper c.name).Nodup := by
    rw [List.nil_append]
    exact h.sublist (List.filter_sublist.map _)
  rw [Database.runAll?_cons_eq_ok_iff, writable_iff]
  constructor
  · rintro ⟨d, o, os', htable, hrest, rfl⟩
    obtain ⟨⟨hreserved, hown, hclash, hnames, hwidth⟩, rfl, rfl⟩ := run?_createTable_iff.1 htable
    obtain ⟨hindexes, rfl, rfl⟩ :=
      (runAll?_createIndexes_iff hreserved hown hnames hclash hcs (hnodup hnames)).1 hrest
    exact ⟨⟨⟨hreserved, hown, hclash, hnames, hwidth⟩, hindexes⟩, rfl, rfl⟩
  · rintro ⟨⟨htable, hindexes⟩, rfl, rfl⟩
    obtain ⟨hreserved, hown, hclash, hnames, hwidth⟩ := htable
    exact ⟨_, _, _,
      run?_createTable_iff.2 ⟨⟨hreserved, hown, hclash, hnames, hwidth⟩, rfl, rfl⟩,
      (runAll?_createIndexes_iff hreserved hown hnames hclash hcs (hnodup hnames)).2
        ⟨hindexes, rfl, rfl⟩, rfl⟩

end Schema

/-! ## Migrations of empty databases -/

namespace Migration

variable {s : Schema} {st st' : Storage} {r : Report}

/-- A migration of an empty database carries out the plan for a new table. -/
theorem run_migrate_of_empty {c : Connection} (hc : st.opened = .ok c) (hempty : c.database = {}) :
    (migrate s).run Storage.engine st = (apply (.create s)).run Storage.engine (st.keep c) := by
  have hask : (Program.ask (.hasTable s.table)).run Storage.engine st = (.ok false, st.keep c) := by
    refine (Program.run_ask _).trans (Storage.on_of_eq_ok (a := false)
      (f := fun c => .ok (c.database.hasTable s.table, c)) hc ?_)
    rw [hempty]
    rfl
  refine (Program.run_bind Storage.engine (Program.ask (.hasTable s.table)) _ st).trans ?_
  rw [hask]
  rfl

/-- The statements that make a table are changes. -/
theorem isChange_create (s : Schema) : ∀ x ∈ (Report.create s).statements, x.IsChange :=
  List.forall_mem_cons.2 ⟨trivial, List.forall_mem_map.2 fun _ _ => trivial⟩

/-- Columns are told unless a table has the name of the function that tells them. -/
theorem run_columns_eq_ok_iff {c : Connection} (hc : st.opened = .ok c) {table : String}
    {live : List LiveColumn} :
    (Program.ask (.columns table)).run Storage.engine st = (.ok live, st') ↔
      c.database.table? "pragma_table_info" = none ∧ live = c.database.liveColumns table ∧
        st' = st.keep c := by
  have hreply : (Program.ask (.columns table)).run Storage.engine st =
      st.on fun c => c.look? "pragma_table_info" fun db => db.liveColumns table :=
    Program.run_ask _
  rw [hreply, Storage.on, hc]
  dsimp only
  rw [Connection.look?]
  cases c.database.table? "pragma_table_info" with
  | some t =>
    constructor
    · intro h
      cases h
    · rintro ⟨h, -⟩
      cases h
  | none =>
    constructor
    · intro h
      obtain ⟨hlive, rfl⟩ := Prod.mk.inj h
      exact ⟨rfl, (Except.ok.inj hlive).symm, rfl⟩
    · rintro ⟨-, rfl, rfl⟩
      rfl

/-- Lines with what a statement may hold: names that are words, texts with quotes, and indexes. -/
def line : Schema where
  entity := "Line"
  table := "Line"
  columns := [(Column.text "key").key,
    (((Column.text "kind").require).oneOf ["it's", "new"]).withDefault "new",
    (Column.text "label").distinct, (Column.integer "position").withIndex]

/-- A database without lines. -/
def emptyPage : Storage := { config := { path := "page" } }

/-- Lines with a column whose name is reserved. -/
def orderedLine : Schema where
  entity := "Line"
  table := "Line"
  columns := [(Column.text "key").key, Column.integer "order"]

theorem migrate_orderedLine :
    ((migrate orderedLine).run Storage.engine emptyPage).1.toOption.isNone = true := by
  decide +kernel

end Migration
end Daybook
