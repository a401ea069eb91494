import Daybook.Proofs.Migration.Run
import Daybook.Proofs.Schema.Database
import Daybook.Proofs.Sql.Definition

/-!
# Tables that migrations make

A table that is made for a schema gets the declared columns and no rows, an index for the key, and
an index for every column that needs one, unless the name of the index is taken
(`runAll?_createIndexes`). So it serves the schema (**`migrate_eq_ok`**), and all tables of a
registry do once it is migrated (**`migrateEach_eq_ok`**). Only a schema whose names may stand in
statements is migrated so (`hasNames_of_migrate`).

* `Schema.indexOf`: the index of a declared column;
* `Schema.made`: the table with some of these indexes;
* `isDistinct_made_iff`: the columns that have distinct values;
* `Schema.isFree`, `Schema.madeIn`: the indexes whose names are not taken, and the database with the
  table and these;
* `Schema.madeAll`: the database with the tables of several schemas.
-/

namespace Daybook

open Sql

namespace Schema

/-! ## Names of indexes -/

theorem sameName_indexName_iff (table a b : String) :
    sameName (indexName table a) (indexName table b) ↔ upper a = upper b := by
  rw [sameName_iff, indexName, indexName, upper_append, upper_append _ b]
  exact ⟨fun h => (String.append_right_inj _).1 h, fun h => by rw [h]⟩

/-! ## Names of a schema -/

variable {s : Schema} {t : Table} {db db' : Database}

/-- The table of a schema can only be made if the names may stand in statements. -/
theorem hasNames_of_createTable {o : Outcome} (h : db.run? s.createTable = .ok (db', o)) :
    s.HasNames := by
  obtain ⟨hreserved, hcases⟩ := Database.createTable?_eq_ok (Database.of_run?_done rfl h)
  obtain ⟨checkNames, hfault⟩ : ∃ checkNames,
      Database.columnsFault? checkNames [] (s.columns.map Column.toDef) = none := by
    rcases hcases with ⟨-, hfault, -⟩ | ⟨-, hfault, -, -⟩
    · exact ⟨false, hfault⟩
    · exact ⟨true, hfault⟩
  have hclash := (Database.run?_eq_ok h).1
  rw [createTable, Statement.clash?] at hclash
  split_ifs at hclash
  exact ⟨Database.isCatalogName_of_not_isReservedName hreserved, hclash, fun c hc =>
    Database.nameClash?_of_columnsFault? hfault c.toDef (List.mem_map_of_mem hc)⟩

/-! ## The indexes of a table -/

/-- The index of a declared column. -/
def indexOf (s : Schema) (c : Column) : Index :=
  ⟨indexName s.table c.name, [c.name], c.unique, false⟩

/-- The table of a schema as it is made, with the indexes of some columns. -/
def made (s : Schema) (indexed : List Column) : Table where
  name := s.table
  columns := s.columns.map Column.toDef
  indexes := indexed.reverse.map s.indexOf ++
    Database.keyIndexes s.table (s.columns.map Column.toDef)

theorem position?_made {indexed : List Column}
    (hnames : (s.columns.map fun c => upper c.name).Nodup) {c : Column} (hc : c ∈ s.columns) :
    ∃ i, (s.made indexed).position? c.name = some i ∧
      (s.made indexed).columns[i]? = some c.toDef := by
  have hcolumns : ((s.made indexed).columns.map fun c => upper c.name).Nodup := by
    rwa [made, List.map_map]
  obtain ⟨i, hdef⟩ := List.mem_iff_getElem?.1 (List.mem_map_of_mem (f := Column.toDef) hc)
  have hi := Table.position?_of_getElem? hcolumns hdef
  exact ⟨i, hi, hdef⟩

theorem mem_keyIndexes_iff {index : Index} :
    index ∈ Database.keyIndexes s.table (s.columns.map Column.toDef) ↔
      ∃ key, s.key? = some key ∧ Table.isNumberColumn key.toDef = false ∧
        index = ⟨"sqlite_autoindex_" ++ s.table ++ "_1", [key.name], true, true⟩ := by
  have hfind : (s.columns.map Column.toDef).find? ColumnDef.primaryKey =
      s.key?.map Column.toDef := by
    rw [List.find?_map]
    rfl
  rw [Database.keyIndexes, hfind]
  cases s.key? with
  | none => exact iff_of_false List.not_mem_nil fun ⟨key, hkey, _⟩ => nomatch hkey
  | some key =>
    rw [Option.map_some]
    dsimp only
    split_ifs with hnumber
    · refine iff_of_false List.not_mem_nil ?_
      rintro ⟨key', hkey, hnumber', -⟩
      rw [← Option.some.inj hkey, hnumber] at hnumber'
      exact nomatch hnumber'
    · rw [Bool.not_eq_true] at hnumber
      rw [List.mem_singleton]
      constructor
      · intro h
        exact ⟨key, rfl, hnumber, h⟩
      · rintro ⟨key', hkey, -, h⟩
        rw [Option.some.inj hkey]
        exact h

theorem mem_indexes_made_iff {indexed : List Column} {index : Index} :
    index ∈ (s.made indexed).indexes ↔
      (∃ c ∈ indexed, index = s.indexOf c) ∨
      ∃ key, s.key? = some key ∧ Table.isNumberColumn key.toDef = false ∧
        index = ⟨"sqlite_autoindex_" ++ s.table ++ "_1", [key.name], true, true⟩ := by
  rw [made, List.mem_append, mem_keyIndexes_iff, List.mem_map]
  simp only [List.mem_reverse, eq_comm]

/-! ## Names that are taken -/

/-- The name of the index of a column is not taken. -/
def isFree (s : Schema) (db : Database) (c : Column) : Bool :=
  (db.indexOwner? (indexName s.table c.name)).isNone

theorem isFree_iff {c : Column} : s.isFree db c ↔
    ∀ u ∈ db.tables, ∀ i ∈ u.indexes, ¬ sameName i.name (indexName s.table c.name) := by
  rw [isFree, Option.isNone_iff_eq_none, Database.indexOwner?_eq_none_iff]

/-- The index of a key has a name of its own. -/
theorem not_sameName_keyIndex (table table' column : String) :
    ¬ sameName ("sqlite_autoindex_" ++ table ++ "_1") (indexName table' column) := by
  rw [sameName_iff]
  intro hname
  rw [indexName, String.append_assoc, String.append_assoc, String.append_assoc,
    upper_append "sqlite_autoindex_", upper_append "idx_", ← String.toList_inj,
    String.toList_append, String.toList_append] at hname
  -- the names begin with different letters
  have hhead := congrArg List.head? hname
  rw [List.head?_append, List.head?_append] at hhead
  have hdatabase : (upper "sqlite_autoindex_").toList.head? = some 'S' := rfl
  have hown : (upper "idx_").toList.head? = some 'I' := rfl
  rw [hdatabase, hown, Option.some_or, Option.some_or, Option.some_inj] at hhead
  exact absurd hhead (by decide)

/-- The names that a table takes are those of the indexes of its columns. -/
theorem isFree_append_made {s' : Schema} {tables : List Table} {indexed : List Column} {c : Column} :
    s'.isFree ⟨tables ++ [s.made indexed]⟩ c ↔ s'.isFree ⟨tables⟩ c ∧
      ∀ d ∈ indexed, ¬ sameName (indexName s.table d.name) (indexName s'.table c.name) := by
  rw [isFree_iff, isFree_iff, List.forall_mem_append, List.forall_mem_singleton]
  refine and_congr_right fun _ => ?_
  constructor
  · intro h d hd
    exact h (s.indexOf d) (mem_indexes_made_iff.2 (.inl ⟨d, hd, rfl⟩))
  · intro h i hi
    rcases mem_indexes_made_iff.1 hi with ⟨d, hd, rfl⟩ | ⟨key, -, -, rfl⟩
    · exact h d hd
    · exact not_sameName_keyIndex s.table s'.table c.name

/-- What comes of one more index. -/
theorem replaceTable_made (hnames : (s.columns.map fun c => upper c.name).Nodup)
    {tables : List Table} (hne : ∀ u ∈ tables, ¬ sameName u.name s.table) {indexed : List Column}
    {c : Column} (hc : c ∈ s.columns) :
    (⟨tables ++ [s.made indexed]⟩ : Database).replaceTable { s.made indexed with
      indexes := ⟨indexName s.table c.name, Database.declaredNames (s.made indexed) [c.name],
        c.unique, false⟩ :: (s.made indexed).indexes } =
      ⟨tables ++ [s.made (indexed ++ [c])]⟩ := by
  obtain ⟨i, hi, hdef⟩ : ∃ i, (s.made indexed).position? c.name = some i ∧
      (s.made indexed).columns[i]? = some c.toDef := position?_made hnames hc
  have hdeclared : Database.declaredNames (s.made indexed) [c.name] = [c.name] := by
    rw [Database.declaredNames, List.map_singleton, hi, Option.bind_some, hdef]
    rfl
  have hmade : { s.made indexed with
      indexes := ⟨indexName s.table c.name, [c.name], c.unique, false⟩ ::
        (s.made indexed).indexes } = s.made (indexed ++ [c]) := by
    rw [made, made, List.reverse_append]
    rfl
  rw [hdeclared, hmade]
  exact Database.replaceTable_append rfl hne

/-- **What comes of the statements that make indexes.** Indexes whose names are taken are left
out; the rest is made, newest first. -/
theorem runAll?_createIndexes (hnames : (s.columns.map fun c => upper c.name).Nodup)
    {tables : List Table} (hne : ∀ u ∈ tables, ¬ sameName u.name s.table)
    {indexed cs : List Column} (hcs : ∀ c ∈ cs, c ∈ s.columns)
    (hnodup : (cs.map fun c => upper c.name).Nodup) {os : List Outcome}
    (h : (⟨tables ++ [s.made indexed]⟩ : Database).runAll? (cs.map s.createIndex) = .ok (db', os)) :
    db' = ⟨tables ++ [s.made (indexed ++ cs.filter (s.isFree ⟨tables ++ [s.made indexed]⟩))]⟩ := by
  induction cs generalizing indexed os with
  | nil =>
    rw [List.map_nil, Database.runAll?, Except.ok.injEq, Prod.mk.injEq] at h
    rw [← h.1, List.filter_nil, List.append_nil]
  | cons c rest ih =>
    rw [List.map_cons, List.nodup_cons] at hnodup
    rw [List.map_cons] at h
    obtain ⟨d, o, os', hc, hrest⟩ := Database.runAll?_cons h
    have htable : (⟨tables ++ [s.made indexed]⟩ : Database).table? s.table = some (s.made indexed) :=
      Database.table?_append ((sameName_iff _ _).2 rfl) (Database.table?_eq_none_iff.2 hne)
    have hcs' : ∀ c ∈ rest, c ∈ s.columns := fun c hc => hcs c (List.mem_cons_of_mem _ hc)
    obtain ⟨t, ht, hcases⟩ := Database.createIndex?_eq_ok (Database.of_run?_done rfl hc)
    obtain rfl : s.made indexed = t := Option.some.inj (htable.symm.trans ht)
    rcases hcases with ⟨htaken, rfl⟩ | ⟨hfree, -, rfl⟩
    · have hfree : s.isFree ⟨tables ++ [s.made indexed]⟩ c = false := by
        rw [isFree, ← Option.not_isSome, htaken, Bool.not_true]
      rw [ih hcs' hnodup.2 hrest, List.filter_cons, hfree, if_neg Bool.false_ne_true]
    · have hfree' : s.isFree ⟨tables ++ [s.made indexed]⟩ c := by
        rw [isFree, hfree, Option.isNone_none]
      rw [replaceTable_made hnames hne (hcs c List.mem_cons_self)] at hrest
      -- the names of the indexes of other columns differ
      have hothers : rest.filter (s.isFree ⟨tables ++ [s.made (indexed ++ [c])]⟩) =
          rest.filter (s.isFree ⟨tables ++ [s.made indexed]⟩) := by
        refine List.filter_congr fun c' hc' => ?_
        have hname : ¬ sameName (indexName s.table c.name) (indexName s.table c'.name) := by
          rw [sameName_indexName_iff]
          exact fun hname => hnodup.1 (List.mem_map.2 ⟨c', hc', hname.symm⟩)
        rw [Bool.eq_iff_iff, isFree_append_made, isFree_append_made, List.forall_mem_append,
          List.forall_mem_singleton, and_iff_left hname]
      rw [ih hcs' hnodup.2 hrest, hothers, List.filter_cons, hfree', if_pos rfl, List.append_assoc,
        List.singleton_append]

/-! ## Tables for schemas -/

section Made

variable {indexed : List Column} (hvalid : s.fault? = none)
  (hnames : (s.columns.map fun c => upper c.name).Nodup)
  (hindexed : indexed.Sublist (s.columns.filter needsIndex))

include hindexed in
theorem of_mem_indexed {c : Column} (hc : c ∈ indexed) : c ∈ s.columns ∧ c.primaryKey = false := by
  have hc := List.mem_filter.1 (hindexed.subset hc)
  rw [needsIndex, Bool.and_eq_true, Bool.not_eq_true'] at hc
  exact ⟨hc.1, hc.2.2⟩

include hvalid hnames hindexed in
/-- The table is made for its schema. -/
theorem madeFor_made : (s.made indexed).MadeFor s where
  columns := List.Perm.refl _
  oneKey c hc c' hc' hkey hkey' := eq_of_primaryKey hvalid hc hc' hkey hkey'
  names := by
    have hcomp : (fun c : ColumnDef => upper c.name) ∘ Column.toDef =
        fun c : Column => upper c.name := rfl
    rw [made, List.map_map, hcomp]
    exact hnames
  keyed c hc hkey hnumber := by
    have hkey? := (key?_eq_some_iff hvalid hc).2 hkey
    exact ⟨_, mem_indexes_made_iff.2 (.inr ⟨c, hkey?, hnumber, rfl⟩), rfl, rfl⟩
  single index hindex _ := by
    rcases mem_indexes_made_iff.1 hindex with ⟨c, hc, rfl⟩ | ⟨key, hkey, hnumber, rfl⟩
    · obtain ⟨hmem, hkey⟩ := of_mem_indexed hindexed hc
      have hnumber : Table.isNumberColumn c.toDef = false := by
        have hdef : c.toDef.primaryKey = c.primaryKey := rfl
        rw [Table.isNumberColumn, hdef, hkey, Bool.false_and]
      exact ⟨c, hmem, hnumber, rfl⟩
    · exact ⟨key, (mem_key? hkey).1, hnumber, rfl⟩

include hnames hindexed in
/-- Besides the key, columns are distinct if they are declared so and have their index. -/
theorem isDistinct_made_iff {c : Column} (hc : c ∈ s.columns) (hkey : c.primaryKey = false) :
    (s.made indexed).IsDistinct c.name ↔ c ∈ indexed ∧ c.unique := by
  have heq : ∀ c' ∈ s.columns, [c'.name] = [c.name] → c' = c := by
    intro c' hc' hname
    rw [List.singleton_inj] at hname
    exact List.inj_on_of_nodup_map (f := fun c : Column => upper c.name) hnames hc' hc
      (congrArg upper hname)
  constructor
  · rintro ⟨index, hindex, hunique, hcolumns⟩
    rcases mem_indexes_made_iff.1 hindex with ⟨c', hc', rfl⟩ | ⟨key, hkey', -, rfl⟩
    · obtain rfl := heq c' (of_mem_indexed hindexed hc').1 hcolumns
      exact ⟨hc', hunique⟩
    · obtain ⟨hmem, hprimary⟩ := mem_key? hkey'
      rw [heq key hmem hcolumns, hkey] at hprimary
      exact nomatch hprimary
  · rintro ⟨hmem, hunique⟩
    exact ⟨s.indexOf c, mem_indexes_made_iff.2 (.inl ⟨c, hmem, rfl⟩), hunique, rfl⟩

include hvalid hnames hindexed in
/-- The table serves its schema. -/
theorem serves_made : (s.made indexed).Serves s := by
  refine ⟨madeFor_made hvalid hnames hindexed, Table.sound_of_rows_eq_nil rfl,
    fun c hc hdistinct => ?_⟩
  by_cases hkey : c.primaryKey
  · exact .inl hkey
  · rw [Bool.not_eq_true] at hkey
    exact .inr ((isDistinct_made_iff hnames hindexed hc hkey).1 hdistinct).2

end Made

/-! ## Databases with the tables of schemas -/

/-- The columns that need an index whose name is not taken. -/
def indexedIn (s : Schema) (db : Database) : List Column :=
  (s.columns.filter needsIndex).filter (s.isFree db)

/-- The database with the table of a schema, as it is made. -/
def madeIn (s : Schema) (db : Database) : Database := ⟨db.tables ++ [s.made (s.indexedIn db)]⟩

/-- The database with the tables of several schemas, made one after the other. -/
def madeAll (schemas : List Schema) (db : Database) : Database :=
  schemas.foldl (fun db s => s.madeIn db) db

theorem sublist_indexedIn (s : Schema) (db : Database) :
    (s.indexedIn db).Sublist (s.columns.filter needsIndex) := List.filter_sublist

theorem table?_madeIn (hnone : db.table? s.table = none) :
    (s.madeIn db).table? s.table = some (s.made (s.indexedIn db)) :=
  Database.table?_append ((sameName_iff _ _).2 rfl) hnone

theorem table?_madeIn_of_ne {name : String} (hne : ¬ sameName s.table name) :
    (s.madeIn db).table? name = db.table? name :=
  Database.table?_append_of_ne hne

theorem table?_madeAll_of_ne {schemas : List Schema} {name : String}
    (hne : ∀ s ∈ schemas, ¬ sameName s.table name) :
    (madeAll schemas db).table? name = db.table? name := by
  induction schemas generalizing db with
  | nil => rfl
  | cons s rest ih =>
    rw [List.forall_mem_cons] at hne
    exact (ih hne.2).trans (table?_madeIn_of_ne hne.1)

theorem madeAll_append (before after : List Schema) (db : Database) :
    madeAll (before ++ after) db = madeAll after (madeAll before db) := List.foldl_append

/-- The table of a schema has the indexes whose names no schema before it takes. -/
theorem table?_madeAll {before after : List Schema}
    (htables : ((before ++ s :: after).map fun s => upper s.table).Nodup)
    (hnone : db.table? s.table = none) :
    (madeAll (before ++ s :: after) db).table? s.table =
      some (s.made (s.indexedIn (madeAll before db))) := by
  rw [List.map_append, List.nodup_append] at htables
  obtain ⟨-, hafter, hbefore⟩ := htables
  have hne : ∀ s' ∈ before, ¬ sameName s'.table s.table := by
    intro s' hs' hname
    exact hbefore _ (List.mem_map_of_mem hs') _ (List.mem_map_of_mem List.mem_cons_self)
      ((sameName_iff _ _).1 hname)
  have hne' : ∀ s' ∈ after, ¬ sameName s'.table s.table := by
    intro s' hs'
    rw [sameName_comm]
    exact (nodup_tables_cons_iff.1 hafter).1 s' hs'
  rw [madeAll_append]
  refine (table?_madeAll_of_ne hne').trans (table?_madeIn ?_)
  rwa [table?_madeAll_of_ne hne]

/-- A name is taken by a table that was there, or by a column of a schema that needs an index. -/
theorem isFree_madeAll {schemas : List Schema} {c : Column} :
    s.isFree (madeAll schemas db) c ↔ s.isFree db c ∧ ∀ s' ∈ schemas, ∀ c' ∈ s'.columns,
      needsIndex c' → ¬ sameName (indexName s'.table c'.name) (indexName s.table c.name) := by
  induction schemas generalizing db with
  | nil => simp [madeAll]
  | cons s' rest ih =>
    have hmade : s.isFree (s'.madeIn db) c ↔ s.isFree db c ∧ ∀ c' ∈ s'.columns, needsIndex c' →
        ¬ sameName (indexName s'.table c'.name) (indexName s.table c.name) := by
      rw [madeIn, isFree_append_made]
      refine and_congr_right fun hfree => ⟨fun h c' hc' hneeds => ?_, fun h c' hc' => ?_⟩
      · by_cases hfree' : s'.isFree db c'
        · exact h c' (List.mem_filter.2 ⟨List.mem_filter.2 ⟨hc', hneeds⟩, hfree'⟩)
        · -- the name was taken before, so it is not the one that is free
          intro hname
          rw [isFree, Database.indexOwner?_congr hname, ← isFree] at hfree'
          exact hfree' hfree
      · obtain ⟨hc', hneeds⟩ := List.mem_filter.1 (List.mem_of_mem_filter hc')
        exact h c' hc' hneeds
    rw [List.forall_mem_cons, ← and_assoc, ← hmade]
    exact ih

end Schema

/-! ## Migrations of tables that do not exist -/

namespace Migration

variable {s : Schema} {st st' : Storage} {r : Report}

/-- **What a migration makes of a table that does not exist.** -/
theorem apply_create_eq_ok {created : Bool} {c : Connection} (hc : st.opened = .ok c)
    (hnone : c.database.table? s.table = none)
    (h : (apply { Report.create s with created := created }).run Storage.engine st =
      (.ok r, st')) :
    (s.columns.map fun c => upper c.name).Nodup ∧ st'.Holds (· = s.madeIn c.database) := by
  obtain ⟨-, c', d, os, hc', rfl, hos⟩ := runAll?_of_apply rfl h
  obtain rfl := Except.ok.inj (hc.symm.trans hc')
  obtain ⟨e, o, os', hcreate, hindexes⟩ := Database.runAll?_cons hos
  obtain ⟨-, ⟨hsome, -⟩ | ⟨-, hfault, -, hdb⟩⟩ :=
    Database.createTable?_eq_ok (Database.of_run?_done rfl hcreate)
  · rw [hnone] at hsome
    cases hsome
  have hnames : (s.columns.map fun c => upper c.name).Nodup := by
    have hcomp : (fun c : ColumnDef => upper c.name) ∘ Column.toDef =
        fun c : Column => upper c.name := rfl
    have := (Database.nodup_of_columnsFault? hfault).1
    rwa [List.map_map, hcomp] at this
  have hmade : e = ⟨c.database.tables ++ [s.made []]⟩ := hdb
  have hfree : s.isFree ⟨c.database.tables ++ [s.made []]⟩ = s.isFree c.database := by
    funext column
    rw [Bool.eq_iff_iff, Schema.isFree_append_made]
    exact and_iff_left fun _ h => absurd h List.not_mem_nil
  rw [hmade] at hindexes
  have hdatabase := Schema.runAll?_createIndexes hnames (Database.table?_eq_none_iff.1 hnone)
    (fun c hc => List.mem_of_mem_filter hc) (hnames.sublist (List.filter_sublist.map _)) hindexes
  rw [hfree] at hdatabase
  exact ⟨hnames, d, rfl, hdatabase⟩

/-- A migration of a table that is not there makes it. -/
theorem exists_apply_of_migrate (hnone : st.table? s.table = none) (checkColumns : Bool)
    (h : ((if checkColumns then migrate else ensureTable) s).run Storage.engine st = (.ok r, st')) :
    ∃ c st₁ created, st.opened = .ok c ∧ st₁.opened = .ok c ∧ c.database.table? s.table = none ∧
      (apply { Report.create s with created := created }).run Storage.engine st₁ = (.ok r, st') := by
  obtain ⟨c, st₁, live, indexes, plan, created, hc, hc₁, hlive, hplan, happly⟩ :=
    exists_plan_of_migrate checkColumns h
  have hnone' := (Storage.table?_of_opened hc s.table).symm.trans hnone
  rw [hlive hnone'] at hplan
  rw [← Except.ok.inj hplan] at happly
  exact ⟨c, st₁, created, hc, hc₁, hnone', happly⟩

/-- The names of a schema whose table was made may stand in statements. -/
theorem hasNames_of_migrate (hnone : st.table? s.table = none) (checkColumns : Bool)
    (h : ((if checkColumns then migrate else ensureTable) s).run Storage.engine st = (.ok r, st')) :
    s.HasNames := by
  obtain ⟨-, st₁, created, -, -, -, hrun⟩ := exists_apply_of_migrate hnone checkColumns h
  obtain ⟨-, c, d, os, -, -, hos⟩ := runAll?_of_apply rfl hrun
  obtain ⟨e, o, os', hcreate, -⟩ := Database.runAll?_cons hos
  exact Schema.hasNames_of_createTable hcreate

/-- **The database after the migration of a table that was not there.** -/
theorem migrate_eq_ok (hnone : st.table? s.table = none) (checkColumns : Bool)
    (h : ((if checkColumns then migrate else ensureTable) s).run Storage.engine st =
      (.ok r, st')) :
    (s.columns.map fun c => upper c.name).Nodup ∧
      ∃ c, st.opened = .ok c ∧ st'.Holds (· = s.madeIn c.database) := by
  obtain ⟨c, st₁, created, hc, hc₁, hnone', hrun⟩ := exists_apply_of_migrate hnone checkColumns h
  obtain ⟨hnames, hmade⟩ := apply_create_eq_ok hc₁ hnone' hrun
  exact ⟨hnames, c, hc, hmade⟩

/-! ## Migrations of registries -/

/-- **The database after the migration of a registry without failures**, if there were no tables
of the names before. -/
theorem run_migrateEach_eq_ok {schemas : List Schema}
    (htables : (schemas.map fun s => upper s.table).Nodup) {db : Database} (hdb : st.Holds (· = db))
    (hnone : ∀ s ∈ schemas, db.table? s.table = none) (checkColumns : Bool) {summary : Summary}
    (h : (migrateEach (if checkColumns then migrate else ensureTable) schemas).run Storage.engine
      st = (.ok summary, st')) (hsuccess : summary.isSuccess) :
    (∀ s ∈ schemas, (s.columns.map fun c => upper c.name).Nodup) ∧
      st'.Holds (· = Schema.madeAll schemas db) := by
  induction schemas generalizing st db summary with
  | nil =>
    obtain ⟨-, rfl⟩ := Prod.mk.inj h
    exact ⟨fun s hs => absurd hs List.not_mem_nil, hdb⟩
  | cons s rest ih =>
    obtain ⟨hne, htables'⟩ := nodup_tables_cons_iff.1 htables
    obtain ⟨hnone₁, hnone'⟩ := List.forall_mem_cons.1 hnone
    obtain ⟨r, st₁, more, hone, hrest, hmore⟩ := exists_of_isSuccess h hsuccess
    obtain ⟨c, hc, rfl⟩ := hdb
    rw [← Storage.table?_of_opened hc] at hnone₁
    obtain ⟨hnames, c₁, hc₁, hmade⟩ := migrate_eq_ok hnone₁ checkColumns hone
    obtain rfl := Except.ok.inj (hc.symm.trans hc₁)
    obtain ⟨hnames', hmade'⟩ := ih htables' hmade
      (fun s' hs' => (Schema.table?_madeIn_of_ne (hne s' hs')).trans (hnone' s' hs')) hrest hmore
    exact ⟨List.forall_mem_cons.2 ⟨hnames, hnames'⟩, hmade'⟩

/-- **A registry that is migrated without failures is served**, if there were no tables of the
names before. -/
theorem migrateEach_eq_ok {schemas : List Schema} (hvalid : ∀ s ∈ schemas, s.fault? = none)
    (htables : (schemas.map fun s => upper s.table).Nodup)
    (hnone : ∀ s ∈ schemas, st.table? s.table = none) (checkColumns : Bool) {summary : Summary}
    (h : (migrateEach (if checkColumns then migrate else ensureTable) schemas).run Storage.engine
      st = (.ok summary, st')) (hsuccess : summary.isSuccess) :
    (∀ s ∈ schemas, ∃ t, st'.table? s.table = some t ∧ t.Serves s ∧ t.rows = []) ∧
      ∀ name, (∀ s ∈ schemas, ¬ sameName s.table name) → st'.table? name = st.table? name := by
  cases hschemas : schemas with
  | nil =>
    subst hschemas
    obtain ⟨-, rfl⟩ := Prod.mk.inj h
    exact ⟨fun s hs => absurd hs List.not_mem_nil, fun _ _ => rfl⟩
  | cons first rest =>
    -- the storage is opened, since the first table is made
    obtain ⟨c, hc⟩ : ∃ c, st.opened = .ok c := by
      subst hschemas
      obtain ⟨r, st₁, more, hone, -⟩ := exists_of_isSuccess h hsuccess
      obtain ⟨-, c, hc, -⟩ := migrate_eq_ok (hnone first List.mem_cons_self) checkColumns hone
      exact ⟨c, hc⟩
    have htable := Storage.table?_of_opened hc
    rw [← hschemas]
    obtain ⟨hnames, c', hc', hmade⟩ := run_migrateEach_eq_ok htables ⟨c, hc, rfl⟩
      (fun s hs => (htable s.table).symm.trans (hnone s hs)) checkColumns h hsuccess
    have htable' : ∀ name, st'.table? name = (Schema.madeAll schemas c.database).table? name := by
      intro name
      rw [Storage.table?_of_opened hc', ← hmade]
    refine ⟨fun s hs => ?_, fun name hname => ?_⟩
    · obtain ⟨before, after, rfl⟩ := List.append_of_mem hs
      refine ⟨_, (htable' _).trans (Schema.table?_madeAll htables ?_), ?_, rfl⟩
      · rw [← htable]
        exact hnone s hs
      · exact Schema.serves_made (hvalid s hs) (hnames s hs) (s.sublist_indexedIn _)
    · rw [htable', Schema.table?_madeAll_of_ne hname, htable]

end Migration
end Daybook
