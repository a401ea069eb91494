import Daybook.Proofs.Sql.Database
import Daybook.Proofs.Sql.Word

/-!
# Statements that define tables

What it takes to make, change and remove tables and indexes, and what comes of it. An index is made
or removed by putting a table in place that differs in its indexes alone.

* `createTable?_eq_ok`, `dropTable?_eq_ok`, `createIndex?_eq_ok`, `dropIndex?_eq_ok`,
  `addColumn?_eq_ok`, `dropColumn?_eq_ok`: one lemma for each statement (with `of_run?_done`);
* `createTable?_new`, `createIndex?_new`: new tables and indexes are made;
* `Table.withColumn`, `Table.withoutColumn`: what adding and removing a column makes of a table;
* **`columnsFault?_eq_none_iff`**: the columns that a new table may have.
-/

namespace Daybook.Sql

theorem upper_append (a b : String) : upper (a ++ b) = upper a ++ upper b := by
  rw [upper, upper, upper, String.toList_append, List.map_append, String.ofList_append]

/-! ## Tables with other columns -/

/-- The cell in a new column of the rows that are there. -/
def ColumnDef.initial (c : ColumnDef) : Cell := c.affinity.store (c.default.getD .null)

namespace Table

/-- The table with a column added. -/
def withColumn (t : Table) (c : ColumnDef) : Table :=
  { t with
    columns := t.columns ++ [c]
    rows := t.rows.map fun r => { r with cells := r.cells ++ [c.initial] } }

/-- The table without the column at a position. -/
def withoutColumn (t : Table) (i : Nat) : Table :=
  { t with
    columns := t.columns.eraseIdx i
    rows := t.rows.map fun r => { r with cells := r.cells.eraseIdx i } }

end Table

namespace Database

variable {db db' : Database}

/-- What comes of a statement that answers nothing but that it is done. -/
theorem of_run?_done {s : Statement} {o : Outcome} {x : Except Fault Database}
    (hs : db.perform? s = x.map (·, .done)) (h : db.run? s = .ok (db', o)) : x = .ok db' := by
  have hperform := (run?_eq_ok h).2
  rw [hs] at hperform
  obtain ⟨d, hd, heq⟩ := Result.map_eq_ok_iff.1 hperform
  rw [hd, (Prod.mk.inj heq).1]

/-! ## Columns of new tables -/

/-- **Which columns a new table may have**: their texts are in order, and where it matters, they
have names of their own. -/
theorem columnsFault?_eq_none_iff {checkNames : Bool} {before columns : List ColumnDef} :
    columnsFault? checkNames before columns = none ↔
      (∀ c ∈ columns, c.clash? true = none) ∧
      (checkNames → (columns.map fun c => upper c.name).Nodup ∧
        ∀ c ∈ columns, ∀ b ∈ before, upper b.name ≠ upper c.name) := by
  induction columns generalizing before with
  | nil => simp [columnsFault?]
  | cons c rest ih =>
    have hclash : c.clash? (!before.isEmpty) = none ↔ c.clash? true = none := by
      rw [ColumnDef.clash?_eq_none_iff, ColumnDef.clash?_eq_none_iff]
    rw [columnsFault?, List.forall_mem_cons, ← hclash]
    cases c.clash? (!before.isEmpty) with
    | some fault => exact iff_of_false (fun h => nomatch h) fun h => nomatch h.1.1
    | none =>
      have htaken : ¬ (checkNames && before.any fun b => sameName b.name c.name) = true ↔
          (checkNames → ∀ b ∈ before, upper b.name ≠ upper c.name) := by
        simp [sameName]
      dsimp only
      rw [ite_eq_iff]
      simp only [reduceCtorEq, and_false, false_or, htaken, ih]
      cases checkNames with
      | false => simp
      | true =>
        simp only [true_imp_iff]
        rw [List.map_cons, List.nodup_cons, List.mem_map]
        constructor
        · rintro ⟨hbefore, hrest, hnodup, hne⟩
          refine ⟨⟨trivial, hrest⟩, ⟨?_, hnodup⟩,
            List.forall_mem_cons.2 ⟨hbefore, fun d hd b hb => ?_⟩⟩
          · rintro ⟨d, hd, hname⟩
            exact hne d hd c List.mem_cons_self hname.symm
          · exact hne d hd b (List.mem_cons_of_mem _ hb)
        · rintro ⟨⟨-, hrest⟩, ⟨hnew, hnodup⟩, hne⟩
          obtain ⟨hbefore, hne⟩ := List.forall_mem_cons.1 hne
          refine ⟨hbefore, hrest, hnodup, fun d hd => List.forall_mem_cons.2 ⟨?_, hne d hd⟩⟩
          exact fun hname => hnew ⟨d, hd, hname.symm⟩

theorem nodup_of_columnsFault? {before columns : List ColumnDef}
    (h : columnsFault? true before columns = none) :
    (columns.map fun c => upper c.name).Nodup ∧
      ∀ c ∈ columns, ∀ b ∈ before, upper b.name ≠ upper c.name :=
  (columnsFault?_eq_none_iff.1 h).2 rfl

theorem nameClash?_of_columnsFault? {checkNames : Bool} {before columns : List ColumnDef}
    (h : columnsFault? checkNames before columns = none) :
    ∀ c ∈ columns, nameClash? c.name = none := by
  intro c hc
  have hclash := (columnsFault?_eq_none_iff.1 h).1 c hc
  exact nameClash?_eq_none_iff.2 (ColumnDef.clash?_eq_none_iff.1 hclash).1

/-! ## Names that are taken -/

theorem isCatalogName_of_not_isReservedName {name : String} (h : isReservedName name = false) :
    isCatalogName name = false := by
  rw [isCatalogName, Bool.or_eq_false_iff, ← Bool.not_eq_true, ← Bool.not_eq_true, sameName_iff,
    sameName_iff]
  constructor
  all_goals
    intro hname
    rw [isReservedName, hname] at h
    revert h
    decide

theorem indexOwner?_eq_none_iff {name : String} :
    db.indexOwner? name = none ↔ ∀ t ∈ db.tables, ∀ i ∈ t.indexes, ¬ sameName i.name name := by
  simp only [indexOwner?, List.find?_eq_none, List.any_eq_true, not_exists, not_and]

theorem indexOwner?_congr {a b : String} (h : sameName a b) :
    db.indexOwner? a = db.indexOwner? b := by
  rw [sameName_iff] at h
  simp only [indexOwner?, sameName, h]

/-! ## Tables -/

/-- **What it takes to make a table.** Where there is one of its name, nothing is done. -/
theorem createTable?_eq_ok {ifNotExists : Bool} {name : String} {columns : List ColumnDef}
    (h : db.createTable? ifNotExists name columns = .ok db') :
    isReservedName name = false ∧
      ((db.table? name).isSome ∧ columnsFault? false [] columns = none ∧ db' = db ∨
        db.table? name = none ∧ columnsFault? true [] columns = none ∧
          columns.length ≤ maxColumns ∧
          db' = ⟨db.tables ++ [⟨name, columns, [], keyIndexes name columns⟩]⟩) := by
  have hnone {checkNames : Bool} {columns : List ColumnDef}
      (hfault : ∀ fault, columnsFault? checkNames [] columns = some fault → False) :
      columnsFault? checkNames [] columns = none := Option.eq_none_iff_forall_ne_some.2 hfault
  rw [createTable?] at h
  split at h
  · cases h
  · rename_i hreserved
    refine ⟨Bool.not_eq_true _ ▸ hreserved, ?_⟩
    dsimp only at h
    split at h
    · rename_i hsome
      split at h
      · cases h
      · split at h
        · cases h
        · rename_i hfault
          exact .inl ⟨hsome, hnone hfault, (Except.ok.inj h).symm⟩
    · rename_i hsome
      split at h
      · cases h
      · split at h
        · cases h
        · rename_i hfault
          split at h
          · cases h
          · rename_i hlength
            have hfault := hnone hfault
            have hlength := not_lt.1 hlength
            rw [List.take_of_length_le hlength] at hfault
            exact .inr ⟨by simpa using hsome, hfault, hlength, (Except.ok.inj h).symm⟩

/-- **What it takes for a new table to be made.** -/
theorem createTable?_new {ifNotExists : Bool} {name : String} {columns : List ColumnDef}
    (hnone : db.table? name = none) (hfree : db.indexOwner? name = none)
    (hreserved : isReservedName name = false) (hfault : columnsFault? true [] columns = none)
    (hlength : columns.length ≤ maxColumns) :
    db.createTable? ifNotExists name columns =
      .ok ⟨db.tables ++ [⟨name, columns, [], keyIndexes name columns⟩]⟩ := by
  rw [← List.take_of_length_le hlength] at hfault
  rw [createTable?, hreserved, hnone, hfree, hfault]
  exact if_neg (Nat.not_lt.2 hlength)

theorem dropTable?_eq_ok {ifExists : Bool} {name : String}
    (h : db.dropTable? ifExists name = .ok db') : db'.tables.Sublist db.tables := by
  rw [dropTable?] at h
  split at h
  · split_ifs at h
    rw [Except.ok.inj h]
  · rw [← Except.ok.inj h]
    exact List.filter_sublist

/-! ## Indexes -/

/-- The names of columns, as the table declares them. -/
def declaredNames (t : Table) (columns : List String) : List String :=
  columns.map fun c => (((t.position? c).bind fun i => t.columns[i]?).map ColumnDef.name).getD c

/-- **What it takes to make an index.** Where there is one of its name, nothing is done. -/
theorem createIndex?_eq_ok {unique ifNotExists : Bool} {name table : String} {columns : List String}
    (h : db.createIndex? unique ifNotExists name table columns = .ok db') :
    ∃ t, db.table? table = some t ∧
      ((db.indexOwner? name).isSome ∧ db' = db ∨
        db.indexOwner? name = none ∧ indexFault? t columns = none ∧ db' = db.replaceTable
          { t with indexes := ⟨name, declaredNames t columns, unique, false⟩ :: t.indexes }) := by
  rw [createIndex?] at h
  split at h
  · cases h
  · cases htable : db.table? table with
    | none =>
      rw [htable] at h
      cases h
    | some t =>
      rw [htable] at h
      dsimp only at h
      refine ⟨t, rfl, ?_⟩
      split at h
      · cases h
      · split at h
        · cases h
        · split at h
          · rename_i howner
            split at h
            · cases h
            · exact .inl ⟨howner, (Except.ok.inj h).symm⟩
          · rename_i howner
            split at h
            · cases h
            · rename_i hfault
              split at h
              · cases h
              · exact .inr ⟨by simpa using howner, Option.eq_none_iff_forall_ne_some.2 hfault,
                  (Except.ok.inj h).symm⟩

/-- Columns of the table may have an index unless their names stand for the time. -/
theorem indexFault?_eq_none_iff {t : Table} {columns : List String}
    (hcolumns : ∀ c ∈ columns, (t.position? c).isSome) :
    indexFault? t columns = none ↔ ∀ c ∈ columns, upper c ∉ momentWords := by
  have hnumber : columns.find? (fun c => (t.position? c).isNone && isRowNumberName c) = none := by
    refine List.find?_eq_none.2 fun c hc => ?_
    rw [← Option.not_isSome, hcolumns c hc]
    exact Bool.false_ne_true
  have hknown : t.unknownName? columns = none := by
    rw [Table.unknownName?, Option.map_eq_none_iff, List.find?_eq_none]
    intro c hc
    obtain ⟨i, hi⟩ := Option.isSome_iff_exists.1 (hcolumns c hc)
    rw [Table.resolve?, hi]
    exact Bool.false_ne_true
  rw [indexFault?, hnumber, hknown]
  simp

/-- **What it takes for a new index of a table without rows to be made.** -/
theorem createIndex?_new {unique ifNotExists : Bool} {name table : String} {columns : List String}
    {t : Table} (hcatalog : isCatalogName table = false) (ht : db.table? table = some t)
    (hrows : t.rows = []) (hreserved : isReservedName name = false)
    (hnone : db.table? name = none) (hfree : db.indexOwner? name = none)
    (hfault : indexFault? t columns = none) :
    db.createIndex? unique ifNotExists name table columns = .ok (db.replaceTable
      { t with indexes := ⟨name, declaredNames t columns, unique, false⟩ :: t.indexes }) := by
  have hkeys (index : Index) : hasEqualKeys t index t.rows = false := by
    rw [hrows, hasEqualKeys]
  rw [createIndex?, hcatalog, ht, hreserved, hnone, hfree]
  dsimp only
  rw [hfault, hkeys, Bool.and_false]
  rfl

theorem dropIndex?_eq_ok {ifExists : Bool} {name : String}
    (h : db.dropIndex? ifExists name = .ok db') :
    db' = db ∨ ∃ t ∈ db.tables, ∃ indexes, db' = db.replaceTable { t with indexes := indexes } := by
  rw [dropIndex?] at h
  split at h
  · split_ifs at h
    exact .inl (Except.ok.inj h).symm
  · rename_i t howner
    split at h
    · cases h
    · exact .inr ⟨t, List.mem_of_find?_eq_some howner, _, (Except.ok.inj h).symm⟩

/-! ## Columns -/

/-- **What it takes to add a column**: the rows get its default. -/
theorem addColumn?_eq_ok {table : String} {c : ColumnDef} (h : db.addColumn? table c = .ok db') :
    ∃ t, db.table? table = some t ∧ t.position? c.name = none ∧
      db' = db.replaceTable (t.withColumn c) := by
  rw [addColumn?] at h
  obtain ⟨t, ht, h⟩ := Result.bind_eq_ok_iff.1 h
  dsimp only at h
  split at h
  · cases h
  · split at h
    · cases h
    · rename_i hposition
      split at h
      · cases h
      · exact ⟨t, target?_eq_ok ht, by simpa using hposition, (Except.ok.inj h).symm⟩

/-- **What it takes to remove a column**: the rows lose its cells. -/
theorem dropColumn?_eq_ok {table column : String} (h : db.dropColumn? table column = .ok db') :
    ∃ t i, db.table? table = some t ∧ t.position? column = some i ∧
      db' = db.replaceTable (t.withoutColumn i) := by
  rw [dropColumn?] at h
  obtain ⟨t, ht, h⟩ := Result.bind_eq_ok_iff.1 h
  cases hposition : t.position? column with
  | none =>
    rw [hposition] at h
    cases h
  | some i =>
    rw [hposition] at h
    dsimp only at h
    refine ⟨t, i, target?_eq_ok ht, hposition, ?_⟩
    split at h
    · cases h
    · split at h
      · cases h
      · split at h
        · cases h
        · exact (Except.ok.inj h).symm

end Database
end Daybook.Sql
