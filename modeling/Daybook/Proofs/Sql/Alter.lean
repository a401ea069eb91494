import Daybook.Proofs.Sql.Regular

/-!
# Alterations of a table

Statements that add and remove columns and indexes keep the rows of the table in their order, and
the cells in the columns that stay; a new column has its default in each of them. The other tables
keep their columns and rows. What one statement does so, statements one after the other do
(**`Regular.runAll?_altering`**).

* `Table.Reindexed`: the tables differ in their indexes;
* `Table.Reshaped`, `Database.Reshaped`: columns were removed and added;
* `Table.KeepsRow`, **`Table.Reshaped.keepsRow`**: the cells of a row, by the names of columns;
* `Statement.Alters`, `Altering`: statements that remove and add columns.
-/

namespace Daybook.Sql

/-- The column has one of the names. -/
def ColumnDef.isNamed (names : List String) (c : ColumnDef) : Bool :=
  names.any fun n => sameName c.name n

/-! ## Lists without an item -/

/-- A list without the one item that satisfies a condition. -/
theorem eraseIdx_eq_filter {α : Type} {p : α → Bool} {xs : List α} {i : Nat}
    (hxs : xs.Pairwise fun a b => p a → p b → False) (hi : xs.findIdx? p = some i) :
    xs.eraseIdx i = xs.filter fun x => !p x := by
  induction xs generalizing i with
  | nil => cases hi
  | cons x rest ih =>
    rw [List.pairwise_cons] at hxs
    rw [List.findIdx?_cons] at hi
    by_cases hx : p x
    · rw [if_pos hx, Option.some_inj] at hi
      subst hi
      have hrest : rest.filter (fun x => !p x) = rest := by
        rw [List.filter_eq_self]
        intro y hy
        simpa using hxs.1 y hy hx
      simp [hx, hrest]
    · rw [if_neg hx, Option.map_eq_some_iff] at hi
      obtain ⟨j, hj, rfl⟩ := hi
      rw [Bool.not_eq_true] at hx
      simp [hx, ih hxs.2 hj]

theorem eraseIdx_zip {α β : Type} (xs : List α) (ys : List β) (i : Nat) :
    (xs.eraseIdx i).zip (ys.eraseIdx i) = (xs.zip ys).eraseIdx i := by
  induction xs generalizing ys i with
  | nil => simp
  | cons x xs ih =>
    cases ys with
    | nil => simp
    | cons y ys =>
      cases i with
      | zero => rfl
      | succ i => simp [ih]

/-! ## Tables -/

namespace Table

variable {t t' t'' : Table} {removed removed' : List String} {added added' : List ColumnDef}

/-- The tables differ in their indexes alone. -/
def Reindexed (t t' : Table) : Prop := ∃ indexes, t' = { t with indexes := indexes }

theorem Reindexed.refl (t : Table) : t.Reindexed t := ⟨t.indexes, rfl⟩

theorem Reindexed.trans (h : t.Reindexed t') (h' : t'.Reindexed t'') : t.Reindexed t'' := by
  obtain ⟨indexes, rfl⟩ := h
  obtain ⟨indexes', rfl⟩ := h'
  exact ⟨indexes', rfl⟩

/-- The cells of a row, each with its column. -/
def fields (t : Table) (r : Row) : List (ColumnDef × Cell) := t.columns.zip r.cells

/-- Columns were removed and others added. The rows are the same, and each has the cells that it had
in the columns that stay, and defaults in those that are new. -/
structure Reshaped (removed : List String) (added : List ColumnDef) (t t' : Table) : Prop where
  name : t'.name = t.name
  columns : t'.columns = t.columns.filter (fun c => !c.isNamed removed) ++ added
  rows : List.Forall₂ (fun r r' => r'.id = r.id ∧
    t'.fields r' = (t.fields r).filter (fun p => !p.1.isNamed removed) ++
      added.map fun c => (c, c.initial)) t.rows t'.rows

theorem Reindexed.reshaped (h : t.Reindexed t') : t.Reshaped [] [] t' := by
  obtain ⟨indexes, rfl⟩ := h
  refine ⟨rfl, ?_, ?_⟩
  · simp [ColumnDef.isNamed]
  · simp [ColumnDef.isNamed, fields, List.forall₂_same]

/-- One reshaping after another: what the second removes may be what the first adds. -/
theorem Reshaped.trans (h : t.Reshaped removed added t') (h' : t'.Reshaped removed' added' t'') :
    t.Reshaped (removed ++ removed') (added.filter (fun c => !c.isNamed removed') ++ added') t'' := by
  have hnamed (c : ColumnDef) :
      (!c.isNamed removed' && !c.isNamed removed) = !c.isNamed (removed ++ removed') := by
    rw [ColumnDef.isNamed, ColumnDef.isNamed, ColumnDef.isNamed, List.any_append, Bool.not_or,
      Bool.and_comm]
  refine ⟨h'.name.trans h.name, ?_, ?_⟩
  · rw [h'.columns, h.columns, List.filter_append, List.filter_filter, List.append_assoc]
    simp only [hnamed]
  · refine Result.forall₂_trans h.rows h'.rows fun r r' r'' hr hr' => ⟨hr'.1.trans hr.1, ?_⟩
    rw [hr'.2, hr.2, List.filter_append, List.filter_filter, List.filter_map, List.map_append,
      List.append_assoc]
    simp only [hnamed]
    rfl

namespace Regular

theorem map_fst_fields (h : t.Regular) {r : Row} (hr : r ∈ t.rows) :
    (t.fields r).map Prod.fst = t.columns :=
  List.map_fst_zip (le_of_eq (h.rectangular r hr).symm)

theorem reshaped_withColumn (h : t.Regular) (c : ColumnDef) :
    t.Reshaped [] [c] (t.withColumn c) where
  name := rfl
  columns := by simp [Table.withColumn, ColumnDef.isNamed]
  rows := by
    rw [Table.withColumn, List.forall₂_map_right_iff, List.forall₂_same]
    intro r hr
    refine ⟨rfl, ?_⟩
    simp [fields, ColumnDef.isNamed, List.zip_append (h.rectangular r hr).symm]

theorem reshaped_withoutColumn (h : t.Regular) {column : String} {i : Nat}
    (hi : t.position? column = some i) : t.Reshaped [column] [] (t.withoutColumn i) := by
  have hnamed (c : ColumnDef) : c.isNamed [column] = sameName c.name column := by
    simp [ColumnDef.isNamed]
  -- no two columns have the name
  have honce {xs : List ColumnDef} (hxs : (xs.map fun c => upper c.name).Nodup) :
      xs.Pairwise fun a b => sameName a.name column → sameName b.name column → False := by
    rw [List.nodup_iff_pairwise_ne, List.pairwise_map] at hxs
    refine hxs.imp fun hne ha hb => hne ?_
    rw [(sameName_iff _ _).1 ha, (sameName_iff _ _).1 hb]
  refine ⟨rfl, ?_, ?_⟩
  · simp only [Table.withoutColumn, hnamed, List.append_nil]
    exact eraseIdx_eq_filter (honce h.names) hi
  · rw [Table.withoutColumn, List.forall₂_map_right_iff, List.forall₂_same]
    intro r hr
    refine ⟨rfl, ?_⟩
    have hone := honce h.names
    rw [← h.map_fst_fields hr, List.pairwise_map] at hone
    rw [position?, ← h.map_fst_fields hr, List.findIdx?_map] at hi
    simp only [hnamed, List.map_nil, List.append_nil]
    exact (eraseIdx_zip _ _ _).trans (eraseIdx_eq_filter hone hi)

end Regular
/-! ## Cells by the names of columns -/

/-- The cell of a column is the one that stands with it. -/
theorem Regular.cellOf_eq (h : t.Regular) {r : Row} {c : ColumnDef} {v : Cell}
    (hmem : (c, v) ∈ t.fields r) : t.cellOf r.cells c.name = v := by
  obtain ⟨i, hi⟩ := List.mem_iff_getElem?.1 hmem
  rw [fields, List.getElem?_zip_eq_some] at hi
  rw [Table.cellOf_eq (position?_of_getElem? h.names hi.1), hi.2, Option.getD_some]

/-- A row has become another: it keeps its number, and its cells in the columns that both tables
have; in the columns that were added it has their defaults. -/
structure KeepsRow (added : List ColumnDef) (t t' : Table) (r r' : Row) : Prop where
  id : r'.id = r.id
  kept : ∀ name, (t.position? name).isSome → (t'.position? name).isSome →
    t'.cellOf r'.cells name = t.cellOf r.cells name
  initial : ∀ c ∈ added, t'.cellOf r'.cells c.name = c.initial

/-- **What becomes of the rows**, where columns were only removed or only added. -/
theorem Reshaped.keepsRow (h : t.Reshaped removed added t') (ht : t.Regular) (ht' : t'.Regular)
    (hone : added = [] ∨ removed = []) :
    List.Forall₂ (KeepsRow added t t') t.rows t'.rows := by
  refine ((List.forall₂_and_left (p := (· ∈ t.rows)) _ _).2 ⟨fun _ hr => hr, h.rows⟩).imp ?_
  rintro r r' ⟨hr, hid, hfields⟩
  refine ⟨hid, fun name hname hname' => ?_, fun c hc => ?_⟩
  · obtain ⟨d, hd, hsame⟩ := position?_isSome_iff.1 hname
    -- the column of the name is not one that is removed
    have hkept : d.isNamed removed = false := by
      rcases hone with rfl | rfl
      · obtain ⟨d', hd', hsame'⟩ := position?_isSome_iff.1 hname'
        rw [h.columns, List.append_nil, List.mem_filter, Bool.not_eq_true'] at hd'
        rw [sameName_iff] at hsame hsame'
        rw [← hd'.2, ColumnDef.isNamed, ColumnDef.isNamed]
        simp only [sameName, hsame, hsame']
      · rfl
    rw [← ht.map_fst_fields hr] at hd
    obtain ⟨⟨d, v⟩, hmem, rfl⟩ := List.mem_map.1 hd
    have hmem' : (d, v) ∈ t'.fields r' := by
      rw [hfields]
      exact List.mem_append_left _ (List.mem_filter.2 ⟨hmem, by rw [hkept, Bool.not_false]⟩)
    rw [← cellOf_congr hsame, ← cellOf_congr hsame, ht'.cellOf_eq hmem', ht.cellOf_eq hmem]
  · refine ht'.cellOf_eq ?_
    rw [hfields]
    exact List.mem_append_right _ (List.mem_map_of_mem hc)

end Table

/-! ## Databases -/

namespace Database

variable {db db' db'' : Database} {table : String} {removed removed' : List String}
  {added added' : List ColumnDef}

/-- The tables in their order: columns of the one of the name were removed and added, and the others
differ in their indexes alone. -/
def Reshaped (table : String) (removed : List String) (added : List ColumnDef)
    (db db' : Database) : Prop :=
  List.Forall₂ (fun t t' =>
    if sameName t.name table then t.Reshaped removed added t' else t.Reindexed t')
    db.tables db'.tables

theorem reshaped_of_reindexed (h : List.Forall₂ Table.Reindexed db.tables db'.tables) :
    db.Reshaped table [] [] db' := by
  refine h.imp fun t t' ht => ?_
  split_ifs
  · exact ht.reshaped
  · exact ht

theorem Reshaped.refl (table : String) (db : Database) : db.Reshaped table [] [] db :=
  reshaped_of_reindexed (List.forall₂_same.2 fun t _ => Table.Reindexed.refl t)

theorem Reshaped.trans (h : db.Reshaped table removed added db')
    (h' : db'.Reshaped table removed' added' db'') :
    db.Reshaped table (removed ++ removed')
      (added.filter (fun c => !c.isNamed removed') ++ added') db'' := by
  refine Result.forall₂_trans h h' fun t t' t'' ht ht' => ?_
  split_ifs at ht with hname
  · rw [ht.name, if_pos hname] at ht'
    rw [if_pos hname]
    exact ht.trans ht'
  · obtain ⟨indexes, rfl⟩ := ht
    rw [if_neg hname] at ht' ⊢
    exact Table.Reindexed.trans ⟨indexes, rfl⟩ ht'

/-- What becomes of the table of a name. -/
theorem Reshaped.rel_table? (h : db.Reshaped table removed added db') (name : String) :
    Option.Rel (fun t t' =>
      if sameName t.name table then t.Reshaped removed added t' else t.Reindexed t')
      (db.table? name) (db'.table? name) := by
  rw [table?, table?]
  rw [Reshaped] at h
  generalize db.tables = tables at h ⊢
  generalize db'.tables = tables' at h ⊢
  induction h with
  | nil => exact .none
  | @cons u u' us us' hu _ ih =>
    have hname : u'.name = u.name := by
      split_ifs at hu
      · exact hu.name
      · obtain ⟨indexes, rfl⟩ := hu
        rfl
    rw [List.find?_cons, List.find?_cons, hname]
    cases sameName u.name name with
    | true => exact .some hu
    | false => exact ih

theorem Reshaped.exists_table? (h : db.Reshaped table removed added db') {t : Table}
    (ht : db.table? table = some t) :
    ∃ t', db'.table? table = some t' ∧ t.Reshaped removed added t' := by
  have hrel := h.rel_table? table
  rw [ht] at hrel
  generalize db'.table? table = found at hrel ⊢
  cases hrel with
  | some htable =>
    rw [if_pos (sameName_of_table? ht)] at htable
    exact ⟨_, rfl, htable⟩

/-- The table of a name is reshaped if it is put in place so. -/
theorem Regular.reshaped_replaceTable (h : db.Regular) {t t' : Table} (ht : db.table? table = some t)
    (hreshaped : t.Reshaped removed added t') :
    db.Reshaped table removed added (db.replaceTable t') := by
  have htable := (sameName_iff _ _).1 (sameName_of_table? ht)
  rw [Reshaped, Database.replaceTable, List.forall₂_map_right_iff, List.forall₂_same]
  intro u hu
  have hiff : sameName u.name t'.name = sameName u.name table := by
    rw [Bool.eq_iff_iff, sameName_iff, sameName_iff, hreshaped.name, htable]
  rw [hiff]
  split_ifs with hname
  · rw [sameName_iff, ← htable, ← sameName_iff] at hname
    rwa [h.eq_of_sameName hu (mem_of_table? ht) hname]
  · exact Table.Reindexed.refl u

/-- Other indexes leave the columns and rows of all tables. -/
theorem Regular.reshaped_indexes (h : db.Regular) {t : Table} (ht : t ∈ db.tables)
    (indexes : List Index) :
    db.Reshaped table [] [] (db.replaceTable { t with indexes := indexes }) := by
  refine reshaped_of_reindexed ?_
  rw [Database.replaceTable, List.forall₂_map_right_iff, List.forall₂_same]
  intro u hu
  split_ifs with hname
  · rw [h.eq_of_sameName hu ht hname]
    exact ⟨indexes, rfl⟩
  · exact Table.Reindexed.refl u

end Database

/-! ## Statements -/

/-- The statement removes columns of the table and adds others, or it is about an index. -/
inductive Statement.Alters (table : String) : Statement → List String → List ColumnDef → Prop
  | createIndex (unique ifNotExists : Bool) (index owner : String) (columns : List String) :
    Alters table (.createIndex unique ifNotExists index owner columns) [] []
  | dropIndex (ifExists : Bool) (index : String) : Alters table (.dropIndex ifExists index) [] []
  | addColumn (c : ColumnDef) : Alters table (.addColumn table c) [] [c]
  | dropColumn (column : String) : Alters table (.dropColumn table column) [column] []

/-- Statements that remove columns of the table and add others, one after the other. -/
inductive Altering (table : String) : List Statement → List String → List ColumnDef → Prop
  | nil : Altering table [] [] []
  | cons {s : Statement} {rest : List Statement} {removed removed' : List String}
    {added added' : List ColumnDef} (hs : s.Alters table removed added)
    (hrest : Altering table rest removed' added') :
    Altering table (s :: rest) (removed ++ removed')
      (added.filter (fun c => !c.isNamed removed') ++ added')

namespace Altering

variable {table : String}

theorem indexes {statements : List Statement} (h : ∀ s ∈ statements, s.Alters table [] []) :
    Altering table statements [] [] := by
  induction statements with
  | nil => exact .nil
  | cons s rest ih =>
    obtain ⟨hs, hrest⟩ := List.forall_mem_cons.1 h
    exact .cons hs (ih hrest)

theorem addColumns (columns : List ColumnDef) :
    Altering table (columns.map (.addColumn table)) [] columns := by
  induction columns with
  | nil => exact .nil
  | cons c rest ih => simpa [ColumnDef.isNamed] using Altering.cons (.addColumn c) ih

theorem dropColumns (names : List String) :
    Altering table (names.map (.dropColumn table)) names [] := by
  induction names with
  | nil => exact .nil
  | cons n rest ih => exact .cons (.dropColumn n) ih

/-- Statements about indexes may stand before and after others. -/
theorem between {before statements after : List Statement} {removed : List String}
    {added : List ColumnDef} (hbefore : ∀ s ∈ before, s.Alters table [] [])
    (h : Altering table statements removed added) (hafter : ∀ s ∈ after, s.Alters table [] []) :
    Altering table (before ++ statements ++ after) removed added := by
  have hend : Altering table (statements ++ after) removed added := by
    induction h with
    | nil => exact indexes hafter
    | cons hs _ ih => exact .cons hs ih
  rw [List.append_assoc]
  induction before with
  | nil => exact hend
  | cons s rest ih =>
    obtain ⟨hs, hrest⟩ := List.forall_mem_cons.1 hbefore
    exact .cons hs (ih hrest)

end Altering

namespace Database.Regular

variable {db db' : Database} {table : String} {removed : List String} {added : List ColumnDef}

theorem run?_alters (h : db.Regular) {s : Statement} {o : Outcome}
    (hs : s.Alters table removed added) (hok : db.run? s = .ok (db', o)) :
    db.Reshaped table removed added db' := by
  cases hs with
  | createIndex unique ifNotExists index owner columns =>
    obtain ⟨t, ht, ⟨-, rfl⟩ | ⟨-, -, rfl⟩⟩ := createIndex?_eq_ok (of_run?_done rfl hok)
    · exact Reshaped.refl table _
    · exact h.reshaped_indexes (mem_of_table? ht) _
  | dropIndex ifExists index =>
    obtain rfl | ⟨t, ht, indexes, rfl⟩ := dropIndex?_eq_ok (of_run?_done rfl hok)
    · exact Reshaped.refl table _
    · exact h.reshaped_indexes ht indexes
  | addColumn c =>
    obtain ⟨t, ht, -, rfl⟩ := addColumn?_eq_ok (of_run?_done rfl hok)
    exact h.reshaped_replaceTable ht ((h.tables t (mem_of_table? ht)).reshaped_withColumn c)
  | dropColumn column =>
    obtain ⟨t, i, ht, hi, rfl⟩ := dropColumn?_eq_ok (of_run?_done rfl hok)
    exact h.reshaped_replaceTable ht ((h.tables t (mem_of_table? ht)).reshaped_withoutColumn hi)

theorem runAll? (h : db.Regular) {statements : List Statement} {os : List Outcome}
    (hok : db.runAll? statements = .ok (db', os)) : db'.Regular := by
  induction statements generalizing db os with
  | nil =>
    obtain ⟨rfl, -⟩ := Prod.mk.inj (Except.ok.inj hok)
    exact h
  | cons s rest ih =>
    obtain ⟨d, o, os', hfirst, hrest⟩ := runAll?_cons hok
    exact ih (h.run? hfirst) hrest

/-- **Statements that alter a table, one after the other.** -/
theorem runAll?_altering (h : db.Regular) {statements : List Statement} {os : List Outcome}
    (hs : Altering table statements removed added) (hok : db.runAll? statements = .ok (db', os)) :
    db.Reshaped table removed added db' := by
  induction hs generalizing db os with
  | nil =>
    obtain ⟨rfl, -⟩ := Prod.mk.inj (Except.ok.inj hok)
    exact Reshaped.refl table db
  | cons hs _ ih =>
    obtain ⟨d, o, os', hfirst, hrest⟩ := runAll?_cons hok
    exact (h.run?_alters hs hfirst).trans (ih (h.run? hfirst) hrest)

end Database.Regular
end Daybook.Sql
