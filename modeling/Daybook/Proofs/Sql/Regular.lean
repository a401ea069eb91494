import Daybook.Proofs.Sql.Definition
import Daybook.Proofs.Sql.Rows

/-!
# Regular databases

In a regular database no two tables have the same name, no two columns of a table do, and every row
has a cell for each column. Every statement keeps it so (**`Regular.run?`**), and keeps the rows of
all tables in the order of their numbers (**`Ascending.run?`**).

* `Database.Becomes`, **`becomes_of_run?`**: all that a statement makes of a database;
* `Table.Regular`, `Database.Regular`: the invariant, for one table and for a database;
* `Regular.replaceTable`: a regular table may take the place of one of its name;
* `Database.Ascending`: the order of rows.
-/

namespace Daybook.Sql

/-! ## What becomes of databases -/

/-- What a statement that defines an index or a column makes of a table. -/
inductive Table.Redefined (t : Table) : Table → Prop
  | indexes (indexes : List Index) : t.Redefined { t with indexes := indexes }
  | withColumn (c : ColumnDef) (hnew : t.position? c.name = none) : t.Redefined (t.withColumn c)
  | withoutColumn (i : Nat) : t.Redefined (t.withoutColumn i)

namespace Database

/-- What a statement makes of a database. -/
inductive Becomes (db : Database) (s : Statement) : Database → Prop
  | same : Becomes db s db
  /-- A table is made. -/
  | made (name : String) (columns : List ColumnDef) (indexes : List Index)
      (hnone : db.table? name = none) (hnames : (columns.map fun c => upper c.name).Nodup) :
      Becomes db s ⟨db.tables ++ [⟨name, columns, [], indexes⟩]⟩
  /-- A table is removed. -/
  | fewer (db' : Database) (hsub : db'.tables.Sublist db.tables) : Becomes db s db'
  | replaced (t t' : Table) (ht : t ∈ db.tables) (hchange : t.Leaves s t' ∨ t.Redefined t') :
      Becomes db s (db.replaceTable t')

variable {db db' : Database}

/-- **What a statement does.** -/
theorem becomes_of_run? {s : Statement} {o : Outcome} (hok : db.run? s = .ok (db', o)) :
    db.Becomes s db' := by
  by_cases hrows : s.AboutRows
  · rcases run?_aboutRows hrows hok with rfl | ⟨name, t, t', ht, rfl, hleaves⟩
    · exact .same
    · exact .replaced t t' (mem_of_table? ht) (.inl hleaves)
  · cases s with
    | createTable ifNotExists name columns =>
      obtain ⟨-, ⟨-, -, rfl⟩ | ⟨hnone, hfault, -, rfl⟩⟩ := createTable?_eq_ok (of_run?_done rfl hok)
      · exact .same
      · exact .made name columns _ hnone (nodup_of_columnsFault? hfault).1
    | dropTable ifExists name => exact .fewer db' (dropTable?_eq_ok (of_run?_done rfl hok))
    | createIndex unique ifNotExists name table columns =>
      obtain ⟨t, ht, ⟨-, rfl⟩ | ⟨-, -, rfl⟩⟩ := createIndex?_eq_ok (of_run?_done rfl hok)
      · exact .same
      · exact .replaced t _ (mem_of_table? ht) (.inr (.indexes _))
    | dropIndex ifExists name =>
      obtain rfl | ⟨t, ht, indexes, rfl⟩ := dropIndex?_eq_ok (of_run?_done rfl hok)
      · exact .same
      · exact .replaced t _ ht (.inr (.indexes indexes))
    | addColumn table c =>
      obtain ⟨t, ht, hnew, rfl⟩ := addColumn?_eq_ok (of_run?_done rfl hok)
      exact .replaced t _ (mem_of_table? ht) (.inr (.withColumn c hnew))
    | dropColumn table column =>
      obtain ⟨t, i, ht, -, rfl⟩ := dropColumn?_eq_ok (of_run?_done rfl hok)
      exact .replaced t _ (mem_of_table? ht) (.inr (.withoutColumn i))
    | journalMode =>
      obtain ⟨rfl, -⟩ := Prod.mk.inj (Except.ok.inj (run?_eq_ok hok).2)
      exact .same
    | _ => exact absurd trivial hrows

end Database

/-! ## Tables -/

/-- Columns have names of their own, and rows a cell for each of them. -/
structure Table.Regular (t : Table) : Prop where
  names : (t.columns.map fun c => upper c.name).Nodup
  rectangular : t.Rectangular

namespace Table.Regular

variable {t t' : Table}

/-- A column of a new name may be added. -/
theorem withColumn (h : t.Regular) {c : ColumnDef} (hnew : t.position? c.name = none) :
    (t.withColumn c).Regular where
  names := by
    rw [position?, List.findIdx?_eq_none_iff] at hnew
    rw [Table.withColumn, List.map_append, List.map_singleton, List.nodup_append]
    refine ⟨h.names, List.nodup_singleton _, fun a ha b hb hab => ?_⟩
    obtain ⟨d, hd, rfl⟩ := List.mem_map.1 ha
    rw [List.mem_singleton] at hb
    exact absurd ((sameName_iff _ _).2 (hab.trans hb)) (by simp [hnew d hd])
  rectangular r' hr' := by
    obtain ⟨r, hr, rfl⟩ := List.mem_map.1 hr'
    simp [Table.withColumn, h.rectangular r hr]

/-- A column may be removed. -/
theorem withoutColumn (h : t.Regular) (i : Nat) : (t.withoutColumn i).Regular where
  names := h.names.sublist ((List.eraseIdx_sublist _ _).map _)
  rectangular r' hr' := by
    obtain ⟨r, hr, rfl⟩ := List.mem_map.1 hr'
    simp [Table.withoutColumn, List.length_eraseIdx, h.rectangular r hr]

/-- A table stays regular, whatever a statement makes of it. -/
theorem changed (h : t.Regular) {s : Statement} (hchange : t.Leaves s t' ∨ t.Redefined t') :
    t'.Regular := by
  rcases hchange with hleaves | hredefined
  · have hwidth := hleaves.rectangular h.rectangular
    obtain ⟨rows, rfl⟩ := hleaves.alike
    exact ⟨h.names, hwidth⟩
  · cases hredefined with
    | indexes indexes => exact ⟨h.names, h.rectangular⟩
    | withColumn c hnew => exact h.withColumn hnew
    | withoutColumn i => exact h.withoutColumn i

end Table.Regular

/-! ## Databases -/

namespace Database

/-- Tables have names of their own, and are regular. -/
structure Regular (db : Database) : Prop where
  names : (db.tables.map fun t => upper t.name).Nodup
  tables : ∀ t ∈ db.tables, t.Regular

theorem regular_empty : ({} : Database).Regular where
  names := List.nodup_nil
  tables _ h := absurd h List.not_mem_nil

variable {db db' : Database}

namespace Regular

/-- A table is told by its name. -/
theorem eq_of_sameName (h : db.Regular) {t u : Table} (ht : t ∈ db.tables) (hu : u ∈ db.tables)
    (hname : sameName t.name u.name) : t = u :=
  List.inj_on_of_nodup_map (f := fun t : Table => upper t.name) h.names ht hu
    ((sameName_iff _ _).1 hname)

theorem table?_of_mem (h : db.Regular) {t : Table} (ht : t ∈ db.tables) {name : String}
    (hname : sameName t.name name) : db.table? name = some t := by
  cases hfound : db.table? name with
  | none => exact absurd hname (table?_eq_none_iff.1 hfound t ht)
  | some u =>
    have hname' := sameName_of_table? hfound
    rw [h.eq_of_sameName (mem_of_table? hfound) ht]
    rw [sameName_iff] at hname hname' ⊢
    exact hname'.trans hname.symm

theorem sublist (h : db.Regular) (hsub : db'.tables.Sublist db.tables) : db'.Regular where
  names := h.names.sublist (hsub.map _)
  tables t ht := h.tables t (hsub.subset ht)

/-- A regular table may take the place of one of its name. -/
theorem replaceTable (h : db.Regular) {t : Table} (ht : t.Regular) :
    (db.replaceTable t).Regular where
  names := by
    have hnames : (db.replaceTable t).tables.map (fun t => upper t.name) =
        db.tables.map fun t => upper t.name := by
      rw [Database.replaceTable, List.map_map]
      refine List.map_congr_left fun u _ => ?_
      rw [Function.comp_apply]
      split_ifs with hname
      · exact ((sameName_iff _ _).1 hname).symm
      · rfl
    rw [hnames]
    exact h.names
  tables u hu := by
    obtain ⟨v, hv, rfl⟩ := List.mem_map.1 hu
    split_ifs
    · exact ht
    · exact h.tables v hv

/-- A regular table of a new name may be added. -/
theorem append (h : db.Regular) {t : Table} (ht : t.Regular) (hnone : db.table? t.name = none) :
    (⟨db.tables ++ [t]⟩ : Database).Regular where
  names := by
    rw [List.map_append, List.map_singleton, List.nodup_append]
    refine ⟨h.names, List.nodup_singleton _, fun a ha b hb hab => ?_⟩
    obtain ⟨u, hu, rfl⟩ := List.mem_map.1 ha
    rw [List.mem_singleton] at hb
    exact table?_eq_none_iff.1 hnone u hu ((sameName_iff _ _).2 (hab.trans hb))
  tables := List.forall_mem_append.2 ⟨h.tables, List.forall_mem_singleton.2 ht⟩

/-- **Every statement keeps a regular database so.** -/
theorem run? (h : db.Regular) {s : Statement} {o : Outcome} (hok : db.run? s = .ok (db', o)) :
    db'.Regular := by
  cases becomes_of_run? hok with
  | same => exact h
  | made name columns indexes hnone hnames =>
    exact h.append ⟨hnames, fun r hr => absurd hr List.not_mem_nil⟩ hnone
  | fewer _ hsub => exact h.sublist hsub
  | replaced t t' ht hchange => exact h.replaceTable ((h.tables t ht).changed hchange)

end Regular

/-! ## Order of rows -/

/-- The rows of every table are in the order of their numbers. -/
def Ascending (db : Database) : Prop := ∀ t ∈ db.tables, t.Ascending

theorem ascending_empty : ({} : Database).Ascending := fun _ h => absurd h List.not_mem_nil

/-- **Every statement keeps the order of rows.** -/
theorem Ascending.run? (h : db.Ascending) {s : Statement} {o : Outcome}
    (hok : db.run? s = .ok (db', o)) : db'.Ascending := by
  cases becomes_of_run? hok with
  | same => exact h
  | made name columns indexes hnone hnames =>
    exact List.forall_mem_append.2 ⟨h, List.forall_mem_singleton.2 List.Pairwise.nil⟩
  | fewer _ hsub => exact fun t ht => h t (hsub.subset ht)
  | replaced t t' ht hchange =>
    have ht' : t'.Ascending := by
      rcases hchange with hleaves | hredefined
      · exact hleaves.ascending (h t ht)
      · cases hredefined with
        | indexes indexes => exact h t ht
        | withColumn c hnew => exact List.pairwise_map.2 (h t ht)
        | withoutColumn i => exact List.pairwise_map.2 (h t ht)
    intro u hu
    obtain ⟨v, hv, rfl⟩ := List.mem_map.1 hu
    split_ifs
    · exact ht'
    · exact h v hv

end Database
end Daybook.Sql
