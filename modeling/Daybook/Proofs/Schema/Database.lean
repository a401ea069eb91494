import Daybook.Proofs.Schema.Table
import Daybook.Proofs.Sql.Rows

/-!
# Databases of schemas

A database serves schemas if it has for each of them a sound table that is made for it, with plain
cells. Statements that only read or change rows keep it so (**`Database.Serves.run?`**).

* `Table.Serves`, `Database.Serves`: the invariant, for one table and for a database;
* `Schema.HasNames`: the names of a schema may stand in statements.
-/

namespace Daybook.Sql

/-! ## Tables that serve -/

/-- The table of a schema as changes of rows leave it: only what is declared so is distinct. -/
structure Table.Serves (t : Table) (s : Schema) : Prop where
  made : t.MadeFor s
  sound : t.Sound
  distinct : ∀ c ∈ s.columns, t.IsDistinct c.name → c.primaryKey ∨ c.unique

theorem Table.Serves.change {t t' : Table} {s : Schema} (h : t.Serves s) (ha : t.Alike t')
    (hs : t'.Sound) : t'.Serves s := by
  refine ⟨h.made.alike ha, hs, ?_⟩
  obtain ⟨rows, rfl⟩ := ha
  exact h.distinct

/-- The defaults of declared columns are texts. -/
theorem Table.MadeFor.plainDefaults {t : Table} {s : Schema} (h : t.MadeFor s) :
    t.PlainDefaults := by
  intro c hc v hv
  obtain ⟨d, -, rfl⟩ := List.mem_map.1 (h.columns.mem_iff.1 hc)
  obtain ⟨text, -, rfl⟩ := Option.map_eq_some_iff.1 hv
  exact fun h => nomatch h

/-! ## Databases that serve -/

/-- Tables of different names, the first of them apart. -/
theorem nodup_tables_cons_iff {s : Schema} {rest : List Schema} :
    ((s :: rest).map fun s => upper s.table).Nodup ↔
      (∀ s' ∈ rest, ¬ sameName s.table s'.table) ∧ (rest.map fun s => upper s.table).Nodup := by
  rw [List.map_cons, List.nodup_cons, List.mem_map]
  refine and_congr_left fun _ => ?_
  constructor
  · intro h s' hs' hname
    exact h ⟨s', hs', ((sameName_iff _ _).1 hname).symm⟩
  · rintro h ⟨s', hs', hname⟩
    exact h s' hs' ((sameName_iff _ _).2 hname.symm)

theorem nodup_tables {schemas : List Schema} (h : (schemas.map fun s => upper s.table).Nodup) :
    (schemas.map Schema.table).Nodup := by
  refine List.Nodup.of_map upper ?_
  rw [List.map_map]
  exact h

/-- The database has a plain table for every schema. -/
def Database.Serves (schemas : List Schema) (db : Database) : Prop :=
  ∀ s ∈ schemas, ∃ t, db.table? s.table = some t ∧ t.Serves s ∧ t.Plain

/-- **Statements on rows keep a database that serves schemas so.** -/
theorem Database.Serves.run? {schemas : List Schema} {db db' : Database} {st : Statement}
    {o : Outcome} (h : db.Serves schemas) (hst : st.OnRows) (hok : db.run? st = .ok (db', o)) :
    db'.Serves schemas := by
  intro s hs
  obtain ⟨t, ht, hserves, hplain⟩ := h s hs
  obtain ⟨t', ht', hleaves⟩ := table?_of_aboutRows hst.aboutRows hok ht
  exact ⟨t', ht', hserves.change hleaves.alike (hleaves.sound hserves.sound),
    hleaves.plain hst hserves.sound hserves.made.plainDefaults hplain⟩

end Daybook.Sql

/-! ## Names of a schema -/

/-- The names of the schema may stand in statements. -/
structure Daybook.Schema.HasNames (s : Daybook.Schema) : Prop where
  notCatalog : Daybook.Sql.Database.isCatalogName s.table = false
  tableWord : Daybook.Sql.nameClash? s.table = none
  columnWords : ∀ c ∈ s.columns, Daybook.Sql.nameClash? c.name = none
