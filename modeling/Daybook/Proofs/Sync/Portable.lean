import Daybook.Proofs.Store.Edit
import Daybook.Proofs.Sync.Dates
import Daybook.Schema.Models

/-!
# Portable schemas

The tables of a schema can be carried from one device to another if its names may stand in
statements, its key is a text and the only distinct column, there are no byte strings, and dates are
not restricted further. The entities of a household are so (**`portable_models`**).

* `Schema.Portable`.
-/

namespace Daybook.Schema

open Sql

variable {s : Schema}

/-- The tables of the schema can be carried from one device to another. -/
structure Portable (s : Schema) : Prop where
  valid : s.fault? = none
  notCatalog : Database.isCatalogName s.table = false
  tableWord : nameClash? s.table = none
  columnWords : ∀ c ∈ s.columns, nameClash? c.name = none
  narrow : s.columns.length ≤ maxMarks
  noBlobs : Store.NoBlobs s
  keyed : ∃ key, s.key? = some key ∧ key.type = .text ∧ key.required ∧ key.toDef.allowed = [] ∧
    key.isDate = false ∧ key.name ≠ createdColumn
  noOtherKeys : ∀ c ∈ s.columns, c.unique = false
  freeDates : ∀ c ∈ s.columns, c.isDate ∨ c.name = createdColumn → c.toDef.allowed = []
  freeCreated : ∀ c ∈ s.columns, c.name = createdColumn → c.required = false
  stamped : Sync.IsStamped s

/-- **The entities of a household are portable.** -/
theorem portable_models : ∀ s ∈ models, s.Portable := by
  have hkey : ∀ s ∈ models, s.key? = some idColumn := by decide
  have hblobs : ∀ s ∈ models, ∀ c ∈ s.columns, c.type ≠ .blob := by decide
  have hstamped : ∀ s ∈ models, s.tracksCreated →
      ∃ c ∈ s.dateColumns, c.name = updatedColumn := by decide
  intro s hs
  refine ⟨?_, ?_, ?_, ?_, ?_, hblobs s hs, ⟨idColumn, hkey s hs, rfl, rfl, rfl, rfl, by decide⟩,
    ?_, ?_, ?_, hstamped s hs⟩
  all_goals
    revert s
    decide

/-! ## Columns -/

namespace Portable

theorem nodup_names (h : s.Portable) : (s.columns.map Column.name).Nodup :=
  (fault?_eq_none_iff.1 h.valid).nodup

theorem hasNames (h : s.Portable) : s.HasNames := ⟨h.notCatalog, h.tableWord, h.columnWords⟩

/-- The key is a required text that is not restricted, and no date. -/
theorem of_key (h : s.Portable) {key : Column} (hkey : s.key? = some key) :
    key.type = .text ∧ key.required ∧ key.toDef.allowed = [] ∧ key.isDate = false ∧
      key.name ≠ createdColumn := by
  obtain ⟨key', hkey', hall⟩ := h.keyed
  rwa [← Option.some.inj (hkey.symm.trans hkey')] at hall

/-- No column is the number of the row. -/
theorem isNumberColumn_eq_false (h : s.Portable) {c : Column} (hc : c ∈ s.columns) :
    Table.isNumberColumn c.toDef = false := by
  obtain ⟨key, hkey, htype, -⟩ := h.keyed
  rw [← Bool.not_eq_true, isNumberColumn_toDef_iff]
  rintro ⟨hprimary, hinteger⟩
  obtain rfl := Option.some.inj (((key?_eq_some_iff h.valid hc).2 hprimary).symm.trans hkey)
  rw [htype] at hinteger
  exact nomatch hinteger

end Portable
end Daybook.Schema
