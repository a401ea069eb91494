import Daybook.Schema.Basic
import Mathlib.Data.List.Nodup

/-!
# The rules of a schema

A schema that breaks no rule has an entity and columns; its names are identifiers, those of the
columns differ, and one column at most is the primary key (**`Schema.fault?_eq_none_iff`**).

* `continues_of_isIdentifier`: the characters of an identifier;
* `Schema.KeepsRules`.
-/

namespace Daybook

/-- An identifier has letters, digits and underscores. -/
theorem continues_of_isIdentifier {name : String} (h : isIdentifier name = true) :
    name.toList ≠ [] ∧ ∀ c ∈ name.toList, continuesIdentifier c = true := by
  unfold isIdentifier at h
  cases hname : name.toList with
  | nil => simp [hname] at h
  | cons d rest =>
    simp only [hname, Bool.and_eq_true, List.all_eq_true] at h
    refine ⟨List.cons_ne_nil d rest, fun c hc => ?_⟩
    obtain rfl | hc := List.mem_cons.1 hc
    · have hstarts := h.1
      simp only [startsIdentifier, continuesIdentifier, Char.isAlphanum, Bool.or_eq_true] at hstarts ⊢
      exact hstarts.imp_left Or.inl
    · exact h.2 c hc

namespace Schema

/-- The default of a column is one of the texts that it accepts, where it has both. -/
def DefaultAllowed (c : Column) : Prop :=
  ∀ value allowed, c.default = some value → c.allowed = some allowed → value ∈ allowed

/-- What the rules of a schema ask for. -/
structure KeepsRules (s : Schema) : Prop where
  entity : s.entity ≠ ""
  table : isIdentifier s.table = true
  columns_ne : s.columns ≠ []
  names : ∀ c ∈ s.columns, isIdentifier c.name = true
  nodup : (s.columns.map Column.name).Nodup
  defaults : ∀ c ∈ s.columns, DefaultAllowed c
  keys : (s.columns.filter Column.primaryKey).length ≤ 1

theorem columnFault?_eq_none_iff {entity : String} {before : List String} {c : Column} :
    columnFault? entity before c = none ↔
      isIdentifier c.name = true ∧ c.name ∉ before ∧ DefaultAllowed c := by
  rw [columnFault?, DefaultAllowed]
  split_ifs with hname hbefore
  · simp only [Bool.not_eq_true', Bool.eq_false_iff] at hname
    exact iff_of_false not_false fun h => hname h.1
  · exact iff_of_false not_false fun h => h.2.1 (List.contains_iff_mem.1 hbefore)
  · rw [Bool.not_eq_true, Bool.not_eq_false'] at hname
    rw [List.contains_iff_mem] at hbefore
    split
    · rename_i value allowed hvalue hallowed
      split_ifs with hmem <;> simp_all
    · simp_all

theorem columnsFault?_eq_none_iff {entity : String} {columns : List Column}
    (before : List String) : columnsFault? entity before columns = none ↔
      (∀ c ∈ columns, isIdentifier c.name = true ∧ c.name ∉ before ∧ DefaultAllowed c) ∧
        (columns.map Column.name).Nodup := by
  induction columns generalizing before with
  | nil => simp [columnsFault?]
  | cons c rest ih =>
    rw [columnsFault?, Option.or_eq_none_iff, columnFault?_eq_none_iff, ih, List.forall_mem_cons]
    simp only [List.map_cons, List.nodup_cons, List.mem_map, List.mem_cons, not_or, not_exists,
      not_and]
    constructor
    · rintro ⟨hc, hrest, hnodup⟩
      exact ⟨⟨hc, fun d hd => ⟨(hrest d hd).1, (hrest d hd).2.1.2, (hrest d hd).2.2⟩⟩,
        fun d hd => (hrest d hd).2.1.1, hnodup⟩
    · rintro ⟨⟨hc, hrest⟩, hnew, hnodup⟩
      exact ⟨hc, fun d hd => ⟨(hrest d hd).1, ⟨hnew d hd, (hrest d hd).2.1⟩, (hrest d hd).2.2⟩,
        hnodup⟩

/-- **A schema breaks no rule exactly if it has what the rules ask for.** -/
theorem fault?_eq_none_iff {s : Schema} : s.fault? = none ↔ s.KeepsRules := by
  rw [fault?]
  constructor
  · intro h
    split_ifs at h with hentity htable hcolumns
    split at h
    · exact nomatch h
    · rename_i hfault
      dsimp only at h
      split_ifs at h with hkeys
      obtain ⟨hrules, hnodup⟩ := (columnsFault?_eq_none_iff []).1 hfault
      rw [List.length_map, Nat.not_lt] at hkeys
      exact ⟨by simpa using hentity, by simpa using htable, by simpa using hcolumns,
        fun c hc => (hrules c hc).1, hnodup, fun c hc => (hrules c hc).2.2, hkeys⟩
  · intro h
    have hfault : columnsFault? s.entity [] s.columns = none := (columnsFault?_eq_none_iff []).2
      ⟨fun c hc => ⟨h.names c hc, List.not_mem_nil, h.defaults c hc⟩, h.nodup⟩
    rw [if_neg (by simpa using h.entity), if_neg (by simpa using h.table),
      if_neg (by simpa using h.columns_ne), hfault]
    exact if_neg (by rw [List.length_map, Nat.not_lt]; exact h.keys)

end Schema
end Daybook
