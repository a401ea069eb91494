import Daybook.Proofs.Result
import Daybook.Store.Change
import Mathlib.Tactic.SplitIfs

/-!
# What a patch assigns

A patch makes an assignment to each declared column that it names, but for those that the library
sets itself; these are counted up or get the time (`Assigns`). The assignments of an update are just
these (**`mem_assignments_iff`**). A patch that names no other column is refused
(`assignments_of_none`).
-/

namespace Daybook.Store

open Sql

variable {s : Schema} {m : Moment} {patch : Record}

/-- A patch makes an assignment to a declared column. -/
inductive Assigns (m : Moment) (patch : Record) (c : Column) : Assignment → Prop where
  | given {v : Json} {x : Cell} (own : isKept c = false) (named : patch.get? c.name = some v)
      (cell : c.cell v = .ok x) : Assigns m patch c (.set c.name (.bound x))
  | time (kept : c.name = Schema.updatedColumn) :
      Assigns m patch c (.set c.name (.bound (.text m.now)))
  | count (kept : c.name = Schema.versionColumn) : Assigns m patch c (.increment c.name)

namespace Assigns

variable {c : Column} {a b : Assignment}

theorem column_eq (h : Assigns m patch c a) : a.column = c.name := by
  cases h <;> rfl

theorem isKept_of_time (h : c.name = Schema.updatedColumn) : isKept c = true := by
  rw [isKept, h]
  decide

theorem isKept_of_count (h : c.name = Schema.versionColumn) : isKept c = true := by
  rw [isKept, h]
  decide

/-- A column has one assignment at most. -/
theorem unique (h : Assigns m patch c a) (h' : Assigns m patch c b) : a = b := by
  have hnames : Schema.updatedColumn ≠ Schema.versionColumn := by decide
  cases h with
  | given own named cell =>
    cases h' with
    | given _ named' cell' =>
      obtain rfl := Option.some.inj (named.symm.trans named')
      rw [Except.ok.inj (cell.symm.trans cell')]
    | time kept => exact absurd (own.symm.trans (isKept_of_time kept)) Bool.false_ne_true
    | count kept => exact absurd (own.symm.trans (isKept_of_count kept)) Bool.false_ne_true
  | time kept =>
    cases h' with
    | given own => exact absurd (own.symm.trans (isKept_of_time kept)) Bool.false_ne_true
    | time => rfl
    | count kept' => exact absurd (kept.symm.trans kept') hnames
  | count kept =>
    cases h' with
    | given own => exact absurd (own.symm.trans (isKept_of_count kept)) Bool.false_ne_true
    | time kept' => exact absurd (kept'.symm.trans kept) hnames
    | count => rfl

/-- A column has an assignment only if the patch names it or the library sets it. -/
theorem isKept_or_named (h : Assigns m patch c a) : isKept c = true ∨ patch.get? c.name ≠ none := by
  cases h with
  | given own named => exact .inr (by rw [named]; exact Option.some_ne_none _)
  | time kept => exact .inl (isKept_of_time kept)
  | count kept => exact .inl (isKept_of_count kept)

end Assigns

/-- The assignments of the columns that a patch names. -/
theorem mem_patchAssignments (m : Moment) {columns : List Column} {own : List Assignment}
    (h : patchAssignments patch columns = .ok own) :
    (∀ a ∈ own, ∃ c ∈ columns, Assigns m patch c a) ∧
    ∀ c ∈ columns, isKept c = false → ∀ v, patch.get? c.name = some v →
      ∃ x, c.cell v = .ok x ∧ .set c.name (.bound x) ∈ own := by
  induction columns generalizing own with
  | nil =>
    rw [← Except.ok.inj h]
    exact ⟨fun a ha => absurd ha List.not_mem_nil, fun c hc => absurd hc List.not_mem_nil⟩
  | cons c rest ih =>
    have hlater {a : Assignment} : (∃ d ∈ rest, Assigns m patch d a) →
        ∃ d ∈ c :: rest, Assigns m patch d a := fun ⟨d, hd, ha⟩ => ⟨d, List.mem_cons_of_mem _ hd, ha⟩
    rw [patchAssignments] at h
    split at h
    · rename_i hnone
      obtain ⟨hall, hcells⟩ := ih h
      refine ⟨fun a ha => hlater (hall a ha), List.forall_mem_cons.2 ⟨fun hown v hv => ?_, hcells⟩⟩
      rw [hown, if_neg Bool.false_ne_true, hv] at hnone
      cases hnone
    · rename_i v hsome
      split_ifs at hsome with hkept
      rw [Bool.not_eq_true] at hkept
      obtain ⟨x, hx, h⟩ := Result.bind_eq_ok_iff.1 h
      obtain ⟨more, hmore, h⟩ := Result.bind_eq_ok_iff.1 h
      obtain rfl := Except.ok.inj h
      obtain ⟨hall, hcells⟩ := ih hmore
      refine ⟨List.forall_mem_cons.2 ⟨⟨c, List.mem_cons_self, .given hkept hsome hx⟩,
        fun a ha => hlater (hall a ha)⟩, List.forall_mem_cons.2 ⟨fun _ w hw => ?_, fun d hd hown w hw => ?_⟩⟩
      · obtain rfl := Option.some.inj (hsome.symm.trans hw)
        exact ⟨x, hx, List.mem_cons_self⟩
      · obtain ⟨y, hy, hmem⟩ := hcells d hd hown w hw
        exact ⟨y, hy, List.mem_cons_of_mem _ hmem⟩

theorem hasColumn_iff {column : String} : s.hasColumn column ↔ ∃ c ∈ s.columns, c.name = column := by
  rw [Schema.hasColumn, Schema.column?, List.find?_isSome]
  simp only [decide_eq_true_eq]

/-- The assignments of the columns that the library sets itself. -/
theorem mem_keptAssignments_iff {now : String} {a : Assignment} :
    a ∈ keptAssignments s now ↔
      ((∃ c ∈ s.columns, c.name = Schema.updatedColumn) ∧
        a = .set Schema.updatedColumn (.bound (.text now))) ∨
      (∃ c ∈ s.columns, c.name = Schema.versionColumn) ∧ a = .increment Schema.versionColumn := by
  rw [keptAssignments, List.mem_append, Schema.tracksUpdated, Schema.tracksVersion,
    ← hasColumn_iff, ← hasColumn_iff]
  split_ifs with hupdated hversion hversion <;> simp [*]

theorem assignments_eq_ok {set : List Assignment} (h : assignments s m patch = .ok set) :
    ∃ own, patchAssignments patch s.columns = .ok own ∧ set = own ++ keptAssignments s m.now := by
  rw [assignments] at h
  split_ifs at h
  split at h
  · cases h
  · cases h
  · rename_i own _ hown
    exact ⟨own, hown, (Except.ok.inj h).symm⟩

/-- **The assignments of an update** are those that the patch makes to declared columns. -/
theorem mem_assignments_iff {set : List Assignment} (h : assignments s m patch = .ok set)
    {a : Assignment} : a ∈ set ↔ ∃ c ∈ s.columns, Assigns m patch c a := by
  obtain ⟨own, hown, rfl⟩ := assignments_eq_ok h
  obtain ⟨hall, hcells⟩ := mem_patchAssignments m hown
  rw [List.mem_append, mem_keptAssignments_iff]
  constructor
  · rintro (ha | ⟨⟨c, hc, hname⟩, rfl⟩ | ⟨⟨c, hc, hname⟩, rfl⟩)
    · exact hall a ha
    · exact ⟨c, hc, hname ▸ .time hname⟩
    · exact ⟨c, hc, hname ▸ .count hname⟩
  · rintro ⟨c, hc, ha⟩
    cases ha with
    | given hkept hv hx =>
      obtain ⟨y, hy, hmem⟩ := hcells c hc hkept _ hv
      rw [Except.ok.inj (hx.symm.trans hy)]
      exact .inl hmem
    | time hname => exact .inr (.inl ⟨⟨c, hc, hname⟩, by rw [hname]⟩)
    | count hname => exact .inr (.inr ⟨⟨c, hc, hname⟩, by rw [hname]⟩)

/-- The values of a patch that makes assignments can be stored. -/
theorem exists_cell_of_assignments {set : List Assignment} (h : assignments s m patch = .ok set)
    {c : Column} (hc : c ∈ s.columns) (hown : isKept c = false) {v : Json}
    (hv : patch.get? c.name = some v) : ∃ x, c.cell v = .ok x := by
  obtain ⟨own, hpatch, -⟩ := assignments_eq_ok h
  obtain ⟨x, hx, -⟩ := (mem_patchAssignments m hpatch).2 c hc hown v hv
  exact ⟨x, hx⟩

/-- **A patch that names no column of its own is refused.** -/
theorem assignments_of_none (h : ∀ c ∈ s.columns, isKept c = false → patch.get? c.name = none) :
    assignments s m patch = .error (.missingArgument "patch") := by
  have hnothing : ∀ columns, (∀ c ∈ columns, c ∈ s.columns) →
      patchAssignments patch columns = .ok [] := by
    intro columns hsub
    induction columns with
    | nil => rfl
    | cons c rest ih =>
      rw [List.forall_mem_cons] at hsub
      have hnone : (if isKept c then none else patch.get? c.name) = none := by
        split_ifs with hkept
        · rfl
        · rw [Bool.not_eq_true] at hkept
          exact h c hsub.1 hkept
      rw [patchAssignments, hnone]
      exact ih hsub.2
  rw [assignments, hnothing s.columns fun _ hc => hc, ite_self]

end Daybook.Store
