import Daybook.Proofs.Engine.Program
import Daybook.Proofs.Filter.Reading
import Daybook.Store.Change

/-!
# Filters of changes

Records are changed or removed under a filter only where the filter asks for something: a filter
that does not is refused before anything is asked of the engine, and the statement of any other has
a clause with the conditions of the filter (**`calls_of_filter`**).

* `Filtered`: the changes under a filter;
* `Guards`: a call that changes rows only under the conditions of a filter;
* `Clause.not_empty_group`: a text that can be read has no group and no list without parts.
-/

namespace Daybook

open Sql

/-! ## Clauses without empty groups -/

namespace Clause

/-- No parenthesis is closed right after it is opened. -/
theorem Scan.step_opening_closing (s : Scan) :
    (s.step "(").bind (fun s' => s'.step ")") = none := by
  obtain ⟨place, group, outer, values⟩ := s
  cases place with
  | part => rfl
  | operator field => rfl
  | mark field op => cases values <;> rfl
  | negated field => rfl
  | list field negated => cases values <;> rfl
  | item field negated before => cases values <;> rfl
  | afterItem field negated before => rfl
  | joint => rfl

theorem Scan.run_empty_group (s : Scan) (ws ws' : List String) :
    s.run (ws ++ "(" :: ")" :: ws') = none := by
  rw [Scan.run_append]
  cases s.run ws with
  | none => rfl
  | some s' =>
    show s'.run (["(", ")"] ++ ws') = none
    have hstep : s'.run ["(", ")"] = none := by
      have h := s'.step_opening_closing
      cases ho : s'.step "(" <;> simp_all
    rw [Scan.run_append, hstep]
    rfl

/-- A text whose words can be read has no group and no list without parts. -/
theorem not_empty_group {s s' : Scan} {text : List Char} (h : s.run (words text) = some s') :
    ¬ ['(', ')'] <:+: text := by
  rintro ⟨front, back, rfl⟩
  have hwords : words (front ++ ['(', ')'] ++ back) = words front ++ "(" :: ")" :: words back := by
    rw [List.append_assoc, List.cons_append, words_append_cons (by decide)]
    simp
  rw [hwords, Scan.run_empty_group] at h
  exact nomatch h

end Clause

/-! ## Conditions of filters -/

namespace Filter

variable {f : Filter} {conditions : List Condition}

/-- The conditions of a filter are those of its predicates that say something. -/
theorem mem_compile_iff (h : f.compile = .ok conditions) {condition : Condition} :
    condition ∈ conditions ↔ ∃ c ∈ f.clauses, c.2.condition? c.1 = some condition := by
  obtain rfl := Except.ok.inj (h.symm.trans (compile_eq (isIdentifier_of_compile h)))
  simp

theorem isEmpty_iff (h : f.compile = .ok conditions) : f.isEmpty = true ↔ conditions = [] := by
  rw [isEmpty, List.all_eq_true, List.eq_nil_iff_forall_not_mem]
  constructor
  · intro hempty condition hcondition
    obtain ⟨c, hc, hsome⟩ := (mem_compile_iff h).1 hcondition
    exact nomatch hsome.symm.trans (Predicate.condition?_eq_none_iff.2 (hempty c hc))
  · intro hnone c hc
    have hnothing : c.2.condition? c.1 = none := Option.eq_none_iff_forall_ne_some.2
      fun condition hsome => hnone condition ((mem_compile_iff h).2 ⟨c, hc, hsome⟩)
    exact Predicate.condition?_eq_none_iff.1 hnothing

theorem readsAs_of_compile (h : f.compile = .ok conditions) :
    ∃ parts, List.Forall₂ Clause.ReadsAs conditions parts := by
  have hf := isIdentifier_of_compile h
  obtain rfl := Except.ok.inj (h.symm.trans (compile_eq hf))
  exact ⟨_, readsAs_compile hf⟩

/-- The clause is empty exactly for a filter that asks for nothing. -/
theorem isEmpty_iff_conjunction (h : f.compile = .ok conditions) :
    f.isEmpty = true ↔ Condition.conjunction conditions = "" := by
  obtain ⟨parts, hparts⟩ := readsAs_of_compile h
  rw [isEmpty_iff h]
  constructor
  · rintro rfl
    rfl
  · intro hclause
    by_contra hne
    exact Clause.conjunction_ne_empty hparts hne hclause

/-- The clause has no group and no list without parts. -/
theorem not_empty_group (h : f.compile = .ok conditions) :
    ¬ ['(', ')'] <:+: (Condition.conjunction conditions).toList := by
  obtain ⟨parts, hparts⟩ := readsAs_of_compile h
  by_cases hne : conditions = []
  · subst hne
    decide
  · have hrun := Clause.run_and hparts hne {} [] []
    rw [← Clause.words_conjunction] at hrun
    exact Clause.not_empty_group hrun

end Filter

namespace Store

/-! ## Changes under a filter -/

/-- A change of the records that a filter asks for. -/
inductive Filtered where
  | updateOne (m : Moment) (patch : Record)
  | updateMany (m : Moment) (patch : Record)
  | deleteOne
  | deleteMany

/-- The program of a change under a filter. -/
def Filtered.program (s : Schema) (f : Filter) : Filtered → Program Nat
  | .updateOne m patch => Store.updateOne s m f patch
  | .updateMany m patch => Store.updateMany s m f patch
  | .deleteOne => Store.deleteOne s f
  | .deleteMany => Store.deleteMany s f

/-- The statement changes or removes rows of a target under a filter. The target has the conditions
of the filter, of which one is that of a predicate that says something, and their clause stands in
the text and is not empty. -/
structure IsGuarded (s : Schema) (f : Filter) (target : Target) (st : Statement) : Prop where
  aims : (∃ set, st = .update s.table set target) ∨ st = .delete s.table target
  compile : f.compile = .ok target.conditions
  asks : ∃ c ∈ f.clauses, c.2.isEmpty = false ∧ ∃ condition ∈ target.conditions,
    c.2.condition? c.1 = some condition
  clause_ne : Condition.conjunction target.conditions ≠ ""
  text : ∃ front back,
    st.text = front ++ "WHERE " ++ Condition.conjunction target.conditions ++ back

/-- The call runs a statement under a filter. -/
def Guards (s : Schema) (f : Filter) (c : Call) : Prop :=
  ∃ target st, c = .change (.statement st) false ∧ IsGuarded s f target st

theorem requiredConditions_of_isEmpty {f : Filter} (h : f.isEmpty = true) :
    requiredConditions f = .error (.missingArgument "filter") := if_pos h

theorem requiredConditions_eq_ok {f : Filter} {conditions : List Condition} :
    requiredConditions f = .ok conditions ↔ f.isEmpty = false ∧ f.compile = .ok conditions := by
  rw [requiredConditions]
  split_ifs with h <;> simp [h]

theorem whereClause_eq {conditions : List Condition} (h : conditions ≠ []) :
    Condition.whereClause conditions = "WHERE " ++ Condition.conjunction conditions :=
  if_neg (by simpa using h)

/-- The clause of a target stands in its text. -/
theorem text_target {target : Target} (h : target.conditions ≠ []) (table : String) :
    ∃ front back, target.text table =
      front ++ "WHERE " ++ Condition.conjunction target.conditions ++ back := by
  cases target with
  | every conditions =>
    have hne : conditions ≠ [] := h
    have htext : (Target.every conditions).text table = " " ++ Condition.whereClause conditions :=
      if_neg (by simpa using hne)
    refine ⟨" ", "", ?_⟩
    rw [htext, whereClause_eq hne, String.append_empty, String.append_assoc, Target.conditions]
  | first conditions =>
    have htext : (Target.first conditions).text table =
        " WHERE rowid IN (SELECT rowid FROM " ++ table ++ " " ++ Condition.whereClause conditions ++
          " LIMIT 1)" := rfl
    refine ⟨" WHERE rowid IN (SELECT rowid FROM " ++ table ++ " ", " LIMIT 1)", ?_⟩
    have hne : conditions ≠ [] := h
    rw [htext, whereClause_eq hne]
    simp only [String.append_assoc, Target.conditions]

theorem isGuarded {s : Schema} {f : Filter} {target : Target} {st : Statement}
    (aims : (∃ set, st = .update s.table set target) ∨ st = .delete s.table target)
    (h : requiredConditions f = .ok target.conditions) : IsGuarded s f target st := by
  obtain ⟨hempty, compile⟩ := requiredConditions_eq_ok.1 h
  have hne : target.conditions ≠ [] := fun hnil => by
    rw [(Filter.isEmpty_iff compile).2 hnil] at hempty
    exact nomatch hempty
  obtain ⟨condition, hcondition⟩ := List.exists_mem_of_ne_nil _ hne
  obtain ⟨c, hc, hsome⟩ := (Filter.mem_compile_iff compile).1 hcondition
  obtain ⟨front, back, htext⟩ := text_target hne s.table
  refine ⟨aims, compile, ⟨c, hc, ?_, condition, hcondition, hsome⟩, ?_, ?_⟩
  · by_contra hsaid
    rw [Bool.not_eq_false] at hsaid
    exact nomatch hsome.symm.trans (Predicate.condition?_eq_none_iff.2 hsaid)
  · intro hclause
    rw [(Filter.isEmpty_iff_conjunction compile).2 hclause] at hempty
    exact nomatch hempty
  · obtain ⟨set, rfl⟩ | rfl := aims
    · refine ⟨"UPDATE " ++ s.table ++ " SET " ++ commaList (set.map Assignment.text) ++ front,
        back, ?_⟩
      show "UPDATE " ++ s.table ++ " SET " ++ commaList (set.map Assignment.text) ++
        target.text s.table = _
      simp only [htext, String.append_assoc]
    · refine ⟨"DELETE FROM " ++ s.table ++ front, back, ?_⟩
      show "DELETE FROM " ++ s.table ++ target.text s.table = _
      simp only [htext, String.append_assoc]

namespace Filtered

variable {s : Schema} {f : Filter}

theorem program_of_isEmpty (h : f.isEmpty = true) (change : Filtered) :
    change.program s f = .fail (.missingArgument "filter") := by
  have hrefused := requiredConditions_of_isEmpty h
  cases change with
  | updateOne m patch => rw [program, Store.updateOne, hrefused]; rfl
  | updateMany m patch => rw [program, Store.updateMany, hrefused]; rfl
  | deleteOne => rw [program, Store.deleteOne, hrefused]; rfl
  | deleteMany => rw [program, Store.deleteMany, hrefused]; rfl

/-- A change under a filter calls the engine only with a statement under that filter. -/
theorem calls_program (change : Filtered) : (change.program s f).Calls (Guards s f) := by
  cases change with
  | updateOne m patch =>
    refine Program.calls_ofExcept_bind fun conditions h => ?_
    refine Program.calls_ofExcept_bind fun set _ => ?_
    exact Program.calls_ask ⟨.first conditions, _, rfl, isGuarded (.inl ⟨set, rfl⟩) h⟩
  | updateMany m patch =>
    refine Program.calls_ofExcept_bind fun conditions h => ?_
    refine Program.calls_ofExcept_bind fun set _ => ?_
    exact Program.calls_ask ⟨.every conditions, _, rfl, isGuarded (.inl ⟨set, rfl⟩) h⟩
  | deleteOne =>
    refine Program.calls_ofExcept_bind fun conditions h => ?_
    exact Program.calls_ask ⟨.first conditions, _, rfl, isGuarded (.inr rfl) h⟩
  | deleteMany =>
    refine Program.calls_ofExcept_bind fun conditions h => ?_
    exact Program.calls_ask ⟨.every conditions, _, rfl, isGuarded (.inr rfl) h⟩

end Filtered

/-- **No change under a filter runs without a condition.** Where the fields of a filter are names,
it asks for nothing exactly if its clause is empty, and its clause has no group and no list without
parts. Whatever the fields are, a change under the filter calls the engine only with a statement
under the conditions of the filter, and if the filter asks for nothing, with none at all. -/
theorem calls_of_filter (f : Filter) :
    ((∀ c ∈ f.clauses, isIdentifier c.1 = true) →
      ∃ conditions, f.compile = .ok conditions ∧
        (f.isEmpty = true ↔ Condition.conjunction conditions = "") ∧
        ¬ ['(', ')'] <:+: (Condition.conjunction conditions).toList) ∧
    ∀ (s : Schema) (change : Filtered), (change.program s f).Calls (Guards s f) ∧
      (f.isEmpty = true → change.program s f = .fail (.missingArgument "filter")) := by
  constructor
  · intro hf
    have hcompile := Filter.compile_eq hf
    exact ⟨_, hcompile, Filter.isEmpty_iff_conjunction hcompile, Filter.not_empty_group hcompile⟩
  · intro s change
    exact ⟨change.calls_program, fun h => change.program_of_isEmpty h⟩

/-- Parts that say nothing, in groups. -/
def blankFilter : Filter := { clauses := [("price", .all [.eq (.int 0), .any []])] }

/-- Parts that say nothing, beside one that does. -/
def statusFilter : Filter :=
  { clauses := blankFilter.clauses ++
      [("status", .any [.pattern "", .all [.isIn []], .isIn [.str "Active", .null]])] }

theorem calls_of_statusFilter :
    (∀ c ∈ statusFilter.clauses, isIdentifier c.1 = true) ∧
      (∃ conditions, statusFilter.compile = .ok conditions ∧
        (statusFilter.isEmpty = true ↔ Condition.conjunction conditions = "") ∧
        ¬ ['(', ')'] <:+: (Condition.conjunction conditions).toList) ∧
      blankFilter.isEmpty = true ∧
      Filtered.deleteMany.program { entity := "Note", table := "note", columns := [] } blankFilter =
        .fail (.missingArgument "filter") :=
  ⟨by decide, (calls_of_filter statusFilter).1 (by decide), by decide,
    ((calls_of_filter blankFilter).2 _ .deleteMany).2 (by decide)⟩

end Store
end Daybook
