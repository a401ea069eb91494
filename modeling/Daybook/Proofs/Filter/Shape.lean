import Daybook.Proofs.Filter.Reading
import Daybook.Proofs.Sql.Marks

/-!
# The shape of a filter

Two filters have the same shape if they differ in values alone: their fields, their operators and
the lengths of their lists are the same, the same values say nothing, and the same ends of the
patterns are tied. Then the texts of their conditions are the same (**`Filter.SameShape.texts`**), and in
each there is a mark for each value (**`Filter.isMarked`**).

* `Predicate.SameShape`, `Filter.SameShape`.
-/

namespace Daybook

open Sql

/-! ## Shapes -/

/-- Which ends of a text a pattern ties: `^` in front and `$` behind. -/
def tied (pattern : String) : Bool × Bool :=
  match pattern.toList with
  | '^' :: rest => (true, rest.getLast? = some '$')
  | chars => (false, chars.getLast? = some '$')

namespace Predicate

mutual

/-- The predicates differ in values alone. -/
inductive SameShape : Predicate → Predicate → Prop
  | eq {v w : Json} (blank : v.isFalsy = w.isFalsy) : SameShape (.eq v) (.eq w)
  | ne {v w : Json} (blank : v.isBlankValue = w.isBlankValue) : SameShape (.ne v) (.ne w)
  | gt {v w : Json} (blank : v.isBlankValue = w.isBlankValue) : SameShape (.gt v) (.gt w)
  | ge {v w : Json} (blank : v.isBlankValue = w.isBlankValue) : SameShape (.ge v) (.ge w)
  | lt {v w : Json} (blank : v.isBlankValue = w.isBlankValue) : SameShape (.lt v) (.lt w)
  | le {v w : Json} (blank : v.isBlankValue = w.isBlankValue) : SameShape (.le v) (.le w)
  | isIn {vs ws : List Json} (length : vs.length = ws.length) : SameShape (.isIn vs) (.isIn ws)
  | notIn {vs ws : List Json} (length : vs.length = ws.length) : SameShape (.notIn vs) (.notIn ws)
  | pattern {p q : String} (blank : p.isEmpty = q.isEmpty) (ends : tied p = tied q) :
      SameShape (.pattern p) (.pattern q)
  | any {ps qs : List Predicate} (inner : SameShapes ps qs) : SameShape (.any ps) (.any qs)
  | all {ps qs : List Predicate} (inner : SameShapes ps qs) : SameShape (.all ps) (.all qs)

/-- The predicates of two lists differ in values alone. -/
inductive SameShapes : List Predicate → List Predicate → Prop
  | nil : SameShapes [] []
  | cons {p q : Predicate} {ps qs : List Predicate} (head : SameShape p q)
      (tail : SameShapes ps qs) : SameShapes (p :: ps) (q :: qs)

end

end Predicate

/-- The filters have the same fields, and differ in values alone. -/
def Filter.SameShape (f g : Filter) : Prop :=
  List.Forall₂ (fun c d => c.1 = d.1 ∧ c.2.SameShape d.2) f.clauses g.clauses

/-! ## Texts -/

theorem compare_patternText {p q : String} (h : tied p = tied q) :
    (patternText p.toList).1 = (patternText q.toList).1 := by
  have hop (s : String) : (patternText s.toList).1 =
      if tied s = (true, true) then .eq else .like := by
    rw [tied, patternText.eq_def]
    split
    · rename_i rest hs
      rw [dropLast?]
      split_ifs <;> simp_all
    · rw [dropLast?]
      split_ifs <;> simp_all
  rw [hop, hop, h]

theorem texts_bindValue (vs : List Json) :
    (vs.map bindValue).map Operand.text = List.replicate vs.length "?" := by
  rw [List.map_map, List.eq_replicate_iff]
  refine ⟨List.length_map _, fun s hs => ?_⟩
  obtain ⟨v, -, rfl⟩ := List.mem_map.1 hs
  rfl

theorem allBound_bindValue (vs : List Json) : AllBound (vs.map bindValue) := fun o ho => by
  obtain ⟨v, -, rfl⟩ := List.mem_map.1 ho
  exact ⟨_, rfl⟩

theorem isEmpty_of_length {α : Type} {xs ys : List α} (h : xs.length = ys.length) :
    xs.isEmpty = ys.isEmpty := by
  rw [Bool.eq_iff_iff, List.isEmpty_iff_length_eq_zero, List.isEmpty_iff_length_eq_zero, h]

namespace Predicate

variable {field : String}

mutual

theorem SameShape.isEmpty {p q : Predicate} : p.SameShape q → p.isEmpty = q.isEmpty
  | .eq h | .ne h | .gt h | .ge h | .lt h | .le h => h
  | .isIn h | .notIn h => isEmpty_of_length h
  | .pattern h _ => h
  | .any h | .all h => h.allEmpty

theorem SameShapes.allEmpty {ps qs : List Predicate} : SameShapes ps qs →
    Predicate.allEmpty ps = Predicate.allEmpty qs
  | .nil => rfl
  | .cons h hs => by
    rw [Predicate.allEmpty, Predicate.allEmpty, h.isEmpty, hs.allEmpty]

end

mutual

/-- **Predicates of one shape have the same text.** -/
theorem SameShape.texts {p q : Predicate} : p.SameShape q →
    (p.condition? field).map Condition.text = (q.condition? field).map Condition.text
  | .eq h | .ne h | .gt h | .ge h | .lt h | .le h => by
    rw [condition?, condition?, h]
    split_ifs <;> rfl
  | .isIn h | .notIn h => by
    rw [condition?, condition?, isEmpty_of_length h]
    split_ifs
    · rfl
    · rw [Option.map_some, Option.map_some, Condition.text, Condition.text, texts_bindValue,
        texts_bindValue, h]
  | .pattern h hends => by
    rw [condition?, condition?, h]
    split_ifs
    · rfl
    · rw [Option.map_some, Option.map_some, patternCondition, patternCondition, Condition.text,
        Condition.text, compare_patternText hends]
      rfl
  | .any h | .all h => by
    rw [condition?, condition?, h.allEmpty]
    split_ifs
    · rfl
    · rw [Option.map_some, Option.map_some, Condition.text, Condition.text, h.texts]

theorem SameShapes.texts {ps qs : List Predicate} : SameShapes ps qs →
    Condition.texts (conditions field ps) = Condition.texts (conditions field qs)
  | .nil => rfl
  | @SameShapes.cons p q ps qs h hs => by
    have hhead := h.texts
    rw [conditions, conditions]
    cases hp : p.condition? field <;> cases hq : q.condition? field <;> rw [hp, hq] at hhead
    · exact hs.texts
    · exact nomatch hhead
    · exact nomatch hhead
    · rw [Condition.texts, Condition.texts, Option.some.inj hhead, hs.texts]

end

/-! ## Marks -/

mutual

theorem isMarked_condition? (hfield : marks field = 0) : ∀ (p : Predicate) {c : Condition},
    p.condition? field = some c → c.IsMarked
  | .eq v, c, h | .ne v, c, h | .gt v, c, h | .ge v, c, h | .lt v, c, h | .le v, c, h => by
    rw [condition?, Option.ite_none_left_eq_some] at h
    rw [← Option.some.inj h.2]
    exact Condition.isMarked_compare hfield _ _
  | .isIn values, c, h | .notIn values, c, h => by
    rw [condition?, Option.ite_none_left_eq_some] at h
    rw [← Option.some.inj h.2]
    exact Condition.isMarked_member hfield _ (allBound_bindValue values)
  | .pattern text, c, h => by
    rw [condition?, Option.ite_none_left_eq_some] at h
    rw [← Option.some.inj h.2]
    exact Condition.isMarked_compare hfield _ _
  | .any inner, c, h => by
    rw [condition?, Option.ite_none_left_eq_some] at h
    rw [← Option.some.inj h.2]
    exact Condition.isMarked_any (isMarked_conditions hfield inner)
  | .all inner, c, h => by
    rw [condition?, Option.ite_none_left_eq_some] at h
    rw [← Option.some.inj h.2]
    exact Condition.isMarked_all (isMarked_conditions hfield inner)
termination_by structural p => p

theorem isMarked_conditions (hfield : marks field = 0) : ∀ (ps : List Predicate),
    ∀ c ∈ conditions field ps, c.IsMarked
  | [], c, h => absurd h List.not_mem_nil
  | p :: rest, c, h => by
    rw [conditions] at h
    cases hp : p.condition? field with
    | none =>
      rw [hp] at h
      exact isMarked_conditions hfield rest c h
    | some d =>
      rw [hp] at h
      obtain rfl | h := List.mem_cons.1 h
      · exact isMarked_condition? hfield p hp
      · exact isMarked_conditions hfield rest c h
termination_by structural ps => ps

end

end Predicate

namespace Filter

variable {f g : Filter}

/-- **The conditions of filters of one shape have the same texts.** -/
theorem SameShape.texts (h : f.SameShape g) {cs ds : List Condition} (hf : f.compile = .ok cs)
    (hg : g.compile = .ok ds) : Condition.texts cs = Condition.texts ds := by
  obtain rfl := Except.ok.inj (hf.symm.trans (compile_eq (isIdentifier_of_compile hf)))
  obtain rfl := Except.ok.inj (hg.symm.trans (compile_eq (isIdentifier_of_compile hg)))
  clear hf hg
  obtain ⟨fs⟩ := f
  obtain ⟨gs⟩ := g
  have hclauses : List.Forall₂ _ fs gs := h
  clear h
  rw [Clause.texts_eq_map, Clause.texts_eq_map]
  dsimp only
  induction hclauses with
  | nil => rfl
  | @cons c d _ _ hclause _ ih =>
    rw [List.flatMap_cons, List.flatMap_cons, List.map_append, List.map_append, ih,
      ← Option.toList_map, ← Option.toList_map, hclause.1, hclause.2.texts]

/-- **The conditions of a filter have a mark for each value.** -/
theorem isMarked {cs : List Condition} (h : f.compile = .ok cs) : ∀ c ∈ cs, c.IsMarked := by
  intro c hc
  have hnames := isIdentifier_of_compile h
  obtain rfl := Except.ok.inj (h.symm.trans (compile_eq hnames))
  obtain ⟨clause, hclause, hc⟩ := List.mem_flatMap.1 hc
  exact Predicate.isMarked_condition? (marks_of_isIdentifier (hnames clause hclause)) _
    (Option.mem_toList.1 hc)

end Filter
end Daybook
