import Daybook.Proofs.Schema.Rules
import Daybook.Sql.Statement
import Mathlib.Algebra.GroupWithZero.Nat
import Mathlib.Algebra.Order.BigOperators.Group.List

/-!
# Marks in texts

A bound value stands in the text of a statement as a mark, `?`. Where the names and the literals of
a statement have none, its text has as many marks as the statement has bound values
(**`Statement.isMarked`** and its parts).

* `marks`: how many marks a text has;
* `Condition.IsMarked`, `Statement.IsMarked`: there is a mark for each bound value.
-/

namespace Daybook.Sql

/-- How many marks a text has. -/
def marks (s : String) : Nat := s.toList.count '?'

@[simp] theorem marks_append (s t : String) : marks (s ++ t) = marks s + marks t := by
  rw [marks, String.toList_append, List.count_append]
  rfl

theorem marks_intercalate {sep : String} (hsep : marks sep = 0) (texts : List String) :
    marks (sep.intercalate texts) = (texts.map marks).sum := by
  have hlist (xs : List (List Char)) :
      (sep.toList.intercalate xs).count '?' = (xs.map (·.count '?')).sum := by
    induction xs with
    | nil => rfl
    | cons x rest ih =>
      cases rest with
      | nil => simp
      | cons y rest =>
        rw [List.intercalate_cons_cons, List.count_append, List.count_append, ih,
          show sep.toList.count '?' = 0 from hsep]
        simp
  rw [marks, String.toList_intercalate, hlist, List.map_map]
  rfl

theorem marks_commaList (texts : List String) : marks (commaList texts) = (texts.map marks).sum :=
  marks_intercalate (by decide) texts

/-- The words of statements have no mark. -/
theorem marks_words :
    marks "" = 0 ∧ marks " " = 0 ∧ marks "(" = 0 ∧ marks ")" = 0 ∧ marks "*" = 0 ∧ marks " (" = 0 ∧
    marks ") VALUES " = 0 ∧ marks " INTO " = 0 ∧ marks "SELECT " = 0 ∧ marks " FROM " = 0 ∧
    marks "COUNT(*) AS " = 0 ∧ marks "count" = 0 ∧ marks "WHERE " = 0 ∧ marks " ORDER BY " = 0 ∧
    marks " LIMIT 1" = 0 ∧ marks " LIMIT " = 0 ∧ marks " OFFSET " = 0 ∧
    marks " LIMIT -1 OFFSET " = 0 ∧ marks " WHERE rowid IN (SELECT rowid FROM " = 0 ∧
    marks " LIMIT 1)" = 0 ∧ marks "UPDATE " = 0 ∧ marks " SET " = 0 ∧ marks " = " = 0 ∧
    marks " = COALESCE(" = 0 ∧ marks ", 0) + 1" = 0 ∧ marks "DELETE FROM " = 0 := by
  decide +kernel

/-- A number has no mark. -/
@[simp] theorem marks_toString (n : Nat) : marks (toString n) = 0 := by
  refine List.count_eq_zero_of_not_mem fun h => ?_
  have hmem : '?' ∈ Nat.toDigits 10 n := by simpa using h
  exact absurd (Nat.isDigit_of_mem_toDigits (by decide) (by decide) hmem) (by decide)

/-- An identifier has no mark. -/
theorem marks_of_isIdentifier {name : String} (h : isIdentifier name = true) : marks name = 0 :=
  List.count_eq_zero_of_not_mem fun hmem =>
    absurd ((continues_of_isIdentifier h).2 _ hmem) (by decide)

/-- Texts that have a mark for each of their values, all together. -/
theorem sum_marks {α : Type} {text : α → String} {values : α → List Cell} {xs : List α}
    (h : ∀ x ∈ xs, marks (text x) = (values x).length) :
    ((xs.map text).map marks).sum = (xs.flatMap values).length := by
  induction xs with
  | nil => rfl
  | cons x rest ih =>
    rw [List.map_cons, List.map_cons, List.sum_cons, List.flatMap_cons, List.length_append,
      h x List.mem_cons_self, ih fun y hy => h y (List.mem_cons_of_mem _ hy)]

/-- Texts without marks, all together. -/
theorem sum_marks_eq_zero {α : Type} {text : α → String} {xs : List α}
    (h : ∀ x ∈ xs, marks (text x) = 0) : ((xs.map text).map marks).sum = 0 := by
  have hsum := @sum_marks _ text (fun _ => []) xs h
  rwa [List.flatMap_eq_nil_iff.2 fun _ _ => rfl] at hsum

/-! ## Conditions -/

/-- The values of the operands are bound. -/
def AllBound (operands : List Operand) : Prop := ∀ o ∈ operands, ∃ v, o = .bound v

theorem allBound_map (values : List Cell) : AllBound (values.map .bound) := fun o ho => by
  obtain ⟨v, -, rfl⟩ := List.mem_map.1 ho
  exact ⟨v, rfl⟩

theorem marks_bound (v : Cell) : marks (Operand.bound v).text = 1 := by
  rw [Operand.text]
  decide

theorem marks_operands {operands : List Operand} (h : AllBound operands) :
    ((operands.map Operand.text).map marks).sum = (operands.flatMap Operand.params).length :=
  sum_marks fun o ho => by
    obtain ⟨v, rfl⟩ := h o ho
    rw [marks_bound]
    rfl

namespace Condition

/-- The text of the condition has a mark for each bound value. -/
def IsMarked (c : Condition) : Prop := marks c.text = c.params.length

variable {field : String}

theorem isMarked_compare (hfield : marks field = 0) (op : Comparison) (v : Cell) :
    IsMarked (.compare field op (.bound v)) := by
  have hop : marks op.text = 0 := by cases op <;> decide
  simp only [IsMarked, text, params, marks_append, marks_words, marks_bound, hfield, hop]
  rfl

theorem isMarked_member (hfield : marks field = 0) (negated : Bool) {operands : List Operand}
    (h : AllBound operands) : IsMarked (.member field negated operands) := by
  have hword : marks (if negated then " NOT IN (" else " IN (") = 0 := by cases negated <;> decide
  simp only [IsMarked, text, params, marks_append, marks_words, marks_commaList, hfield, hword,
    marks_operands h, Nat.zero_add, Nat.add_zero]

theorem marks_texts {cs : List Condition} (h : ∀ c ∈ cs, c.IsMarked) :
    ((texts cs).map marks).sum = (paramsList cs).length := by
  induction cs with
  | nil => rfl
  | cons c rest ih =>
    rw [texts, paramsList, List.map_cons, List.sum_cons, List.length_append,
      show marks c.text = _ from h c List.mem_cons_self,
      ih fun d hd => h d (List.mem_cons_of_mem _ hd)]

variable {cs : List Condition}

theorem marks_conjunction (h : ∀ c ∈ cs, c.IsMarked) :
    marks (conjunction cs) = (paramsList cs).length := by
  rw [conjunction, marks_intercalate (by decide), marks_texts h]

theorem marks_whereClause (h : ∀ c ∈ cs, c.IsMarked) :
    marks (whereClause cs) = (paramsList cs).length := by
  rw [whereClause]
  split_ifs with hempty
  · rw [List.isEmpty_iff.1 hempty]
    rfl
  · simp only [marks_append, marks_words, marks_conjunction h, Nat.zero_add]

/-- A clause with the blank before it; nothing for no condition. -/
theorem marks_clause (h : ∀ c ∈ cs, c.IsMarked) :
    marks (if cs.isEmpty then "" else " " ++ whereClause cs) = (paramsList cs).length := by
  split_ifs with hempty
  · rw [List.isEmpty_iff.1 hempty]
    rfl
  · simp only [marks_append, marks_words, marks_whereClause h, Nat.zero_add]

theorem isMarked_all (h : ∀ c ∈ cs, c.IsMarked) : IsMarked (.all cs) := by
  have hword : marks " AND " = 0 := by decide
  simp only [IsMarked, text, params, marks_append, marks_words, marks_intercalate hword,
    marks_texts h, Nat.zero_add, Nat.add_zero]

theorem isMarked_any (h : ∀ c ∈ cs, c.IsMarked) : IsMarked (.any cs) := by
  have hword : marks " OR " = 0 := by decide
  simp only [IsMarked, text, params, marks_append, marks_words, marks_intercalate hword,
    marks_texts h, Nat.zero_add, Nat.add_zero]

end Condition

/-! ## Statements -/

theorem marks_orderText {order : List (String × Direction)} (h : ∀ p ∈ order, marks p.1 = 0) :
    marks (orderText order) = 0 := by
  rw [orderText]
  split_ifs
  · rfl
  · simp only [marks_append, marks_words, marks_commaList, Nat.zero_add]
    refine sum_marks_eq_zero fun p hp => ?_
    have hdirection : marks p.2.text = 0 := by cases p.2 <;> decide
    simp only [marks_append, marks_words, h p hp, hdirection, Nat.add_zero]

theorem marks_limitText (limit offset : Option Nat) : marks (limitText limit offset) = 0 := by
  cases limit with
  | none =>
    cases offset with
    | none => rfl
    | some offset =>
      show marks (" LIMIT -1 OFFSET " ++ toString offset) = 0
      simp only [marks_append, marks_words, marks_toString, Nat.add_zero]
  | some limit =>
    cases offset with
    | none =>
      show marks (" LIMIT " ++ toString limit) = 0
      simp only [marks_append, marks_words, marks_toString, Nat.add_zero]
    | some offset =>
      show marks (" LIMIT " ++ toString limit ++ " OFFSET " ++ toString offset) = 0
      simp only [marks_append, marks_words, marks_toString, Nat.add_zero]

namespace Statement

/-- The text of the statement has a mark for each bound value. -/
def IsMarked (s : Statement) : Prop := marks s.text = s.params.length

variable {cs : List Condition} {table : String}

/-- A query of all columns, or of the count. -/
theorem isMarked_select {output : Output} (houtput : output = .all ∨ output = .count "count")
    (htable : marks table = 0) (h : ∀ c ∈ cs, c.IsMarked) {tail : Tail}
    (htail : ∀ order limit offset, tail = .page order limit offset → ∀ p ∈ order, marks p.1 = 0) :
    IsMarked (.select ⟨output, some table, cs, tail⟩) := by
  have hhead : marks output.text = 0 ∧ output.params = [] := by
    obtain rfl | rfl := houtput
    · exact ⟨marks_words.2.2.2.2.1, rfl⟩
    · refine ⟨?_, rfl⟩
      simp only [Output.text, marks_append, marks_words, Nat.add_zero]
  show marks (Query.text _) = (output.params ++ Condition.paramsList cs).length
  rw [hhead.2, List.nil_append]
  cases tail with
  | first =>
    show marks ("SELECT " ++ output.text ++ (" FROM " ++ table) ++ " " ++ Condition.whereClause cs ++
      " LIMIT 1") = _
    simp only [marks_append, marks_words, hhead.1, htable, Condition.marks_whereClause h,
      Nat.zero_add, Nat.add_zero]
  | page order limit offset =>
    show marks ("SELECT " ++ output.text ++ (" FROM " ++ table) ++
      (if cs.isEmpty then "" else " " ++ Condition.whereClause cs) ++ orderText order ++
        limitText limit offset) = _
    simp only [marks_append, marks_words, hhead.1, htable, marks_limitText,
      marks_orderText (htail order limit offset rfl), Nat.zero_add, Nat.add_zero]
    exact Condition.marks_clause h

/-- An insertion of bound values. -/
theorem isMarked_insert (replace : Bool) (htable : marks table = 0) {columns : List String}
    (hcolumns : ∀ name ∈ columns, marks name = 0) {rows : List (List Operand)}
    (hrows : ∀ row ∈ rows, AllBound row) : IsMarked (.insert replace table columns rows) := by
  have hhead : marks (if replace then "INSERT OR REPLACE" else "INSERT") = 0 := by
    cases replace <;> decide
  have hnames : (columns.map marks).sum = 0 := by
    have hsum := @sum_marks_eq_zero _ id columns hcolumns
    rwa [List.map_id] at hsum
  have hvalues : ((rows.map fun row => "(" ++ commaList (row.map Operand.text) ++ ")").map marks).sum
      = (rows.flatMap fun row => row.flatMap Operand.params).length := sum_marks fun row hrow => by
    simp only [marks_append, marks_words, marks_commaList, marks_operands (hrows row hrow),
      Nat.zero_add, Nat.add_zero]
  show marks ((if replace then "INSERT OR REPLACE" else "INSERT") ++ " INTO " ++ table ++ " (" ++
    commaList columns ++ ") VALUES " ++
      commaList (rows.map fun row => "(" ++ commaList (row.map Operand.text) ++ ")")) = _
  simp only [marks_append, marks_words, marks_commaList, hhead, htable, hvalues,
    hnames, Nat.zero_add]
  rfl

theorem marks_target (htable : marks table = 0) (target : Target)
    (h : ∀ c ∈ target.conditions, c.IsMarked) :
    marks (target.text table) = (Condition.paramsList target.conditions).length := by
  cases target with
  | every conditions => exact Condition.marks_clause h
  | first conditions =>
    have hclause : marks (Condition.whereClause conditions) = _ := Condition.marks_whereClause h
    show marks (" WHERE rowid IN (SELECT rowid FROM " ++ table ++ " " ++
      Condition.whereClause conditions ++ " LIMIT 1)") = _
    simp only [marks_append, marks_words, htable, hclause, Nat.zero_add, Nat.add_zero]
    rfl

/-- The text of the assignments has a mark for each bound value. -/
def AssignmentsMarked (set : List Assignment) : Prop :=
  ∀ a ∈ set, marks a.text = a.params.length

theorem isMarked_set {column : String} (hcolumn : marks column = 0) (v : Cell) :
    marks (Assignment.set column (.bound v)).text =
      (Assignment.set column (.bound v)).params.length := by
  simp only [Assignment.text, marks_append, marks_words, hcolumn, marks_bound]
  rfl

theorem isMarked_update (htable : marks table = 0) {set : List Assignment}
    (hset : AssignmentsMarked set) {target : Target} (h : ∀ c ∈ target.conditions, c.IsMarked) :
    IsMarked (.update table set target) := by
  show marks ("UPDATE " ++ table ++ " SET " ++ commaList (set.map Assignment.text) ++
    target.text table) = (set.flatMap Assignment.params ++ Condition.paramsList _).length
  simp only [List.length_append, marks_append, marks_words, marks_commaList, htable, sum_marks hset,
    marks_target htable target h, Nat.zero_add]

theorem isMarked_delete (htable : marks table = 0) {target : Target}
    (h : ∀ c ∈ target.conditions, c.IsMarked) : IsMarked (.delete table target) := by
  show marks ("DELETE FROM " ++ table ++ target.text table) = (Condition.paramsList _).length
  simp only [marks_append, marks_words, marks_target htable target h, htable, Nat.zero_add]

end Statement

end Daybook.Sql
