import Daybook.Sql.Word
import Mathlib.Tactic.SplitIfs

/-!
# Words that may stand as names

A name may stand alone in a statement unless its word is reserved. Where an expression is expected,
it must not begin one of its own either (`clash?_eq_none_iff`, `opening_eq_operand_iff`). So the
text of a column is in order just if its name may stand where it does, and its texts are not cut
short (**`ColumnDef.clash?_eq_none_iff`**).

* `callWords`: the words that are names, but begin an expression.
-/

namespace Daybook.Sql

/-! ## Words -/

/-- A letter in capitals stays as it is. -/
theorem toUpper_toUpper (c : Char) : c.toUpper.toUpper = c.toUpper := by
  unfold Char.toUpper
  split
  · rename_i h
    -- a capital letter is not among the small ones
    refine dif_neg fun h' => ?_
    have hfirst : 'a'.val.toNat = 97 := rfl
    have hlast : 'z'.val.toNat = 122 := rfl
    have hoffset : ('A'.val - 'a'.val).toNat = 4294967264 := rfl
    have hge := h.1
    have hle := h.2
    have hagain := h'.1
    simp only [UInt32.le_iff_toNat_le, UInt32.toNat_add, hfirst, hlast, hoffset] at hge hle hagain
    omega
  · rfl

theorem upper_upper (s : String) : upper (upper s) = upper s := by
  rw [upper, upper, String.toList_ofList, List.map_map]
  exact congrArg String.ofList (List.map_congr_left fun c _ => toUpper_toUpper c)

theorem isReserved_upper (word : String) : isReserved (upper word) = isReserved word := by
  rw [isReserved, upper_upper, ← isReserved]

/-- A reserved word may stand nowhere that a name may stand. -/
theorem upper_ne_of_not_isReserved {word w : String} (h : isReserved word = false)
    (hw : isReserved w) : upper word ≠ w := by
  rintro rfl
  rw [isReserved_upper, h] at hw
  exact Bool.false_ne_true hw

theorem nameClash?_eq_none_iff {word : String} :
    nameClash? word = none ↔ isReserved word = false := by
  rw [nameClash?]
  cases isReserved word with
  | true => exact iff_of_false (fun h => nomatch h) fun h => nomatch h
  | false => exact iff_of_true rfl rfl

/-! ## Words at the start of expressions -/

/-- The words that are not reserved, but call for a parenthesis at the start of an expression. -/
def callWords : List String := ["CAST", "RAISE"]

/-- A word that is not reserved stands for a value, unless it calls for a parenthesis. -/
theorem opening_eq_operand_iff {word : String} (h : isReserved word = false) :
    opening false word = .operand ↔ upper word ∉ callWords := by
  have hnull : upper word ≠ "NULL" := upper_ne_of_not_isReserved h (by decide)
  have hnot : upper word ≠ "NOT" := upper_ne_of_not_isReserved h (by decide)
  have hcase : upper word ≠ "CASE" := upper_ne_of_not_isReserved h (by decide)
  have hexists : upper word ≠ "EXISTS" := upper_ne_of_not_isReserved h (by decide)
  rw [← isReserved_upper] at h
  by_cases hcast : upper word = "CAST" <;> by_cases hraise : upper word = "RAISE" <;>
    simp [opening, callWords, hnull, hnot, hcase, hexists, h, hcast, hraise]

/-- What stands before other words is in order just if it stands for a value. -/
theorem clash?_eq_none_iff {afterParenthesis : Bool} {word : String} {next : List String} :
    clash? afterParenthesis word next = none ↔ opening afterParenthesis word = .operand := by
  unfold clash?
  split <;> simp_all

/-! ## Columns -/

namespace ColumnDef

theorem literalClash?_eq_none_iff {s : String} :
    literalClash? s = none ↔ '\x00' ∉ s.toList := by
  rw [literalClash?, ite_eq_right_iff]
  simp

/-- The words with which a constraint of a table begins are reserved. -/
theorem isReserved_of_startsConstraint {word : String}
    (h : ["PRIMARY", "UNIQUE", "CHECK", "FOREIGN"].contains (upper word)) : isReserved word := by
  have hreserved : ∀ w ∈ ["PRIMARY", "UNIQUE", "CHECK", "FOREIGN"], isReserved w := by decide
  rw [← isReserved_upper]
  exact hreserved _ (List.contains_iff_mem.1 h)

/-- **What it takes for the text of a column to be in order.** -/
theorem clash?_eq_none_iff {c : ColumnDef} {afterFirst : Bool} :
    c.clash? afterFirst = none ↔ isReserved c.name = false ∧
      (c.allowed ≠ [] → upper c.name ∉ callWords) ∧ ∀ s ∈ c.literals, '\x00' ∉ s.toList := by
  rw [clash?]
  split_ifs with hstarts hallowed
  · have hreserved := isReserved_of_startsConstraint (Bool.and_eq_true_iff.1 hstarts).2
    refine iff_of_false (fun h => nomatch h) fun h => ?_
    rw [hreserved] at h
    exact nomatch h.1
  · rw [List.isEmpty_iff] at hallowed
    rw [Option.or_eq_none_iff, nameClash?_eq_none_iff, Option.none_or, List.findSome?_eq_none_iff]
    simp only [literalClash?_eq_none_iff, hallowed, ne_eq, not_true_eq_false, false_imp_iff,
      true_and]
  · rw [List.isEmpty_iff] at hallowed
    rw [Option.or_eq_none_iff, nameClash?_eq_none_iff, Option.or_eq_none_iff,
      Sql.clash?_eq_none_iff, List.findSome?_eq_none_iff]
    simp only [literalClash?_eq_none_iff, ne_eq, hallowed, not_false_eq_true, true_imp_iff]
    exact and_congr_right fun hname => and_congr_left fun _ => opening_eq_operand_iff hname

end ColumnDef
end Daybook.Sql
