import Daybook.Sql.Like
import Mathlib.Data.List.Infix

/-!
# What patterns match

A pattern is read from left to right, and `%` may take up any beginning of what is left of the text.
Words that have neither `%` nor `_` in them match the texts that are the same in small letters. So
the patterns that have `%` at one end, or at both, match the texts that end, begin or go on
somewhere as the words do (**`like_any_append`**, **`like_append_any`**, **`like_any_append_any`**).

* `lower`: a text in small letters;
* `IsPlain`: words without `%` and `_`;
* `like_append_iff`: plain words in front of a pattern.
-/

namespace Daybook.Sql

/-- The text in small letters, as far as they are letters from `a` to `z`. -/
def lower (s : List Char) : List Char := s.map Char.toLower

@[simp] theorem lower_nil : lower [] = [] := rfl

@[simp] theorem lower_cons (c : Char) (s : List Char) : lower (c :: s) = c.toLower :: lower s := rfl

@[simp] theorem length_lower (s : List Char) : (lower s).length = s.length := List.length_map _

/-- The words stand for themselves in a pattern. -/
def IsPlain (words : List Char) : Prop := ∀ c ∈ words, c ≠ '%' ∧ c ≠ '_'

instance (words : List Char) : Decidable (IsPlain words) :=
  List.decidableBAll (fun c => c ≠ '%' ∧ c ≠ '_') words

/-! ## One step -/

theorem sameLetter_iff (c d : Char) : sameLetter c d ↔ c.toLower = d.toLower := by
  unfold sameLetter
  by_cases h : c = d <;> simp [h]

theorem mem_suffixes_iff {α : Type} {t s : List α} : t ∈ suffixes s ↔ t <:+ s := by
  induction s with
  | nil => simp [suffixes]
  | cons c rest ih => simp [suffixes, ih, List.suffix_cons_iff]

/-- `%` takes up a beginning of the text. -/
theorem like_any_iff {pattern s : List Char} :
    like ('%' :: pattern) s ↔ ∃ t, t <:+ s ∧ like pattern t := by
  simp [like, mem_suffixes_iff]

theorem like_any (s : List Char) : like ['%'] s :=
  like_any_iff.2 ⟨[], List.nil_suffix, rfl⟩

/-! ## Plain words -/

variable {words : List Char}

/-- Plain words match the beginning of a text that reads as they do. -/
theorem like_append_iff (hplain : IsPlain words) {pattern s : List Char} :
    like (words ++ pattern) s ↔ lower words <+: lower s ∧ like pattern (s.drop words.length) := by
  induction words generalizing s with
  | nil => simp
  | cons c rest ih =>
    obtain ⟨⟨hany, hone⟩, hrest⟩ := List.forall_mem_cons.1 hplain
    cases s with
    | nil => simp [like, hany]
    | cons d t => simp [like, hany, hone, sameLetter_iff, ih hrest, and_assoc]

/-- A pattern of plain words with `%` behind them matches the texts that begin with them. -/
theorem like_append_any (hplain : IsPlain words) (s : List Char) :
    like (words ++ ['%']) s ↔ lower words <+: lower s := by
  rw [like_append_iff hplain]
  exact and_iff_left (like_any _)

theorem like_iff (hplain : IsPlain words) (s : List Char) :
    like words s ↔ lower words = lower s := by
  have hsplit : like words s ↔ lower words <+: lower s ∧ s.length ≤ words.length := by
    have h := @like_append_iff words hplain [] s
    simpa [like, List.drop_eq_nil_iff] using h
  rw [hsplit]
  constructor
  · rintro ⟨hbegins, hlength⟩
    exact hbegins.eq_of_length_le (by simpa using hlength)
  · intro h
    have hlength := congrArg List.length h
    exact ⟨h ▸ List.prefix_rfl, by simpa using hlength.ge⟩

/-- A pattern of plain words with `%` before them matches the texts that end with them. -/
theorem like_any_append (hplain : IsPlain words) (s : List Char) :
    like ('%' :: words) s ↔ lower words <:+ lower s := by
  simp only [like_any_iff, like_iff hplain]
  constructor
  · rintro ⟨t, hends, hsame⟩
    rw [hsame]
    exact hends.map Char.toLower
  · intro h
    obtain ⟨t, hends, hsame⟩ := List.suffix_map_iff.1 h
    exact ⟨t, hends, hsame⟩

/-- A pattern of plain words with `%` on both sides matches the texts that contain them. -/
theorem like_any_append_any (hplain : IsPlain words) (s : List Char) :
    like ('%' :: words ++ ['%']) s ↔ lower words <:+: lower s := by
  rw [List.cons_append]
  simp only [like_any_iff, like_append_any hplain]
  rw [List.infix_iff_prefix_suffix]
  constructor
  · rintro ⟨t, hends, hbegins⟩
    exact ⟨lower t, hbegins, hends.map Char.toLower⟩
  · rintro ⟨u, hbegins, hlast⟩
    obtain ⟨t, hends, rfl⟩ := List.suffix_map_iff.1 hlast
    exact ⟨t, hends, hbegins⟩

end Daybook.Sql
