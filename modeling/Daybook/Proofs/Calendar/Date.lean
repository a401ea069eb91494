import Daybook.Calendar.Date
import Mathlib.Data.List.GetD
import Mathlib.Tactic.SplitIfs

/-!
# Days and dates

A day count is split at the ends of four hundred years, of centuries, of four years and of years,
and what is left of it at the ends of months. Nothing is lost on the way, so every day count is that
of its date (**`toDays_ofDays`**), and its date exists if its year is one that dates are kept for
(**`isValid_ofDays`**). The other way round, a date that exists is that of its day count
(**`ofDays_toDays`**): the years cover the day counts without a gap (`daysBeforeYear_succ`), so the
split into a year and the days into it is the only one.

Day counts are right because 1 January 1970 has the day count zero, and the next date the next day
count (**`toDays_next`**).
-/

namespace Daybook.Calendar.Date

-- Sums start from the zero of the core library.
attribute [local instance (high)] Zero.ofOfNat0

/-! ## Months -/

theorem sum_take_splitMonths (lengths : List Nat) (n : Nat) :
    (lengths.take (splitMonths lengths n).1).sum + (splitMonths lengths n).2 = n := by
  induction lengths generalizing n with
  | nil => exact Nat.zero_add n
  | cons length rest ih =>
    rw [splitMonths]
    split_ifs with hlt
    · exact Nat.zero_add n
    · have hrest := ih (n - length)
      show (length :: rest.take _).sum + _ = n
      rw [List.sum_cons]
      dsimp only
      omega

/-- Where the months are long enough together, the day falls in one of them. -/
theorem splitMonths_lt {lengths : List Nat} {n : Nat} (h : n < lengths.sum) :
    (splitMonths lengths n).1 < lengths.length ∧
      (splitMonths lengths n).2 < lengths.getD (splitMonths lengths n).1 0 := by
  induction lengths generalizing n with
  | nil => exact absurd h (Nat.not_lt_zero n)
  | cons length rest ih =>
    rw [List.sum_cons] at h
    rw [splitMonths]
    split_ifs with hlt
    · exact ⟨Nat.zero_lt_succ _, hlt⟩
    · obtain ⟨hmonth, hday⟩ := ih (n := n - length) (by omega)
      exact ⟨Nat.succ_lt_succ hmonth, hday⟩

theorem length_monthLengths (leap : Bool) : (monthLengths leap).length = 12 := rfl

theorem sum_monthLengths (leap : Bool) : (monthLengths leap).sum = if leap then 366 else 365 := by
  cases leap <;> rfl

theorem getD_monthLengths_le (leap : Bool) (i : Nat) : (monthLengths leap).getD i 0 ≤ 31 := by
  rcases Nat.lt_or_ge i 12 with hlt | hge
  · have hall : ∀ leap, ∀ i < 12, (monthLengths leap).getD i 0 ≤ 31 := by decide
    exact hall leap i hlt
  · rw [List.getD_eq_default _ _ (by rwa [length_monthLengths])]
    exact Nat.zero_le _

theorem daysInMonth_le (year : Int) (month : Nat) : daysInMonth year month ≤ 31 := by
  rw [daysInMonth]
  split_ifs
  · exact Nat.zero_le _
  · exact getD_monthLengths_le _ _

/-! ## Years -/

/-- A day count is the days before its year and the days into it, which the year has. -/
theorem splitYears_spec (days : Int) :
    daysBeforeYear (splitYears days).1 + (splitYears days).2 = days ∧
      (splitYears days).2 < if isLeap (splitYears days).1 then 366 else 365 := by
  rw [splitYears]
  dsimp only
  generalize hcycle : days / 146097 = cycle
  generalize hinCycle : (days % 146097).toNat = inCycle
  generalize hcentury : min (inCycle / 36524) 3 = century
  generalize hinCentury : inCycle - century * 36524 = inCentury
  generalize hspan : inCentury / 1461 = span
  generalize hinSpan : inCentury % 1461 = inSpan
  generalize hyear : min (inSpan / 365) 3 = year
  have hcentury' : century ≤ 3 ∧ century * 36524 ≤ inCycle ∧
      (inCentury < 36524 ∨ century = 3 ∧ inCentury = 36524) := by omega
  have hspan' : span ≤ 24 ∧ inCentury = span * 1461 + inSpan ∧ inSpan < 1461 := by omega
  have hyear' : year ≤ 3 ∧ year * 365 ≤ inSpan ∧
      (inSpan - year * 365 < 365 ∨ year = 3 ∧ inSpan = 1460) := by omega
  have hcount : days = 146097 * cycle + inCycle ∧ inCycle = century * 36524 + inCentury := by omega
  constructor
  · rw [daysBeforeYear]
    have hfour : (400 * cycle + 100 * century + 4 * span + year + 1 - 1) / 4 =
        100 * cycle + 25 * century + span := by omega
    have hhundred : (400 * cycle + 100 * century + 4 * span + year + 1 - 1) / 100 =
        4 * cycle + century := by omega
    have hall : (400 * cycle + 100 * century + 4 * span + year + 1 - 1) / 400 = cycle := by omega
    rw [hfour, hhundred, hall]
    omega
  · rcases hyear'.2.2 with hlt | ⟨rfl, hlast⟩
    · split_ifs <;> omega
    · -- the last day of a span: its year is the fourth, and the last of a cycle if of a century
      have hleap : isLeap (400 * cycle + 100 * century + 4 * span + (3 : Nat) + 1) := by
        rw [isLeap, Bool.and_eq_true, Bool.or_eq_true, decide_eq_true_eq, decide_eq_true_eq,
          decide_eq_true_eq]
        omega
      rw [if_pos hleap, hlast]
      decide

/-! ## Dates -/

/-- The month of a day count is one of the year, and the day one of the month. -/
theorem month_ofDays (days : Int) :
    1 ≤ (ofDays days).month ∧ (ofDays days).month ≤ 12 ∧ 1 ≤ (ofDays days).day ∧
      (ofDays days).day ≤ daysInMonth (ofDays days).year (ofDays days).month := by
  have hday := (splitYears_spec (days + epochOffset)).2
  rw [← sum_monthLengths] at hday
  obtain ⟨hmonth, hin⟩ := splitMonths_lt hday
  rw [length_monthLengths] at hmonth
  rw [ofDays, daysInMonth]
  dsimp only
  rw [if_neg (Nat.succ_ne_zero _), Nat.add_sub_cancel]
  exact ⟨Nat.le_add_left 1 _, hmonth, Nat.le_add_left 1 _, hin⟩

/-- **A day count is that of its date.** -/
theorem toDays_ofDays (days : Int) : (ofDays days).toDays = days := by
  have hyear := (splitYears_spec (days + epochOffset)).1
  have hmonth := sum_take_splitMonths
    (monthLengths (isLeap (splitYears (days + epochOffset)).1)) (splitYears (days + epochOffset)).2
  rw [toDays, ofDays]
  dsimp only
  rw [Nat.add_sub_cancel]
  omega

/-- The date of a day count exists, if its year is one that dates are kept for. -/
theorem isValid_ofDays {days : Int} (hmin : minYear ≤ (ofDays days).year)
    (hmax : (ofDays days).year ≤ maxYear) : (ofDays days).IsValid :=
  ⟨hmin, hmax, (month_ofDays days).2.2⟩

/-! ## The day counts of dates -/

theorem sum_take_succ (lengths : List Nat) (i : Nat) :
    (lengths.take (i + 1)).sum = (lengths.take i).sum + lengths.getD i 0 := by
  induction lengths generalizing i with
  | nil => simp
  | cons length rest ih =>
    cases i with
    | zero => simp
    | succ i =>
      have := ih i
      simp only [List.take_succ_cons, List.sum_cons, List.getD_cons_succ] at this ⊢
      omega

theorem sum_take_le (lengths : List Nat) (i : Nat) : (lengths.take i).sum ≤ lengths.sum := by
  induction lengths generalizing i with
  | nil => simp
  | cons length rest ih =>
    cases i with
    | zero => simp
    | succ i =>
      have := ih i
      simp only [List.take_succ_cons, List.sum_cons]
      omega

theorem sum_take_mono (lengths : List Nat) {i j : Nat} (h : i ≤ j) :
    (lengths.take i).sum ≤ (lengths.take j).sum := by
  have hle := sum_take_le (lengths.take j) i
  rwa [List.take_take, Nat.min_eq_left h] at hle

/-- A day of a month falls in that month. -/
theorem splitMonths_sum {lengths : List Nat} {i day : Nat} (h : day < lengths.getD i 0) :
    splitMonths lengths ((lengths.take i).sum + day) = (i, day) := by
  induction lengths generalizing i with
  | nil => simp at h
  | cons length rest ih =>
    cases i with
    | zero =>
      have hday : day < length := h
      simp [splitMonths, hday]
    | succ i =>
      have hrest := ih (i := i) (by simpa using h)
      have hge : ¬ length + (rest.take i).sum + day < length := by omega
      have hsub : length + (rest.take i).sum + day - length = (rest.take i).sum + day := by omega
      rw [List.take_succ_cons, List.sum_cons, splitMonths, if_neg hge, hsub, hrest]

/-- A year is as long as the day counts up to the next one say. -/
theorem daysBeforeYear_succ (year : Int) :
    daysBeforeYear (year + 1) = daysBeforeYear year + if isLeap year then 366 else 365 := by
  have hleap : isLeap year ↔ year % 4 = 0 ∧ (year % 100 ≠ 0 ∨ year % 400 = 0) := by
    simp [isLeap]
  unfold daysBeforeYear
  dsimp only
  split_ifs with h
  · have := hleap.1 h
    omega
  · have := mt hleap.2 h
    omega

theorem daysBeforeYear_mono {a b : Int} (h : a ≤ b) : daysBeforeYear a ≤ daysBeforeYear b := by
  unfold daysBeforeYear
  dsimp only
  omega

/-- A day count falls in one year only. -/
theorem splitYears_add {year : Int} {day : Nat} (h : day < if isLeap year then 366 else 365) :
    splitYears (daysBeforeYear year + day) = (year, day) := by
  obtain ⟨hsum, hday⟩ := splitYears_spec (daysBeforeYear year + day)
  generalize hsplit : splitYears (daysBeforeYear year + day) = split at hsum hday
  have hnext := daysBeforeYear_succ year
  have hnext' := daysBeforeYear_succ split.1
  have hyear : split.1 = year := by
    rcases Int.lt_trichotomy split.1 year with hlt | heq | hgt
    · have := daysBeforeYear_mono (show split.1 + 1 ≤ year by omega)
      split_ifs at * <;> omega
    · exact heq
    · have := daysBeforeYear_mono (show year + 1 ≤ split.1 by omega)
      split_ifs at * <;> omega
  have hrest : split.2 = day := by
    rw [hyear] at hsum
    omega
  rw [← hyear, ← hrest]

/-- A day of a month is one of the year. -/
theorem dayOfYear_lt {year : Int} {month day : Nat} (hone : 1 ≤ day)
    (hday : day ≤ daysInMonth year month) :
    1 ≤ month ∧ day - 1 < (monthLengths (isLeap year)).getD (month - 1) 0 ∧
      ((monthLengths (isLeap year)).take (month - 1)).sum + (day - 1) <
        if isLeap year then 366 else 365 := by
  unfold daysInMonth at hday
  split_ifs at hday with hmonth
  · omega
  have hle := sum_take_le (monthLengths (isLeap year)) (month - 1 + 1)
  rw [sum_take_succ, sum_monthLengths] at hle
  exact ⟨by omega, by omega, by omega⟩

/-- **A date that exists is that of its day count.** -/
theorem ofDays_toDays {d : Date} (hone : 1 ≤ d.day) (hday : d.day ≤ daysInMonth d.year d.month) :
    ofDays d.toDays = d := by
  obtain ⟨year, month, day⟩ := d
  dsimp only at hone hday
  obtain ⟨hmonth, hin, hlt⟩ := dayOfYear_lt hone hday
  have hcount : toDays ⟨year, month, day⟩ + epochOffset = daysBeforeYear year +
      (((monthLengths (isLeap year)).take (month - 1)).sum + (day - 1) : Nat) := by
    unfold toDays
    dsimp only
    omega
  unfold ofDays
  rw [hcount, splitYears_add hlt]
  dsimp only
  rw [splitMonths_sum hin]
  dsimp only
  rw [Nat.sub_add_cancel hone, Nat.sub_add_cancel hmonth]

/-- The date after a date. -/
def next (d : Date) : Date :=
  if d.day < daysInMonth d.year d.month then { d with day := d.day + 1 }
  else if d.month < 12 then ⟨d.year, d.month + 1, 1⟩
  else ⟨d.year + 1, 1, 1⟩

/-- **The next date has the next day count.** -/
theorem toDays_next {d : Date} (hmonth : 1 ≤ d.month) (hyear : d.month ≤ 12) (hone : 1 ≤ d.day)
    (hday : d.day ≤ daysInMonth d.year d.month) : d.next.toDays = d.toDays + 1 := by
  obtain ⟨year, month, day⟩ := d
  dsimp only at hmonth hyear hone hday
  unfold next
  dsimp only
  by_cases hsame : day < daysInMonth year month
  · rw [if_pos hsame]
    simp only [toDays]
    omega
  rw [if_neg hsame]
  unfold daysInMonth at hsame hday
  rw [if_neg (by omega)] at hsame hday
  have hsum := sum_take_succ (monthLengths (isLeap year)) (month - 1)
  rw [Nat.sub_add_cancel hmonth] at hsum
  by_cases hlast : month < 12
  · rw [if_pos hlast]
    simp only [toDays, Nat.add_sub_cancel]
    omega
  · obtain rfl : month = 12 := by omega
    have hfull : ((monthLengths (isLeap year)).take 12).sum = if isLeap year then 366 else 365 := by
      rw [List.take_of_length_le (Nat.le_of_eq (length_monthLengths _)), sum_monthLengths]
    have hnext := daysBeforeYear_succ year
    rw [if_neg hlast]
    simp only [toDays, Nat.sub_self, List.take_zero, List.sum_nil]
    split_ifs at * <;> omega

example : toDays ⟨1970, 1, 1⟩ = 0 := by decide

end Daybook.Calendar.Date
