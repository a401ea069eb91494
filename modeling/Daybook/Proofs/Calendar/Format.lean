import Daybook.Calendar.Normalize
import Daybook.Proofs.Calendar.Date
import Mathlib.Data.List.TakeWhile

/-!
# Reading the normal form back

A date in the normal form has all its fields in full width and a zone, so it is read in the first
layout, field by field. What is read differs from the instant that was written in what the normal
form leaves out, and so has the same normal form: to normalize a date twice is to normalize it once
(**`normalize?_of_isNormal`**).

* `readDigits?_padded`: a field of full width is read as its number;
* `Instant.shown`, `Instant.readZoned?_formatChars`: the instant that is read back;
* `IsNormal`: the texts of the normal form.
-/

namespace Daybook.Calendar

-- Powers are those of the core library.
attribute [local instance (high)] instPowNat instNatPowNat Int.instNatPow

/-! ## Digits -/

theorem numberOf_append (ds es : List Char) :
    numberOf (ds ++ es) = es.foldl (fun n c => n * 10 + (c.toNat - 48)) (numberOf ds) :=
  List.foldl_append

theorem numberOf_replicate (k : Nat) : numberOf (List.replicate k '0') = 0 := by
  induction k with
  | zero => rfl
  | succ k ih => exact ih

theorem numberOf_toDigits (n : Nat) : numberOf (Nat.toDigits 10 n) = n := by
  have hsame : (fun (n : Nat) (c : Char) => n * 10 + (c.toNat - 48)) =
      fun n c => 10 * n + (c.toNat - '0'.toNat) := by
    funext n c
    rw [Nat.mul_comm]
    rfl
  rw [numberOf, hsame]
  exact Nat.ofDigitChars_toDigits (by decide) (by decide)

namespace Instant

theorem numberOf_padded (width n : Nat) : numberOf (padded width n) = n := by
  rw [padded, numberOf_append, numberOf_replicate]
  exact numberOf_toDigits n

theorem isDigit_of_mem_padded {width n : Nat} : ∀ c ∈ padded width n, c.isDigit := by
  intro c hc
  rcases List.mem_append.1 hc with hzero | hdigit
  · rw [(List.mem_replicate.1 hzero).2]
    rfl
  · exact Nat.isDigit_of_mem_toDigits (by decide) (by decide) hdigit

theorem length_padded {width n : Nat} (hwidth : 0 < width) (h : n < 10 ^ width) :
    (padded width n).length = width := by
  have hle := (Nat.length_toDigits_le_iff (by decide) hwidth).2 h
  rw [padded, List.length_append, List.length_replicate]
  omega

end Instant

open Instant

/-! ## Fields of full width -/

theorem takeWhile_isDigit {ds : List Char} (h : ∀ c ∈ ds, c.isDigit) {c : Char}
    (hc : c.isDigit = false) (rest : List Char) :
    (ds ++ c :: rest).takeWhile Char.isDigit = ds := by
  rw [List.takeWhile_append_of_pos h,
    List.takeWhile_cons_of_neg (by rw [hc]; exact Bool.false_ne_true), List.append_nil]

/-- A number in full width is read as it is. -/
theorem readDigits?_padded {width n : Nat} (hwidth : 0 < width) (h : n < 10 ^ width)
    (rest : List Char) : readDigits? width width (padded width n ++ rest) = some (n, rest) := by
  have hlength := length_padded hwidth h
  have htake : ((padded width n ++ rest).take width).takeWhile Char.isDigit = padded width n := by
    rw [List.take_left' hlength, List.takeWhile_eq_self_iff]
    exact isDigit_of_mem_padded
  have hempty : (padded width n).isEmpty = false := by
    rw [List.isEmpty_eq_false_iff_exists_mem]
    exact List.exists_mem_of_length_pos (by omega)
  rw [readDigits?, htake]
  rw [hlength, hempty, if_neg (by simp), numberOf_padded, List.drop_left' hlength]

/-- Milliseconds are read as nanoseconds. -/
theorem readNanos?_padded {n : Nat} (h : n < 1000) {c : Char} (hc : c.isDigit = false)
    (rest : List Char) :
    readNanos? (padded 3 n ++ c :: rest) = some (n * 1000000, c :: rest) := by
  have hlength : (padded 3 n).length = 3 := length_padded (by decide) h
  have hempty : (padded 3 n).isEmpty = false := by
    rw [List.isEmpty_eq_false_iff_exists_mem]
    exact List.exists_mem_of_length_pos (by omega)
  rw [readNanos?, takeWhile_isDigit isDigit_of_mem_padded hc]
  rw [hempty, if_neg Bool.false_ne_true, List.take_of_length_le (by omega), hlength,
    numberOf_padded, List.drop_left' hlength]

theorem bind_of_eq_some {α β : Type} {x : Option α} {a : α} (h : x = some a)
    (f : α → Option β) : x.bind f = f a := by
  rw [h, Option.bind_some]

/-- A full date and a full time in universal time are read field by field. -/
theorem readZoned?_padded {year month day hour minute second millis : Nat} (hyear : year < 10000)
    (hmonth : month < 100) (hday : day < 100) (hhour : hour < 100) (hminute : minute < 100)
    (hsecond : second < 100) (hmillis : millis < 1000) :
    readZoned? (padded 4 year ++ '-' :: padded 2 month ++ '-' :: padded 2 day ++
        'T' :: padded 2 hour ++ ':' :: padded 2 minute ++ ':' :: padded 2 second ++
        '.' :: padded 3 millis ++ ['Z']) =
      Fields.toInstant? ⟨year, month, day, hour, minute, second, millis * 1000000⟩ 0 := by
  have htwo : ∀ {n : Nat}, n < 100 → ∀ rest,
      readDigits? 2 2 (padded 2 n ++ rest) = some (n, rest) := fun h rest =>
    readDigits?_padded (by decide) h rest
  have hexpect : ∀ c rest, expect? c (c :: rest) = some rest := fun c rest => if_pos rfl
  have hmark : 'T' = 'T' ∨ 'T' = 't' ∨ 'T' = ' ' := .inl rfl
  simp only [List.append_assoc, List.cons_append]
  refine (bind_of_eq_some (readDigits?_padded (by decide) hyear _) _).trans ?_
  refine (bind_of_eq_some (hexpect '-' _) _).trans ?_
  refine (bind_of_eq_some (htwo hmonth _) _).trans ?_
  refine (bind_of_eq_some (hexpect '-' _) _).trans ?_
  refine (bind_of_eq_some (htwo hday _) _).trans ?_
  refine (if_pos hmark).trans ?_
  refine (bind_of_eq_some rfl _).trans ?_
  refine (bind_of_eq_some (htwo hhour _) _).trans ?_
  refine (bind_of_eq_some (hexpect ':' _) _).trans ?_
  refine (bind_of_eq_some (htwo hminute _) _).trans ?_
  refine (bind_of_eq_some (hexpect ':' _) _).trans ?_
  refine (bind_of_eq_some (htwo hsecond _) _).trans ?_
  refine (bind_of_eq_some (readNanos?_padded hmillis rfl []) _).trans ?_
  rfl

/-! ## Reading an instant back -/

namespace Instant

/-- The instant is one that the normal form can show: its year has four digits, and a leap second is
one second. -/
structure IsShown (t : Instant) : Prop where
  notBefore : 0 ≤ t.date.year
  notAfter : t.date.year ≤ 9999
  leap : t.nanos < 2000000000

/-- The instant that is read back: to the millisecond, and a leap second only at the end of a
minute. -/
def shown (t : Instant) : Instant :=
  if t.secondOfDay % 60 = 59 then ⟨t.seconds, t.nanos / 1000000 * 1000000⟩
  else ⟨t.seconds + (t.nanos / 1000000000 : Nat), t.nanos % 1000000000 / 1000000 * 1000000⟩

theorem formatChars_eq {t : Instant} (h : t.IsShown) :
    t.formatChars = padded 4 t.date.year.natAbs ++ '-' :: padded 2 t.date.month ++
      '-' :: padded 2 t.date.day ++ 'T' :: padded 2 (t.secondOfDay / 3600) ++
      ':' :: padded 2 (t.secondOfDay / 60 % 60) ++
      ':' :: padded 2 (t.secondOfDay % 60 + t.nanos / 1000000000) ++
      '.' :: padded 3 (t.nanos % 1000000000 / 1000000) ++ ['Z'] := by
  rw [formatChars, formatYear, if_pos ⟨h.notBefore, h.notAfter⟩]

theorem secondOfDay_lt (t : Instant) : t.secondOfDay < 86400 := by
  rw [secondOfDay]
  omega

/-- A date that exists and a time of its day are those of an instant. -/
theorem toInstant?_eq {date : Date} (hdate : date.IsValid) {hour minute second nanos : Nat}
    (hhour : hour ≤ 23) (hminute : minute ≤ 59) (hsecond : second ≤ 60) :
    Fields.toInstant? ⟨date.year, date.month, date.day, hour, minute, second, nanos⟩ 0 =
      some ⟨date.toDays * 86400 + hour * 3600 + minute * 60 + (min second 59 : Nat),
        nanos + if second = 60 then 1000000000 else 0⟩ := by
  have hmin : (if second = 60 then 59 else second) = min second 59 := by
    split_ifs <;> omega
  rw [Fields.toInstant?]
  dsimp only
  rw [if_pos ⟨hdate, hhour, hminute, hsecond⟩, hmin, Int.sub_zero]

/-- **The normal form of an instant is read as the instant that it shows.** -/
theorem readZoned?_formatChars {t : Instant} (h : t.IsShown) :
    readZoned? t.formatChars = some t.shown := by
  obtain ⟨hzero, hfour, hleap⟩ := h
  obtain ⟨-, hmonth', -, hday'⟩ := Date.month_ofDays t.day
  have hmonth : t.date.month < 100 := Nat.lt_of_le_of_lt hmonth' (by decide)
  have hday : t.date.day < 100 :=
    Nat.lt_of_le_of_lt (hday'.trans (Date.daysInMonth_le _ _)) (by decide)
  have hsecond := t.secondOfDay_lt
  have hvalid : t.date.IsValid := Date.isValid_ofDays
    (show minYear ≤ t.date.year by rw [minYear]; omega)
    (show t.date.year ≤ maxYear by rw [maxYear]; omega)
  have hyear : (t.date.year.natAbs : Int) = t.date.year := Int.natAbs_of_nonneg hzero
  have hdays : t.date.toDays = t.day := Date.toDays_ofDays t.day
  have hseconds : t.seconds = t.day * 86400 + t.secondOfDay := by
    rw [day, secondOfDay]
    omega
  rw [formatChars_eq ⟨hzero, hfour, hleap⟩,
    readZoned?_padded (by omega) hmonth hday (by omega) (by omega) (by omega) (by omega), hyear,
    toInstant?_eq hvalid (by omega) (by omega) (by omega), hdays, shown, Option.some.injEq]
  split_ifs
  all_goals
    rw [Instant.mk.injEq]
    omega

/-- What an instant shows, it has in common with the instant that is read back. -/
theorem shown_fields {t : Instant} (h : t.nanos < 2000000000) :
    t.shown.day = t.day ∧ t.shown.secondOfDay / 60 = t.secondOfDay / 60 ∧
      t.shown.secondOfDay % 60 + t.shown.nanos / 1000000000 =
        t.secondOfDay % 60 + t.nanos / 1000000000 ∧
      t.shown.nanos % 1000000000 / 1000000 = t.nanos % 1000000000 / 1000000 := by
  have hsecond := t.secondOfDay_lt
  have hseconds : t.seconds = t.day * 86400 + t.secondOfDay := by
    rw [day, secondOfDay]
    omega
  rw [shown]
  split_ifs with hlast
  · exact ⟨rfl, rfl, by dsimp only [secondOfDay]; omega, by dsimp only; omega⟩
  · dsimp only [day, secondOfDay] at hlast hsecond hseconds ⊢
    omega

theorem format_shown {t : Instant} (h : t.nanos < 2000000000) : t.shown.format = t.format := by
  obtain ⟨hday, hminute, hleap, hmillis⟩ := shown_fields h
  have hhour : t.shown.secondOfDay / 3600 = t.secondOfDay / 3600 := by omega
  rw [format, format, formatChars, formatChars, date, date, hday, hhour, hminute, hleap, hmillis]

theorem IsShown.shown {t : Instant} (h : t.IsShown) : t.shown.IsShown := by
  obtain ⟨hday, -⟩ := shown_fields h.leap
  have hdate : t.shown.date = t.date := by rw [date, hday, date]
  refine ⟨hdate ▸ h.notBefore, hdate ▸ h.notAfter, ?_⟩
  have hleap := h.leap
  rw [Instant.shown]
  split_ifs
  all_goals
    dsimp only
    omega

end Instant

/-! ## Normalizing twice -/

theorem isBlank_of_isDigit {c : Char} (h : c.isDigit) : Text.isBlank c = false := by
  have hapart : ∀ r ∈ Text.blankRanges, r.2 < 48 ∨ 57 < r.1 := by decide
  rw [Char.isDigit, Bool.and_eq_true, decide_eq_true_eq, decide_eq_true_eq] at h
  have hlow : 48 ≤ c.toNat := h.1
  have hhigh : c.toNat ≤ 57 := h.2
  rw [Text.isBlank, Text.inRanges, List.any_eq_false]
  intro r hr
  rw [Bool.and_eq_true, decide_eq_true_eq, decide_eq_true_eq]
  have := hapart r hr
  omega

/-- There are no blanks around the normal form. -/
theorem trim_formatChars {t : Instant} (h : t.IsShown) :
    Text.trimEnd (Text.trimStart t.formatChars) = t.formatChars := by
  have hyear : t.date.year.natAbs < 10 ^ (4 : Nat) := by
    have hzero := h.notBefore
    have hfour := h.notAfter
    omega
  have hpos : 0 < (padded 4 t.date.year.natAbs).length := by
    rw [length_padded (by decide) hyear]
    decide
  obtain ⟨c, ds, hds⟩ := List.exists_cons_of_length_pos hpos
  have hdigit : c.isDigit := isDigit_of_mem_padded c (hds ▸ List.mem_cons_self)
  obtain ⟨rest, hchars⟩ : ∃ rest, t.formatChars = c :: rest ++ ['Z'] := by
    rw [formatChars_eq h, hds]
    exact ⟨_, rfl⟩
  have hstart : Text.trimStart t.formatChars = t.formatChars := by
    rw [Text.trimStart, hchars]
    exact List.dropWhile_cons_of_neg (by rw [isBlank_of_isDigit hdigit]; exact Bool.false_ne_true)
  have hend : Text.isBlank 'Z' = false := by decide
  rw [hstart, Text.trimEnd, hchars, List.reverse_append, List.reverse_singleton,
    List.singleton_append, List.dropWhile_cons_of_neg (by rw [hend]; exact Bool.false_ne_true),
    List.reverse_cons, List.reverse_reverse]

theorem readText?_format {t : Instant} (h : t.IsShown) : readText? t.format = some t.shown := by
  rw [readText?, format, String.toList_ofList, trim_formatChars h, readChars?,
    readZoned?_formatChars h]
  rfl

/-- The text is the normal form of an instant, with a year of four digits. -/
def IsNormal (text : String) : Prop := ∃ t : Instant, t.IsShown ∧ t.format = text

/-- The normal form is known by reading it. -/
theorem isNormal_iff {text : String} :
    IsNormal text ↔ ∃ t ∈ readText? text, t.IsShown ∧ t.format = text := by
  constructor
  · rintro ⟨t, ht, rfl⟩
    exact ⟨t.shown, readText?_format ht, ht.shown, format_shown ht.leap⟩
  · rintro ⟨t, -, ht, hformat⟩
    exact ⟨t, ht, hformat⟩

instance (t : Instant) : Decidable t.IsShown :=
  decidable_of_iff (0 ≤ t.date.year ∧ t.date.year ≤ 9999 ∧ t.nanos < 2000000000)
    ⟨fun h => ⟨h.1, h.2.1, h.2.2⟩, fun h => ⟨h.notBefore, h.notAfter, h.leap⟩⟩

instance (text : String) : Decidable (IsNormal text) := decidable_of_iff _ isNormal_iff.symm

/-- **A date in the normal form stays as it is.** -/
theorem normalize?_of_isNormal {text : String} (h : IsNormal text) :
    normalize? (.str text) = some text := by
  obtain ⟨t, ht, rfl⟩ := h
  show (readText? t.format).map Instant.format = _
  rw [readText?_format ht, Option.map_some, format_shown ht.leap]

example : IsNormal "2024-02-29T23:59:60.250Z" := by decide +kernel

end Daybook.Calendar
