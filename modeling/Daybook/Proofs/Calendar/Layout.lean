import Daybook.Proofs.Calendar.Format

/-!
# Reading the layouts

The parts of a layout are read one after the other, so a layout is read on a text that is written
part by part by reading each part on its own piece (`Layout.read?_append`). A number in full width
is read by every field that takes that many digits (`readDigits?_field`), and what does not begin
with a digit by none.

* `Part.set`, `Part.read?_short`: the fields of two digits, all read alike;
* **`readYear?_formatYear`**: a year is read as it is written, with its sign if it has one;
* **`findSome?_layouts_date`**: behind a full date, only the layouts of the time are left;
* `trim_blanks`: blanks at the two ends do not count.
-/

namespace Daybook.Calendar

open Instant

-- Powers are those of the core library.
attribute [local instance (high)] instPowNat instNatPowNat Int.instNatPow

/-! ## Digits -/

/-- The text does not go on with a digit. -/
def Ends (s : List Char) : Prop := ∀ c ∈ s.head?, c.isDigit = false

@[simp] theorem ends_nil : Ends [] := by
  intro c hc
  simp at hc

@[simp] theorem ends_cons {c : Char} {s : List Char} : Ends (c :: s) ↔ c.isDigit = false := by
  simp [Ends]

theorem takeWhile_isDigit_of_ends {ds rest : List Char} (hds : ∀ c ∈ ds, c.isDigit)
    (h : Ends rest) : (ds ++ rest).takeWhile Char.isDigit = ds := by
  cases rest with
  | nil => rwa [List.append_nil, List.takeWhile_eq_self_iff]
  | cons c rest => exact takeWhile_isDigit hds (ends_cons.1 h) rest

section Digits

variable {least most : Nat}

/-- What does not begin with a digit is no number. -/
theorem readDigits?_of_ends {s : List Char} (h : Ends s) : readDigits? least most s = none := by
  have hnone : (s.take most).takeWhile Char.isDigit = [] := by
    cases s with
    | nil => simp
    | cons c s =>
      cases most with
      | zero => simp
      | succ most => simp [ends_cons.1 h]
  simp [readDigits?, hnone]

variable {ds rest : List Char} (hds : ∀ c ∈ ds, c.isDigit)
include hds

/-- Digits are read as their number, up to as many as the field takes. -/
theorem readDigits?_digits (hne : ds ≠ []) (hleast : least ≤ ds.length) (hmost : ds.length ≤ most)
    (h : ds.length = most ∨ Ends rest) :
    readDigits? least most (ds ++ rest) = some (numberOf ds, rest) := by
  have htake : ((ds ++ rest).take most).takeWhile Char.isDigit = ds := by
    rw [List.take_append, List.take_of_length_le hmost]
    by_cases hfull : ds.length = most
    · rw [hfull, Nat.sub_self, List.take_zero, List.append_nil, List.takeWhile_eq_self_iff]
      exact hds
    · refine takeWhile_isDigit_of_ends hds ?_
      intro c hc
      have hc' : c ∈ rest.head? := by
        rwa [List.head?_take, if_neg (by omega)] at hc
      exact (h.resolve_left hfull) c hc'
  unfold readDigits?
  rw [htake, if_neg (by simp [hne, hleast]), List.drop_left]

/-- Too few digits are no number. -/
theorem readDigits?_of_few (hfew : ds.length < least) (hle : least ≤ most) (h : Ends rest) :
    readDigits? least most (ds ++ rest) = none := by
  have htake : ((ds ++ rest).take most).takeWhile Char.isDigit = ds := by
    rw [List.take_append, List.take_of_length_le (by omega)]
    refine takeWhile_isDigit_of_ends hds ?_
    intro c hc
    have hc' : c ∈ rest.head? := by
      rwa [List.head?_take, if_neg (by omega)] at hc
    exact h c hc'
  simp [readDigits?, htake, hfew]

end Digits

section Padded

variable {least most width n : Nat} {rest : List Char}

theorem padded_ne_nil (width n : Nat) : padded width n ≠ [] := by
  simp [padded, Nat.toDigits_ne_nil]

variable (hn : n < 10 ^ width)
include hn

/-- A number in full width is read by every field that takes that many digits. -/
theorem readDigits?_field (hwidth : 0 < width) (hleast : least ≤ width) (hmost : width ≤ most)
    (h : width = most ∨ Ends rest) :
    readDigits? least most (padded width n ++ rest) = some (n, rest) := by
  have hlength := length_padded hwidth hn
  rw [readDigits?_digits isDigit_of_mem_padded (padded_ne_nil width n) (by omega) (by omega)
    (by rwa [hlength]), numberOf_padded]

end Padded

/-! ## Blanks -/

/-- A text that begins with a digit has no blanks before it. -/
@[simp] theorem trimStart_padded (width n : Nat) (rest : List Char) :
    Text.trimStart (padded width n ++ rest) = padded width n ++ rest := by
  obtain ⟨c, ds, hds⟩ := List.exists_cons_of_ne_nil (padded_ne_nil width n)
  have hdigit : c.isDigit := isDigit_of_mem_padded c (hds ▸ List.mem_cons_self)
  simp [Text.trimStart, hds, isBlank_of_isDigit hdigit]

theorem trimStart_cons {c : Char} (h : Text.isBlank c = false) (rest : List Char) :
    Text.trimStart (c :: rest) = c :: rest := by
  simp [Text.trimStart, h]

/-- A year begins with a digit or a sign. -/
@[simp] theorem trimStart_formatYear (year : Int) (rest : List Char) :
    Text.trimStart (formatYear year ++ rest) = formatYear year ++ rest := by
  have hplus : Text.isBlank '+' = false := by decide
  have hminus : Text.isBlank '-' = false := by decide
  unfold formatYear
  split_ifs
  · exact trimStart_padded _ _ _
  · exact trimStart_cons hminus _
  · exact trimStart_cons hplus _

/-- The last character is not blank. -/
def IsSolid (s : List Char) : Prop := ∃ front c, s = front ++ [c] ∧ Text.isBlank c = false

namespace IsSolid

variable {s : List Char}

theorem padded (width n : Nat) : IsSolid (padded width n) := by
  have hdigit := isDigit_of_mem_padded _ (List.getLast_mem (padded_ne_nil width n))
  exact ⟨_, _, (List.dropLast_concat_getLast (padded_ne_nil width n)).symm,
    isBlank_of_isDigit hdigit⟩

theorem append (h : IsSolid s) (front : List Char) : IsSolid (front ++ s) := by
  obtain ⟨init, c, rfl, hc⟩ := h
  exact ⟨front ++ init, c, by simp, hc⟩

theorem cons (h : IsSolid s) (c : Char) : IsSolid (c :: s) := h.append [c]

/-- There are no blanks after it. -/
theorem trimEnd (h : IsSolid s) : Text.trimEnd s = s := by
  obtain ⟨front, c, rfl, hc⟩ := h
  simp [Text.trimEnd, hc]

end IsSolid

/-- **Blanks at the two ends do not count.** -/
theorem trim_blanks {before after s : List Char} (hbefore : ∀ c ∈ before, Text.isBlank c)
    (hafter : ∀ c ∈ after, Text.isBlank c) (hstart : Text.trimStart (s ++ after) = s ++ after)
    (hend : IsSolid s) :
    Text.trimEnd (Text.trimStart (before ++ s ++ after)) = s := by
  have hdrop : Text.trimStart (before ++ (s ++ after)) = Text.trimStart (s ++ after) := by
    unfold Text.trimStart
    rw [List.dropWhile_append, List.dropWhile_eq_nil_iff.2 hbefore]
    rfl
  have hafter' : ∀ c ∈ after.reverse, Text.isBlank c := by
    simpa using hafter
  rw [List.append_assoc, hdrop, hstart, Text.trimEnd, List.reverse_append, List.dropWhile_append,
    List.dropWhile_eq_nil_iff.2 hafter']
  exact hend.trimEnd

/-! ## The layout with a zone -/

/-- What stands between a date and a time with a zone. -/
def readDivider? : List Char → Option (List Char)
  | c :: rest => if c = 'T' ∨ c = 't' ∨ c = ' ' then some rest else none
  | [] => none

/-- A fraction and a zone, and nothing behind them. -/
def readEnd? (f : Fields) (s : List Char) : Option Instant :=
  (readFraction? s).bind fun nanos => (readOffset? nanos.2).bind fun offset =>
    if offset.2.isEmpty then Fields.toInstant? { f with nanos := nanos.1 } offset.1 else none

/-- A full time with a zone. -/
def readTime? (f : Fields) (s : List Char) : Option Instant :=
  (readDigits? 2 2 s).bind fun hour => (expect? ':' hour.2).bind fun s =>
    (readDigits? 2 2 s).bind fun minute => (expect? ':' minute.2).bind fun s =>
      (readDigits? 2 2 s).bind fun second =>
        readEnd? { f with hour := hour.1, minute := minute.1, second := second.1 } second.2

/-- A date, a divider and a time. -/
theorem readZoned?_eq (s : List Char) :
    readZoned? s = (readDigits? 4 4 s).bind fun year => (expect? '-' year.2).bind fun s =>
      (readDigits? 2 2 s).bind fun month => (expect? '-' month.2).bind fun s =>
        (readDigits? 2 2 s).bind fun day => (readDivider? day.2).bind fun s =>
          readTime? { year := year.1, month := month.1, day := day.1 } s := by
  refine Option.bind_congr fun year _ => Option.bind_congr fun s _ =>
    Option.bind_congr fun month _ => Option.bind_congr fun s _ => Option.bind_congr fun day _ => ?_
  obtain ⟨day, s⟩ := day
  cases s with
  | nil => rfl
  | cons c rest =>
    by_cases h : c = 'T' ∨ c = 't' ∨ c = ' '
    · have hdivider : readDivider? (c :: rest) = some rest := if_pos h
      rw [hdivider]
      exact if_pos h
    · have hdivider : readDivider? (c :: rest) = none := if_neg h
      rw [hdivider]
      exact if_neg h

/-! ## Layouts -/

/-- The parts of a layout are read one after the other. -/
theorem Layout.read?_append (layout next : Layout) (f : Fields) (s : List Char) :
    Layout.read? (layout ++ next) f s = (layout.read? f s).bind fun p => next.read? p.1 p.2 := by
  induction layout generalizing f s with
  | nil => rfl
  | cons part layout ih =>
    rw [List.cons_append, Layout.read?, Layout.read?]
    cases part.read? f s with
    | none => rfl
    | some p => exact ih p.1 p.2

/-- The instant of the fields, if nothing of the text is left. -/
def atEnd? (p : Fields × List Char) : Option Instant :=
  if p.2.isEmpty then p.1.toInstant? 0 else none

@[simp] theorem atEnd?_nil (f : Fields) : atEnd? (f, []) = f.toInstant? 0 := rfl

@[simp] theorem atEnd?_cons (f : Fields) (c : Char) (s : List Char) : atEnd? (f, c :: s) = none :=
  rfl

theorem Layout.instant?_eq (layout : Layout) (s : List Char) :
    layout.instant? s = (layout.read? {} s).bind atEnd? := rfl

/-- What has no zone is read in the zone-less layouts. -/
theorem readChars?_of_zoneless {s : List Char} (h : readZoned? s = none) :
    readChars? s = layouts.findSome? fun layout => layout.instant? s := by
  rw [readChars?, h, Option.orElse_none]

/-! ## Dates -/

/-- A full date, with a sign before a year that does not have four digits. -/
def dateChars (year : Int) (month day : Nat) : List Char :=
  formatYear year ++ '-' :: padded 2 month ++ '-' :: padded 2 day

/-- Up to four digits are a year. -/
theorem readYear?_padded {width n : Nat} (hwidth : 0 < width) (hfour : width ≤ 4)
    (hn : n < 10 ^ width) {rest : List Char} (h : width = 4 ∨ Ends rest) :
    readYear? (padded width n ++ rest) = some ((n : Int), rest) := by
  have hread : readDigits? 1 4 (padded width n ++ rest) = some (n, rest) :=
    readDigits?_field hn hwidth hwidth hfour h
  obtain ⟨c, ds, hds⟩ := List.exists_cons_of_ne_nil (padded_ne_nil width n)
  have hdigit : c.isDigit := isDigit_of_mem_padded c (hds ▸ List.mem_cons_self)
  have hminus : c ≠ '-' := by
    rintro rfl
    simp at hdigit
  have hplus : c ≠ '+' := by
    rintro rfl
    simp at hdigit
  rw [hds, List.cons_append] at hread ⊢
  unfold readYear?
  split
  · simp_all
  · simp_all
  · rw [hread, Option.map_some]

/-- **A year is read as it is written.** -/
theorem readYear?_formatYear (year : Int) {rest : List Char} (h : Ends rest) :
    readYear? (formatYear year ++ rest) = some (year, rest) := by
  have hsigned : ∀ n : Nat, readDigits? 1 (padded 4 n ++ rest).length (padded 4 n ++ rest) =
      some (n, rest) := by
    intro n
    have hpos := List.length_pos_iff.2 (padded_ne_nil 4 n)
    rw [readDigits?_digits isDigit_of_mem_padded (padded_ne_nil 4 n) (by omega) (by simp)
      (.inr h), numberOf_padded]
  unfold formatYear
  split_ifs with hfour hneg
  · rw [readYear?_padded (by decide) (by decide) (by omega) (.inl rfl), Option.some.injEq,
      Prod.mk.injEq]
    exact ⟨by omega, rfl⟩
  · rw [List.cons_append]
    simp only [readYear?, hsigned, Option.map_some, Option.some.injEq, Prod.mk.injEq, and_true]
    omega
  · rw [List.cons_append]
    simp only [readYear?, hsigned, Option.map_some, Option.some.injEq, Prod.mk.injEq, and_true]
    omega

/-- A field of two digits reads a number of two digits. -/
theorem readDigits?_full {n : Nat} (hn : n < 100) (rest : List Char) :
    readDigits? 2 2 (padded 2 n ++ rest) = some (n, rest) :=
  readDigits?_padded (by decide) hn rest

/-- A field of up to two digits reads a number of two digits. -/
theorem readDigits?_two {n : Nat} (hn : n < 100) (rest : List Char) :
    readDigits? 1 2 (padded 2 n ++ rest) = some (n, rest) :=
  readDigits?_field hn (by omega) (by omega) (by omega) (.inl rfl)

/-- **A full date is read as it is written.** -/
theorem read?_dateLayout (f : Fields) (year : Int) {month day : Nat} (hmonth : month < 100)
    (hday : day < 100) (rest : List Char) :
    dateLayout.read? f (dateChars year month day ++ rest) =
      some ({ f with year := year, month := month, day := day }, rest) := by
  have hyear : ∀ s, readYear? (formatYear year ++ '-' :: s) = some (year, '-' :: s) :=
    fun s => readYear?_formatYear year (ends_cons.2 rfl)
  simp [dateLayout, dateChars, Layout.read?, Part.read?, expect?, hyear, readDigits?_two hmonth,
    readDigits?_two hday]

/-- Behind a full date without a sign, only a divider and a time with a zone are left. -/
theorem readZoned?_date {year : Int} (hzero : 0 ≤ year) (hfour : year ≤ 9999) {month day : Nat}
    (hmonth : month < 100) (hday : day < 100) (tail : List Char) :
    readZoned? (dateChars year month day ++ tail) =
      (readDivider? tail).bind fun s =>
        readTime? { year := year, month := month, day := day } s := by
  have hyear : ∀ rest, readDigits? 4 4 (padded 4 year.natAbs ++ rest) =
      some (year.natAbs, rest) := fun rest => readDigits?_padded (by decide) (by omega) rest
  have habs : (year.natAbs : Int) = year := Int.natAbs_of_nonneg hzero
  have hexpect : ∀ c rest, expect? c (c :: rest) = some rest := fun c rest => if_pos rfl
  rw [dateChars, formatYear, if_pos ⟨hzero, hfour⟩, readZoned?_eq]
  simp only [List.append_assoc, List.cons_append, hyear, hexpect, readDigits?_full hmonth,
    readDigits?_full hday, Option.bind_some, habs]

/-- A date that begins with the day is none that begins with the year. -/
theorem dateLayout_dayFirst (f : Fields) {day : Nat} (hday : day < 100) (rest : List Char) :
    dateLayout.read? f (padded 2 day ++ '/' :: rest) = none := by
  have hyear : readYear? (padded 2 day ++ '/' :: rest) = some ((day : Int), '/' :: rest) :=
    readYear?_padded (by decide) (by decide) hday (.inr (ends_cons.2 rfl))
  simp [dateLayout, Layout.read?, Part.read?, hyear, expect?]

/-- `05/03/2024` -/
def dayFirstLayout : Layout := [.day, .mark '/', .month, .mark '/', .year]

/-- A date that begins with the year is none that begins with the day. -/
theorem dayFirst_dateChars (f : Fields) (year : Int) (month day : Nat) (rest : List Char) :
    dayFirstLayout.read? f (dateChars year month day ++ rest) = none := by
  rw [dateChars, List.append_assoc, List.append_assoc, dayFirstLayout, Layout.read?]
  simp only [Part.read?, trimStart_formatYear]
  unfold formatYear
  split_ifs with hfour hneg
  · -- two of the four digits are read, and the next one is no slash
    have hlength : (padded 4 year.natAbs).length = 4 := length_padded (by omega) (by omega)
    have hdigits : ∀ c ∈ padded 4 year.natAbs, c.isDigit := isDigit_of_mem_padded
    match padded 4 year.natAbs, hlength, hdigits with
    | [a, b, c, d], _, hdigits =>
      have hread : ∀ s, readDigits? 1 2 ([a, b] ++ c :: s) = some (numberOf [a, b], c :: s) :=
        fun s => readDigits?_digits (by simp_all) (by simp) (by simp) (by simp) (.inl rfl)
      have hslash : '/' ≠ c := by
        rintro rfl
        simp at hdigits
      simp only [List.cons_append, List.nil_append] at hread ⊢
      simp [hread, Layout.read?, Part.read?, expect?, hslash]
  · have hnone : ∀ s, readDigits? 1 2 ('-' :: s) = none := fun s =>
      readDigits?_of_ends (ends_cons.2 rfl)
    simp [hnone]
  · have hnone : ∀ s, readDigits? 1 2 ('+' :: s) = none := fun s =>
      readDigits?_of_ends (ends_cons.2 rfl)
    simp [hnone]

/-! ## Times -/

/-- Hours and minutes, and what follows them. -/
def timeChars (hour minute : Nat) (more : List Char) : List Char :=
  padded 2 hour ++ ':' :: (padded 2 minute ++ more)

/-- Hours and minutes are read as they are written. -/
theorem read?_minuteLayout (f : Fields) {hour minute : Nat} (hhour : hour < 100)
    (hminute : minute < 100) (more : List Char) :
    minuteLayout.read? f (timeChars hour minute more) =
      some ({ f with hour := hour, minute := minute }, more) := by
  simp [minuteLayout, timeChars, Layout.read?, Part.read?, expect?, readDigits?_two hhour,
    readDigits?_two hminute]

/-- With a zone, seconds follow the minutes. -/
theorem readTime?_timeChars (f : Fields) {hour minute : Nat} (hhour : hour < 100)
    (hminute : minute < 100) (more : List Char) :
    readTime? f (timeChars hour minute more) =
      (expect? ':' more).bind fun s => (readDigits? 2 2 s).bind fun second =>
        readEnd? { f with hour := hour, minute := minute, second := second.1 } second.2 := by
  have hexpect : ∀ c rest, expect? c (c :: rest) = some rest := fun c rest => if_pos rfl
  rw [readTime?, timeChars]
  simp only [readDigits?_full hhour, readDigits?_full hminute, hexpect, Option.bind_some]

/-- The layouts of the time, behind a full date. -/
def timeLayouts : List Layout :=
  [.mark 'T' :: secondLayout, .gap :: secondLayout, .mark 'T' :: minuteLayout,
   .gap :: minuteLayout, []]

/-- The seconds, behind the minutes. -/
def secondsOnly : Layout := [.mark ':', .second, .fraction]

theorem layouts_eq : layouts = timeLayouts.map (dateLayout ++ ·) ++ [dayFirstLayout] := rfl

/-- **Behind a full date, only the layouts of the time are left.** -/
theorem findSome?_layouts_date (year : Int) {month day : Nat} (hmonth : month < 100)
    (hday : day < 100) (tail : List Char) :
    layouts.findSome? (fun layout => layout.instant? (dateChars year month day ++ tail)) =
      timeLayouts.findSome? fun layout =>
        (layout.read? { year := year, month := month, day := day } tail).bind atEnd? := by
  have hdate : ∀ layout : Layout,
      (dateLayout ++ layout).instant? (dateChars year month day ++ tail) =
        (layout.read? { year := year, month := month, day := day } tail).bind atEnd? := by
    intro layout
    rw [Layout.instant?_eq, Layout.read?_append, read?_dateLayout _ _ hmonth hday, Option.bind_some]
  have hlast : dayFirstLayout.instant? (dateChars year month day ++ tail) = none := by
    rw [Layout.instant?_eq, dayFirst_dateChars, Option.bind_none]
  rw [layouts_eq, List.findSome?_append, List.findSome?_map, List.findSome?_cons, hlast,
    List.findSome?_nil, Option.or_none]
  exact congrArg (List.findSome? · timeLayouts) (funext hdate)

/-- Where no time follows, only the date alone is read. -/
theorem findSome?_timeLayouts_nil (f : Fields) :
    (timeLayouts.findSome? fun layout => (layout.read? f []).bind atEnd?) = f.toInstant? 0 := by
  have hdigits : readDigits? 1 2 [] = none := readDigits?_of_ends ends_nil
  have hnone : ∀ layout ∈ timeLayouts.dropLast, (layout.read? f []).bind atEnd? = none := by
    simp [timeLayouts, secondLayout, minuteLayout, Layout.read?, Part.read?, expect?, hdigits,
      Text.trimStart]
  have hlast : timeLayouts = timeLayouts.dropLast ++ [[]] := rfl
  rw [hlast, List.findSome?_append, List.findSome?_eq_none_iff.2 hnone, Option.none_or]
  cases h : f.toInstant? 0 <;> simp [Layout.read?, h]

/-- **A date that begins with the day has the last layout only.** -/
theorem findSome?_layouts_dayFirst {day : Nat} (hday : day < 100) (rest : List Char) :
    layouts.findSome? (fun layout => layout.instant? (padded 2 day ++ '/' :: rest)) =
      dayFirstLayout.instant? (padded 2 day ++ '/' :: rest) := by
  have hdate : ∀ layout : Layout,
      (dateLayout ++ layout).instant? (padded 2 day ++ '/' :: rest) = none := by
    intro layout
    rw [Layout.instant?_eq, Layout.read?_append, dateLayout_dayFirst _ hday, Option.bind_none,
      Option.bind_none]
  have htime : (timeLayouts.map (dateLayout ++ ·)).findSome?
      (fun layout => layout.instant? (padded 2 day ++ '/' :: rest)) = none := by
    rw [List.findSome?_eq_none_iff]
    intro layout hlayout
    obtain ⟨time, -, rfl⟩ := List.mem_map.1 hlayout
    exact hdate time
  rw [layouts_eq, List.findSome?_append, htime, Option.none_or]
  cases h : dayFirstLayout.instant? (padded 2 day ++ '/' :: rest) <;> simp [h]

/-! ## Seconds -/

/-- A fraction of a second to the millisecond, or nothing. -/
def fractionChars (shown : Bool) (millis : Nat) : List Char :=
  if shown then '.' :: padded 3 millis else []

section Seconds

variable {shown : Bool} {millis : Nat} (hmillis : millis < 1000)
  (hshown : shown = false → millis = 0) {rest : List Char} (hrest : Ends rest)
  (hpoint : '.' ∉ rest.head?)
include hmillis hshown hrest hpoint

/-- A fraction is read as it is written. -/
theorem readFraction?_fractionChars :
    readFraction? (fractionChars shown millis ++ rest) = some (millis * 1000000, rest) := by
  unfold fractionChars
  by_cases h : shown
  · have hlength : (padded 3 millis).length = 3 := length_padded (by decide) hmillis
    have hdigits : (padded 3 millis ++ rest).takeWhile Char.isDigit = padded 3 millis :=
      takeWhile_isDigit_of_ends isDigit_of_mem_padded hrest
    have hkept : (padded 3 millis).take 9 = padded 3 millis := List.take_of_length_le (by omega)
    simp [h, readFraction?, readNanos?, hdigits, hkept, hlength, padded_ne_nil, numberOf_padded]
  · cases rest with
    | nil => simp [h, hshown, readFraction?]
    | cons c rest =>
      have hc : c ≠ '.' := by
        rintro rfl
        simp at hpoint
      simp [h, hshown, readFraction?, hc]

/-- Seconds and a fraction are read as they are written. -/
theorem read?_secondsOnly (f : Fields) {second : Nat} (hsecond : second < 100) :
    secondsOnly.read? f (':' :: (padded 2 second ++ (fractionChars shown millis ++ rest))) =
      some ({ f with second := second, nanos := millis * 1000000 }, rest) := by
  simp [secondsOnly, Layout.read?, Part.read?, expect?, readDigits?_two hsecond,
    readFraction?_fractionChars hmillis hshown hrest hpoint]

end Seconds

section Time

variable (f : Fields) {hour minute : Nat} (hhour : hour < 100) (hminute : minute < 100)

/-- Blanks take nothing of a mark, and no digit follows. -/
theorem minuteLayout_mark (s : List Char) :
    minuteLayout.read? f (Text.trimStart ('T' :: s)) = none := by
  have hblank : Text.isBlank 'T' = false := by decide
  have hdigits : readDigits? 1 2 ('T' :: s) = none := readDigits?_of_ends (ends_cons.2 rfl)
  simp [minuteLayout, Layout.read?, Part.read?, trimStart_cons hblank, hdigits]

theorem trimStart_timeChars (hour minute : Nat) (more : List Char) :
    Text.trimStart (' ' :: timeChars hour minute more) = timeChars hour minute more := by
  have hblank : Text.isBlank ' ' := by decide
  rw [Text.trimStart, List.dropWhile_cons_of_pos hblank]
  exact trimStart_padded _ _ _

include hhour hminute

/-- **Behind hours and minutes, seconds are tried first, and then nothing.** -/
theorem findSome?_timeLayouts {divider : Char} (hdivider : divider = 'T' ∨ divider = ' ')
    (more : List Char) :
    (timeLayouts.findSome? fun layout =>
        (layout.read? f (divider :: timeChars hour minute more)).bind atEnd?) =
      ((secondsOnly.read? { f with hour := hour, minute := minute } more).bind atEnd?).or
        (atEnd? ({ f with hour := hour, minute := minute }, more)) := by
  have hsecond : ∀ s, secondLayout.read? f s =
      (minuteLayout.read? f s).bind fun p => secondsOnly.read? p.1 p.2 := fun s =>
    Layout.read?_append minuteLayout secondsOnly f s
  have hread := read?_minuteLayout f hhour hminute more
  rcases hdivider with rfl | rfl
  · simp only [timeLayouts, List.findSome?_cons, List.findSome?_nil, Layout.read?, Part.read?,
      expect?, hsecond, hread, minuteLayout_mark, Option.bind_eq_bind, Option.bind_some,
      Option.map_some, if_true, Option.bind_none, atEnd?_cons]
    generalize (secondsOnly.read? _ more).bind atEnd? = a
    generalize atEnd? _ = b
    cases a <;> cases b <;> rfl
  · have hmark : ('T' = ' ') = False := by decide
    simp only [timeLayouts, List.findSome?_cons, List.findSome?_nil, Layout.read?, Part.read?,
      expect?, hsecond, hread, trimStart_timeChars, hmark, Option.bind_eq_bind, Option.bind_some,
      Option.map_none, if_false, Option.bind_none, atEnd?_cons]
    generalize (secondsOnly.read? _ more).bind atEnd? = a
    generalize atEnd? _ = b
    cases a <;> cases b <;> rfl

end Time

end Daybook.Calendar
