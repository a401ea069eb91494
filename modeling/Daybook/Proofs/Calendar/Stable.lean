import Daybook.Proofs.Calendar.Layout
import Mathlib.Data.List.Induction

/-!
# Normalizing twice

What is normalized is an instant that was read, and of an instant that was read at most one second
is a leap second, the last of a minute (**`isRead_of_ofJson?`**). Its normal form is read back if its year has four digits.
If not, the year carries a sign: the layout with a zone then fails at the sign and the zone-less
layouts fail at the zone (**`readText?_format_of_year`**). So to normalize a date twice is to
normalize it once for the years from 0 to 9999, and gives nothing for the others
(**`normalize?_format`**).
-/

namespace Daybook.Calendar

open Instant

-- Powers are those of the core library.
attribute [local instance (high)] instPowNat instNatPowNat Int.instNatPow

/-! ## The instants that are read -/

theorem numberOf_lt {ds : List Char} (h : ∀ c ∈ ds, c.isDigit) :
    numberOf ds < 10 ^ ds.length := by
  induction ds using List.reverseRecOn with
  | nil => decide
  | append_singleton ds c ih =>
    have hds : numberOf ds < 10 ^ ds.length := ih fun d hd => h d (by simp [hd])
    have hc : c.toNat ≤ 57 := by
      have hdigit := h c (by simp)
      simp only [Char.isDigit, Bool.and_eq_true, decide_eq_true_eq] at hdigit
      exact hdigit.2
    rw [numberOf_append, List.length_append, List.length_singleton, Nat.pow_succ]
    simp only [List.foldl_cons, List.foldl_nil]
    omega

/-- A fraction is less than a second. -/
theorem nanos_of_readFraction? {s rest : List Char} {n : Nat}
    (h : readFraction? s = some (n, rest)) : n < 1000000000 := by
  have hdigits : ∀ {s rest : List Char} {n : Nat}, readNanos? s = some (n, rest) →
      n < 1000000000 := by
    intro s rest n h
    unfold readNanos? at h
    dsimp only at h
    split_ifs at h
    rw [Option.some.injEq, Prod.mk.injEq] at h
    have hkept : ∀ c ∈ (s.takeWhile Char.isDigit).take 9, c.isDigit := fun c hc =>
      List.mem_takeWhile_imp (List.mem_of_mem_take hc)
    have hlength : ((s.takeWhile Char.isDigit).take 9).length ≤ 9 := List.length_take_le _ _
    have hlt := numberOf_lt hkept
    have hnine : 10 ^ ((s.takeWhile Char.isDigit).take 9).length *
        10 ^ (9 - ((s.takeWhile Char.isDigit).take 9).length) = 1000000000 := by
      rw [← Nat.pow_add, Nat.add_sub_cancel' hlength]
    rw [← h.1, ← hnine]
    exact Nat.mul_lt_mul_of_pos_right hlt (Nat.pow_pos (by decide))
  unfold readFraction? at h
  split at h
  · exact hdigits h
  · simp at h
    omega

/-- The instant is one that can be read: a leap second is one second, and the last of a minute. -/
structure Instant.IsRead (t : Instant) : Prop where
  nanos : t.nanos < 2000000000
  leap : 1000000000 ≤ t.nanos → t.seconds % 60 = 59

theorem isRead_of_toInstant? {f : Fields} {offset : Int} {t : Instant}
    (h : f.toInstant? offset = some t) (hf : f.nanos < 1000000000) (hoffset : offset % 60 = 0) :
    t.IsRead := by
  unfold Fields.toInstant? at h
  dsimp only at h
  split_ifs at h
  all_goals
    obtain rfl := Option.some.inj h
    constructor <;> dsimp only <;> omega

/-- A zone is so many minutes ahead or behind. -/
theorem minutes_of_readOffset? {s : List Char} {p : Int × List Char} (h : readOffset? s = some p) :
    p.1 % 60 = 0 := by
  unfold readOffset? at h
  split at h
  · split_ifs at h
    · obtain rfl := Option.some.inj h
      rfl
    all_goals
      obtain ⟨hours, -, h⟩ := Option.bind_eq_some_iff.1 h
      obtain ⟨rest, -, h⟩ := Option.bind_eq_some_iff.1 h
      obtain ⟨minutes, -, h⟩ := Option.bind_eq_some_iff.1 h
      dsimp only at h
      split_ifs at h
      obtain rfl := Option.some.inj h
      dsimp only
      omega
  · exact nomatch h

theorem isRead_of_readEnd? {f : Fields} {s : List Char} {t : Instant} (h : readEnd? f s = some t) :
    t.IsRead := by
  obtain ⟨fraction, hfraction, h⟩ := Option.bind_eq_some_iff.1 h
  obtain ⟨offset, hoffset, h⟩ := Option.bind_eq_some_iff.1 h
  split_ifs at h
  exact isRead_of_toInstant? h (nanos_of_readFraction? hfraction) (minutes_of_readOffset? hoffset)

theorem isRead_of_readZoned? {s : List Char} {t : Instant} (h : readZoned? s = some t) :
    t.IsRead := by
  rw [readZoned?_eq] at h
  obtain ⟨year, -, h⟩ := Option.bind_eq_some_iff.1 h
  obtain ⟨_, -, h⟩ := Option.bind_eq_some_iff.1 h
  obtain ⟨month, -, h⟩ := Option.bind_eq_some_iff.1 h
  obtain ⟨_, -, h⟩ := Option.bind_eq_some_iff.1 h
  obtain ⟨day, -, h⟩ := Option.bind_eq_some_iff.1 h
  obtain ⟨_, -, h⟩ := Option.bind_eq_some_iff.1 h
  obtain ⟨hour, -, h⟩ := Option.bind_eq_some_iff.1 h
  obtain ⟨_, -, h⟩ := Option.bind_eq_some_iff.1 h
  obtain ⟨minute, -, h⟩ := Option.bind_eq_some_iff.1 h
  obtain ⟨_, -, h⟩ := Option.bind_eq_some_iff.1 h
  obtain ⟨second, -, h⟩ := Option.bind_eq_some_iff.1 h
  exact isRead_of_readEnd? h

/-- A part reads less than a second, if it reads a fraction at all. -/
theorem nanos_of_partRead? {part : Part} {f : Fields} {s : List Char} {p : Fields × List Char}
    (h : part.read? f s = some p) (hf : f.nanos < 1000000000) : p.1.nanos < 1000000000 := by
  cases part with
  | fraction =>
    obtain ⟨q, hq, rfl⟩ := Option.map_eq_some_iff.1 h
    exact nanos_of_readFraction? hq
  | gap =>
    obtain rfl := Option.some.inj h
    exact hf
  | _ =>
    obtain ⟨q, -, rfl⟩ := Option.map_eq_some_iff.1 h
    exact hf

theorem nanos_of_layoutRead? {layout : Layout} {f : Fields} {s : List Char}
    {p : Fields × List Char} (h : layout.read? f s = some p) (hf : f.nanos < 1000000000) :
    p.1.nanos < 1000000000 := by
  induction layout generalizing f s with
  | nil =>
    obtain rfl := Option.some.inj h
    exact hf
  | cons part layout ih =>
    obtain ⟨q, hq, hrest⟩ := Option.bind_eq_some_iff.1 h
    exact ih hrest (nanos_of_partRead? hq hf)

theorem isRead_of_readText? {s : String} {t : Instant} (h : readText? s = some t) :
    t.IsRead := by
  unfold readText? readChars? at h
  cases hzoned : readZoned? (Text.trimEnd (Text.trimStart s.toList)) with
  | some u =>
    rw [hzoned] at h
    obtain rfl := Option.some.inj h
    exact isRead_of_readZoned? hzoned
  | none =>
    rw [hzoned] at h
    obtain ⟨layout, -, hlayout⟩ := List.exists_of_findSome?_eq_some h
    obtain ⟨⟨f, rest⟩, hread, hend⟩ := Option.bind_eq_some_iff.1 hlayout
    dsimp only at hend
    split_ifs at hend
    exact isRead_of_toInstant? hend (nanos_of_layoutRead? hread (by decide)) rfl

/-- **Of an instant that is read at most one second is a leap second, the last of a minute.** -/
theorem isRead_of_ofJson? {v : Json} {t : Instant} (h : Instant.ofJson? v = some t) :
    t.IsRead := by
  unfold Instant.ofJson? at h
  split at h
  · exact isRead_of_readText? h
  · obtain ⟨millis, -, hmillis⟩ := Option.bind_eq_some_iff.1 h
    unfold Instant.ofMillis? at hmillis
    dsimp only at hmillis
    split_ifs at hmillis
    obtain rfl := Option.some.inj hmillis
    constructor <;> dsimp only <;> omega

theorem nanos_of_ofJson? {v : Json} {t : Instant} (h : Instant.ofJson? v = some t) :
    t.nanos < 2000000000 := (isRead_of_ofJson? h).nanos

/-! ## Years of more than four digits -/

section Format

variable {t : Instant} (hleap : t.nanos < 2000000000)

/-- The normal form is a full date, and a full time with a zone. -/
theorem formatChars_eq_dateChars (t : Instant) :
    t.formatChars = dateChars t.date.year t.date.month t.date.day ++
      'T' :: timeChars (t.secondOfDay / 3600) (t.secondOfDay / 60 % 60)
        (':' :: (padded 2 (t.secondOfDay % 60 + t.nanos / 1000000000) ++
          (fractionChars true (t.nanos % 1000000000 / 1000000) ++ ['Z']))) := by
  simp [formatChars, dateChars, timeChars, fractionChars]

theorem trim_format (t : Instant) :
    Text.trimEnd (Text.trimStart t.format.toList) = t.formatChars := by
  have hstart : Text.trimStart (t.formatChars ++ []) = t.formatChars ++ [] := by
    simp [formatChars]
  have hend : IsSolid t.formatChars := ⟨_, 'Z', rfl, by decide⟩
  have htrim : Text.trimEnd (Text.trimStart ([] ++ t.formatChars ++ [])) = t.formatChars :=
    trim_blanks (by simp) (by simp) hstart hend
  simpa [format] using htrim

/-- With a sign before the year, the layout with a zone fails at the sign. -/
theorem readZoned?_of_year (hyear : t.date.year < 0 ∨ 9999 < t.date.year) :
    readZoned? t.formatChars = none := by
  have hfour : ¬ (0 ≤ t.date.year ∧ t.date.year ≤ 9999) := by omega
  have hnone : ∀ s, readDigits? 4 4 (formatYear t.date.year ++ s) = none := by
    intro s
    refine readDigits?_of_ends ?_
    unfold formatYear
    split_ifs <;> simp
  rw [readZoned?_eq, formatChars_eq_dateChars, dateChars]
  simp only [List.append_assoc, hnone, Option.bind_none]

include hleap

/-- In the zone-less layouts, the zone is left over. -/
theorem findSome?_layouts_formatChars :
    layouts.findSome? (fun layout => layout.instant? t.formatChars) = none := by
  obtain ⟨-, hmonth', -, hday'⟩ := Date.month_ofDays t.day
  have hmonth : t.date.month < 100 := Nat.lt_of_le_of_lt hmonth' (by decide)
  have hday : t.date.day < 100 :=
    Nat.lt_of_le_of_lt (hday'.trans (Date.daysInMonth_le _ _)) (by decide)
  have hsecond := t.secondOfDay_lt
  rw [formatChars_eq_dateChars, findSome?_layouts_date _ hmonth hday,
    findSome?_timeLayouts _ (by omega) (by omega) (.inl rfl),
    read?_secondsOnly (by omega) (by simp) (by simp) (by simp) _ (by omega)]
  simp

theorem readText?_format_of_year (hyear : t.date.year < 0 ∨ 9999 < t.date.year) :
    readText? t.format = none := by
  rw [readText?, trim_format, readChars?_of_zoneless (readZoned?_of_year hyear),
    findSome?_layouts_formatChars hleap]

end Format

/-! ## Normalizing twice -/

/-- **To normalize a date twice is to normalize it once for the years from 0 to 9999, and gives
nothing for the others.** -/
theorem normalize?_format {v : Json} {t : Instant} (h : Instant.ofJson? v = some t) :
    normalize? v = some t.format ∧
      normalize? (.str t.format) =
        if 0 ≤ t.date.year ∧ t.date.year ≤ 9999 then some t.format else none := by
  have hleap := nanos_of_ofJson? h
  refine ⟨by rw [normalize?, h, Option.map_some], ?_⟩
  split_ifs with hyear
  · exact normalize?_of_isNormal ⟨t, ⟨hyear.1, hyear.2, hleap⟩, rfl⟩
  · have hnone : readText? t.format = none := readText?_format_of_year hleap (by omega)
    rw [normalize?, Instant.ofJson?, hnone, Option.map_none]

/-- The first millisecond of the year 10000 is normalized, and its normal form is not. -/
theorem normalize?_tenThousand :
    Instant.ofJson? (.int 253402300800000) = some ⟨253402300800, 0⟩ ∧
      normalize? (.int 253402300800000) = some "+10000-01-01T00:00:00.000Z" ∧
      normalize? (.str "+10000-01-01T00:00:00.000Z") = none := by
  have hread : Instant.ofJson? (.int 253402300800000) = some ⟨253402300800, 0⟩ := by
    decide +kernel
  have hformat : Instant.format ⟨253402300800, 0⟩ = "+10000-01-01T00:00:00.000Z" := by
    decide +kernel
  have hyear : ¬ (0 ≤ (Instant.mk 253402300800 0).date.year ∧
      (Instant.mk 253402300800 0).date.year ≤ 9999) := by decide +kernel
  obtain ⟨hfirst, hagain⟩ := normalize?_format hread
  rw [if_neg hyear] at hagain
  rw [hformat] at hfirst hagain
  exact ⟨hread, hfirst, hagain⟩

/-- A date that is normalized need not stay as it is. -/
theorem not_forall_normalize?_stable :
    ¬ ∀ (v : Json) (text : String), normalize? v = some text →
      normalize? (.str text) = some text := by
  intro hstable
  have hfirst : normalize? (.int 253402300800000) = some "+10000-01-01T00:00:00.000Z" := by
    decide +kernel
  have hagain : normalize? (.str "+10000-01-01T00:00:00.000Z") = none := by decide +kernel
  have := hstable _ _ hfirst
  rw [hagain] at this
  exact absurd this (by simp)

end Daybook.Calendar
