import Daybook.Proofs.Calendar.Layout

/-!
# One instant in all forms

A date and a time of day can be written with a zone, without one, to the minute, as a date alone and
with the day first. All of it is read by its own layout, and by no layout that is tried before it or
after it (**`readChars?_chars`**). So the forms of one instant are all normalized to the one text of
that instant, as is its count of milliseconds, and what names no day or no time of a day is
normalized in none of them (**`normalize?_chars`**).

* `Civil`, `Civil.IsWritable`, `Civil.Exists`: a date and a time of day, with fields that fit their
  places, and with fields that name a day and a time of it;
* `Form`, `Form.chars`, `Form.Expresses`: the forms, their texts, and what a form can say;
* `Civil.instant`, **`format_instant`**: the instant in universal time, and its text.
-/

namespace Daybook.Calendar

open Instant

-- Powers are those of the core library.
attribute [local instance (high)] instPowNat instNatPowNat Int.instNatPow

/-! ## Dates and times of day -/

/-- A date and a time of day to the millisecond. -/
structure Civil where
  date : Date
  hour : Nat
  minute : Nat
  second : Nat
  millis : Nat
  deriving DecidableEq, Repr

namespace Civil

/-- Every field fits its place: four digits for the year, three for the milliseconds and two for
the others. The seconds are those of a minute. -/
structure IsWritable (x : Civil) : Prop where
  notBefore : 0 ≤ x.date.year
  notAfter : x.date.year ≤ 9999
  month : x.date.month < 100
  day : x.date.day < 100
  hour : x.hour < 100
  minute : x.minute < 100
  second : x.second < 60
  millis : x.millis < 1000

/-- The month has the day, and the day the hour and the minute. -/
structure Exists (x : Civil) : Prop where
  one : 1 ≤ x.date.day
  day : x.date.day ≤ daysInMonth x.date.year x.date.month
  hour : x.hour < 24
  minute : x.minute < 60

/-- The milliseconds since the start of 1970, if the date and the time are universal. -/
def epochMillis (x : Civil) : Int :=
  (x.date.toDays * 86400 + x.hour * 3600 + x.minute * 60 + x.second) * 1000 + x.millis

/-- `2024-03-05T10:20:30.123Z` -/
def text (x : Civil) : String :=
  String.ofList (padded 4 x.date.year.natAbs ++ '-' :: padded 2 x.date.month ++
    '-' :: padded 2 x.date.day ++ 'T' :: padded 2 x.hour ++ ':' :: padded 2 x.minute ++
    ':' :: padded 2 x.second ++ '.' :: padded 3 x.millis ++ ['Z'])

/-- The instant, if the date and the time are universal. -/
def instant (x : Civil) : Instant :=
  ⟨x.date.toDays * 86400 + x.hour * 3600 + x.minute * 60 + x.second, x.millis * 1000000⟩

/-- The fields of a layout. -/
def fields (x : Civil) : Fields :=
  ⟨x.date.year, x.date.month, x.date.day, x.hour, x.minute, x.second, x.millis * 1000000⟩

end Civil

/-! ## Forms -/

/-- The zone of a time: universal time, or a local time so many hours and minutes ahead of it or
behind it. -/
inductive Zone where
  | utc
  | ahead (hours : Fin 24) (minutes : Fin 60)
  | behind (hours : Fin 24) (minutes : Fin 60)
  deriving DecidableEq, Repr

namespace Zone

/-- The seconds by which local time is ahead. -/
def seconds : Zone → Int
  | utc => 0
  | ahead hours minutes => (hours : Nat) * 3600 + (minutes : Nat) * 60
  | behind hours minutes => -((hours : Nat) * 3600 + (minutes : Nat) * 60)

/-- `Z`, `+07:00` or `-03:30` -/
def chars : Zone → List Char
  | utc => ['Z']
  | ahead hours minutes => '+' :: padded 2 hours ++ ':' :: padded 2 minutes
  | behind hours minutes => '-' :: padded 2 hours ++ ':' :: padded 2 minutes

end Zone

/-- What stands between a date and a time. -/
inductive Divider where
  | mark
  | gap
  deriving DecidableEq, Repr

/-- `T` or a blank -/
def Divider.char : Divider → Char
  | mark => 'T'
  | gap => ' '

/-- The ways to write a date and a time of day. -/
inductive Form where
  /-- `2024-03-05T10:20:30.123+07:00`, with or without the fraction -/
  | zoned (divider : Divider) (fraction : Bool) (zone : Zone)
  /-- `2024-03-05T10:20:30.123`, with or without the fraction -/
  | seconds (divider : Divider) (fraction : Bool)
  /-- `2024-03-05T10:20` -/
  | minutes (divider : Divider)
  /-- `2024-03-05` -/
  | date
  /-- `05/03/2024` -/
  | dayFirst
  deriving DecidableEq, Repr

namespace Form

/-- The text of a date and a time of day. -/
def chars (form : Form) (x : Civil) : List Char :=
  let day := padded 4 x.date.year.natAbs ++ '-' :: padded 2 x.date.month ++
    '-' :: padded 2 x.date.day
  let time := padded 2 x.hour ++ ':' :: padded 2 x.minute
  let second := ':' :: padded 2 x.second
  match form with
  | .zoned divider fraction zone =>
    day ++ divider.char :: time ++ second ++ fractionChars fraction x.millis ++ zone.chars
  | .seconds divider fraction =>
    day ++ divider.char :: time ++ second ++ fractionChars fraction x.millis
  | .minutes divider => day ++ divider.char :: time
  | .date => day
  | .dayFirst =>
    padded 2 x.date.day ++ '/' :: padded 2 x.date.month ++ '/' :: padded 4 x.date.year.natAbs

/-- What the form leaves out is zero. -/
def Expresses (form : Form) (x : Civil) : Prop :=
  match form with
  | .zoned _ fraction _ | .seconds _ fraction => fraction = false → x.millis = 0
  | .minutes _ => x.second = 0 ∧ x.millis = 0
  | .date | .dayFirst => x.hour = 0 ∧ x.minute = 0 ∧ x.second = 0 ∧ x.millis = 0

/-- The seconds by which the time is ahead of universal time. -/
def offset : Form → Int
  | .zoned _ _ zone => zone.seconds
  | _ => 0

end Form

/-! ## Dividers and zones -/

theorem Divider.char_eq (divider : Divider) : divider.char = 'T' ∨ divider.char = ' ' := by
  cases divider <;> simp [Divider.char]

theorem readDivider?_char (divider : Divider) (rest : List Char) :
    readDivider? (divider.char :: rest) = some rest := by
  cases divider <;> rfl

/-- A zone is read as it is written. -/
theorem readOffset?_chars (zone : Zone) : readOffset? zone.chars = some (zone.seconds, []) := by
  have hend : ∀ {n : Nat}, n < 100 → readDigits? 2 2 (padded 2 n) = some (n, []) := by
    intro n hn
    have hread := readDigits?_full hn []
    rwa [List.append_nil] at hread
  have hlocal : ∀ (hours : Fin 24) (minutes : Fin 60), (hours : Nat) ≤ 23 ∧ (minutes : Nat) ≤ 59 :=
    fun hours minutes => ⟨Nat.le_of_lt_succ hours.isLt, Nat.le_of_lt_succ minutes.isLt⟩
  cases zone with
  | utc => rfl
  | ahead hours minutes | behind hours minutes =>
    have hzone := hlocal hours minutes
    simp [Zone.chars, Zone.seconds, readOffset?, expect?, readDigits?_full (n := hours) (by omega),
      hend (n := minutes) (by omega), hzone]

theorem ends_zone (zone : Zone) : Ends zone.chars ∧ '.' ∉ zone.chars.head? ∧ zone.chars ≠ [] := by
  cases zone <;> simp [Zone.chars]

/-! ## Reading the forms -/

section Read

variable {x : Civil} (hx : x.IsWritable)

include hx

/-- A year of four digits has no sign. -/
theorem formatYear_of_isWritable : formatYear x.date.year = padded 4 x.date.year.natAbs := by
  rw [formatYear, if_pos ⟨hx.notBefore, hx.notAfter⟩]

theorem readZoned?_dateChars (tail : List Char) :
    readZoned? (dateChars x.date.year x.date.month x.date.day ++ tail) =
      (readDivider? tail).bind fun s =>
        readTime? { year := x.date.year, month := x.date.month, day := x.date.day } s :=
  readZoned?_date hx.notBefore hx.notAfter hx.month hx.day tail

/-- With a zone, what follows the seconds is a fraction and the zone. -/
theorem readZoned?_seconds (divider : Divider) (more : List Char) :
    readZoned? (dateChars x.date.year x.date.month x.date.day ++
        divider.char :: timeChars x.hour x.minute (':' :: (padded 2 x.second ++ more))) =
      readEnd? { x.fields with nanos := 0 } more := by
  have hsecond : x.second < 100 := Nat.lt_trans hx.second (by decide)
  have hexpect : ∀ c rest, expect? c (c :: rest) = some rest := fun c rest => if_pos rfl
  rw [readZoned?_dateChars hx, readDivider?_char, Option.bind_some,
    readTime?_timeChars _ hx.hour hx.minute, hexpect, Option.bind_some, readDigits?_full hsecond,
    Option.bind_some]
  rfl

/-- Without seconds there is no zone. -/
theorem readZoned?_minutes (divider : Divider) :
    readZoned? (dateChars x.date.year x.date.month x.date.day ++
        divider.char :: timeChars x.hour x.minute []) = none := by
  rw [readZoned?_dateChars hx, readDivider?_char, Option.bind_some,
    readTime?_timeChars _ hx.hour hx.minute]
  rfl

/-- Two digits are no year of a full date. -/
theorem readZoned?_dayFirst : readZoned? (Form.dayFirst.chars x) = none := by
  have hlength : (padded 2 x.date.day).length = 2 := length_padded (by decide) hx.day
  have hfew : ∀ rest, readDigits? 4 4 (padded 2 x.date.day ++ '/' :: rest) = none := fun rest =>
    readDigits?_of_few isDigit_of_mem_padded (by omega) (by omega) (by simp)
  rw [readZoned?_eq, Form.chars]
  simp only [List.append_assoc, List.cons_append, hfew, Option.bind_none]

/-- Behind a date and a time to the minute, the layouts without a zone read seconds, or nothing. -/
theorem findSome?_layouts_timed (divider : Divider) (more : List Char) :
    layouts.findSome? (fun layout => layout.instant?
        (dateChars x.date.year x.date.month x.date.day ++
          divider.char :: timeChars x.hour x.minute more)) =
      ((secondsOnly.read? { x.fields with second := 0, nanos := 0 } more).bind atEnd?).or
        (atEnd? ({ x.fields with second := 0, nanos := 0 }, more)) := by
  rw [findSome?_layouts_date _ hx.month hx.day,
    findSome?_timeLayouts _ hx.hour hx.minute divider.char_eq]
  rfl

/-- With a zone, no other layout reads what the layouts with a zone leave. -/
theorem readChars?_zoned (divider : Divider) {fraction : Bool} (zone : Zone)
    (hmillis : fraction = false → x.millis = 0) :
    readChars? ((Form.zoned divider fraction zone).chars x) =
      x.fields.toInstant? zone.seconds := by
  have hsecond : x.second < 100 := Nat.lt_trans hx.second (by decide)
  have hchars : (Form.zoned divider fraction zone).chars x =
      dateChars x.date.year x.date.month x.date.day ++ divider.char ::
        timeChars x.hour x.minute (':' :: (padded 2 x.second ++
          (fractionChars fraction x.millis ++ zone.chars))) := by
    simp [Form.chars, dateChars, timeChars, formatYear_of_isWritable hx]
  obtain ⟨hends, hpoint, hne⟩ := ends_zone zone
  obtain ⟨c, rest, hzone⟩ := List.exists_cons_of_ne_nil hne
  have hlayouts : layouts.findSome?
      (fun layout => layout.instant? ((Form.zoned divider fraction zone).chars x)) = none := by
    rw [hchars, findSome?_layouts_timed hx,
      read?_secondsOnly hx.millis hmillis hends hpoint _ hsecond, hzone]
    simp
  have hzoned : readZoned? ((Form.zoned divider fraction zone).chars x) =
      x.fields.toInstant? zone.seconds := by
    rw [hchars, readZoned?_seconds hx, readEnd?,
      readFraction?_fractionChars hx.millis hmillis hends hpoint, Option.bind_some,
      readOffset?_chars]
    rfl
  rw [readChars?, hzoned, hlayouts]
  cases x.fields.toInstant? zone.seconds <;> rfl

theorem readChars?_seconds (divider : Divider) {fraction : Bool}
    (hmillis : fraction = false → x.millis = 0) :
    readChars? ((Form.seconds divider fraction).chars x) = x.fields.toInstant? 0 := by
  have hsecond : x.second < 100 := Nat.lt_trans hx.second (by decide)
  have hchars : (Form.seconds divider fraction).chars x =
      dateChars x.date.year x.date.month x.date.day ++ divider.char ::
        timeChars x.hour x.minute (':' :: (padded 2 x.second ++
          (fractionChars fraction x.millis ++ []))) := by
    simp [Form.chars, dateChars, timeChars, formatYear_of_isWritable hx]
  have hzoned : readZoned? ((Form.seconds divider fraction).chars x) = none := by
    rw [hchars, readZoned?_seconds hx, readEnd?,
      readFraction?_fractionChars hx.millis hmillis ends_nil (by simp)]
    rfl
  rw [readChars?_of_zoneless hzoned, hchars, findSome?_layouts_timed hx,
    read?_secondsOnly hx.millis hmillis ends_nil (by simp) _ hsecond]
  simp [Civil.fields]

theorem readChars?_minutes (divider : Divider) (hsecond : x.second = 0) (hmillis : x.millis = 0) :
    readChars? ((Form.minutes divider).chars x) = x.fields.toInstant? 0 := by
  have hchars : (Form.minutes divider).chars x =
      dateChars x.date.year x.date.month x.date.day ++
        divider.char :: timeChars x.hour x.minute [] := by
    simp [Form.chars, dateChars, timeChars, formatYear_of_isWritable hx]
  rw [hchars, readChars?_of_zoneless (readZoned?_minutes hx divider), findSome?_layouts_timed hx]
  simp [secondsOnly, Layout.read?, Part.read?, expect?, Civil.fields, hsecond, hmillis]

theorem readChars?_date (hhour : x.hour = 0) (hminute : x.minute = 0) (hsecond : x.second = 0)
    (hmillis : x.millis = 0) : readChars? (Form.date.chars x) = x.fields.toInstant? 0 := by
  have hchars : Form.date.chars x = dateChars x.date.year x.date.month x.date.day ++ [] := by
    simp [Form.chars, dateChars, formatYear_of_isWritable hx]
  have hzoned := readZoned?_dateChars hx []
  rw [hchars, readChars?_of_zoneless hzoned, findSome?_layouts_date _ hx.month hx.day,
    findSome?_timeLayouts_nil]
  simp [Civil.fields, hhour, hminute, hsecond, hmillis]

theorem readChars?_dayFirst (hhour : x.hour = 0) (hminute : x.minute = 0) (hsecond : x.second = 0)
    (hmillis : x.millis = 0) : readChars? (Form.dayFirst.chars x) = x.fields.toInstant? 0 := by
  have hchars : Form.dayFirst.chars x = padded 2 x.date.day ++
      '/' :: (padded 2 x.date.month ++ '/' :: (padded 4 x.date.year.natAbs ++ [])) := by
    simp [Form.chars]
  have hfour : x.date.year.natAbs < 10000 := by
    have := hx.notBefore
    have := hx.notAfter
    omega
  have hread : readYear? (padded 4 x.date.year.natAbs ++ []) = some (x.date.year, []) := by
    rw [readYear?_padded (by decide) (by decide) hfour (.inl rfl),
      Int.natAbs_of_nonneg hx.notBefore]
  have hstart := trimStart_padded 4 x.date.year.natAbs []
  rw [readChars?_of_zoneless (readZoned?_dayFirst hx), hchars,
    findSome?_layouts_dayFirst hx.day, Layout.instant?_eq]
  simp only [dayFirstLayout, Layout.read?, Part.read?, trimStart_padded, readDigits?_two hx.day,
    readDigits?_two hx.month, expect?, hstart, hread, Option.map_some, Option.bind_eq_bind,
    Option.bind_some, if_true, atEnd?_nil, Civil.fields, hhour, hminute, hsecond, hmillis,
    Nat.zero_mul]

/-- **Every form is read by its own layout and no other.** -/
theorem readChars?_chars (form : Form) (hform : form.Expresses x) :
    readChars? (form.chars x) = x.fields.toInstant? form.offset := by
  cases form with
  | zoned divider fraction zone => exact readChars?_zoned hx divider zone hform
  | seconds divider fraction => exact readChars?_seconds hx divider hform
  | minutes divider => exact readChars?_minutes hx divider hform.1 hform.2
  | date =>
    obtain ⟨hhour, hminute, hsecond, hmillis⟩ := hform
    exact readChars?_date hx hhour hminute hsecond hmillis
  | dayFirst =>
    obtain ⟨hhour, hminute, hsecond, hmillis⟩ := hform
    exact readChars?_dayFirst hx hhour hminute hsecond hmillis

end Read

/-- Blanks around a form do not count. -/
theorem trim_chars (form : Form) (x : Civil) {before after : List Char}
    (hbefore : ∀ c ∈ before, Text.isBlank c) (hafter : ∀ c ∈ after, Text.isBlank c) :
    Text.trimEnd (Text.trimStart (before ++ form.chars x ++ after)) = form.chars x := by
  refine trim_blanks hbefore hafter ?_ ?_
  · cases form <;> simp [Form.chars]
  · have htwo := fun n => IsSolid.padded 2 n
    have hfraction : ∀ fraction s, IsSolid (s ++ ':' :: padded 2 x.second ++
        fractionChars fraction x.millis) := by
      intro fraction s
      cases fraction with
      | false =>
        rw [fractionChars, if_neg (by simp), List.append_nil]
        exact ((htwo _).cons ':').append s
      | true => exact ((IsSolid.padded 3 _).cons '.').append _
    cases form with
    | zoned divider fraction zone =>
      refine IsSolid.append ?_ _
      cases zone with
      | utc => exact ⟨[], 'Z', rfl, by decide⟩
      | ahead hours minutes | behind hours minutes => exact ((htwo _).cons ':').append _
    | seconds divider fraction =>
      have hsolid := hfraction fraction (padded 4 x.date.year.natAbs ++
        '-' :: padded 2 x.date.month ++ '-' :: padded 2 x.date.day ++
        divider.char :: padded 2 x.hour ++ ':' :: padded 2 x.minute)
      simpa [Form.chars] using hsolid
    | minutes divider => exact ((htwo _).cons ':').append _ |>.cons _ |>.append _
    | date => exact ((htwo _).cons '-').append _
    | dayFirst => exact ((IsSolid.padded 4 _).cons '/').append _

/-! ## Instants -/

/-- What names no day or no time of a day is no instant. -/
theorem toInstant?_of_not_exists {x : Civil} (h : ¬ x.Exists) (offset : Int) :
    x.fields.toInstant? offset = none := by
  refine if_neg ?_
  rintro ⟨⟨-, -, hone, hday⟩, hhour, hminute, -⟩
  exact h ⟨hone, hday, Nat.lt_succ_of_le hhour, Nat.lt_succ_of_le hminute⟩

section Instants

variable {x y : Civil} (hx : x.IsWritable) (hreal : x.Exists)
include hx hreal

/-- Local time is read as the instant in universal time. -/
theorem toInstant?_fields (hy : y.IsWritable) {offset : Int}
    (h : x.epochMillis = y.epochMillis + offset * 1000) :
    x.fields.toInstant? offset = some y.instant := by
  have hzero := hx.notBefore
  have hfour := hx.notAfter
  have hdate : (⟨x.date.year, x.date.month, x.date.day⟩ : Date) = x.date := rfl
  have hvalid : x.date.IsValid :=
    ⟨by rw [minYear]; omega, by rw [maxYear]; omega, hreal.one, hreal.day⟩
  have hsecond := hx.second
  have hmillis := hx.millis
  have hmillis' := hy.millis
  have hhour := hreal.hour
  have hminute := hreal.minute
  unfold Civil.epochMillis at h
  unfold Fields.toInstant? Civil.fields Civil.instant
  dsimp only
  rw [hdate, if_pos ⟨hvalid, by omega, by omega, by omega⟩, if_neg (by omega), if_neg (by omega),
    Option.some.injEq, Instant.mk.injEq]
  omega

theorem date_instant : x.instant.date = x.date := by
  have hsecond := hx.second
  have hhour := hreal.hour
  have hminute := hreal.minute
  have hday : x.instant.day = x.date.toDays := by
    unfold Civil.instant Instant.day
    dsimp only
    omega
  rw [Instant.date, hday, Date.ofDays_toDays hreal.one hreal.day]

/-- **The normal form of the instant shows the date and the time.** -/
theorem format_instant : x.instant.format = x.text := by
  have hsecond := hx.second
  have hmillis := hx.millis
  have hhour := hreal.hour
  have hminute := hreal.minute
  have htime : x.instant.secondOfDay = x.hour * 3600 + x.minute * 60 + x.second := by
    unfold Civil.instant Instant.secondOfDay
    dsimp only
    omega
  have hhour' : x.instant.secondOfDay / 3600 = x.hour := by omega
  have hminute' : x.instant.secondOfDay / 60 % 60 = x.minute := by omega
  have hsecond' : x.instant.secondOfDay % 60 + x.instant.nanos / 1000000000 = x.second := by
    rw [Civil.instant] at htime ⊢
    dsimp only at htime ⊢
    omega
  have hmillis' : x.instant.nanos % 1000000000 / 1000000 = x.millis := by
    rw [Civil.instant]
    dsimp only
    omega
  unfold Instant.format Instant.formatChars Civil.text
  dsimp only
  rw [date_instant hx hreal, formatYear_of_isWritable hx, hhour', hminute', hsecond', hmillis']

/-- The instant is that of its milliseconds. -/
theorem ofMillis?_epochMillis : Instant.ofMillis? x.epochMillis = some x.instant := by
  have hmillis := hx.millis
  have hinstant : (⟨x.epochMillis / 1000, (x.epochMillis % 1000).toNat * 1000000⟩ : Instant) =
      x.instant := by
    unfold Civil.epochMillis Civil.instant
    rw [Instant.mk.injEq]
    omega
  have hyear : minYear ≤ x.instant.date.year ∧ x.instant.date.year ≤ maxYear := by
    have hzero := hx.notBefore
    have hfour := hx.notAfter
    rw [date_instant hx hreal, minYear, maxYear]
    omega
  unfold Instant.ofMillis?
  rw [hinstant]
  exact if_pos hyear

/-- The milliseconds are an integer of sixty-four bits. -/
theorem epochMillis_lt : x.epochMillis < 2 ^ (63 : Nat) := by
  have hyear := Date.daysBeforeYear_mono hx.notAfter
  have hbound : Date.daysBeforeYear 9999 = 3651694 := by decide
  have hmonths := Date.sum_take_le (monthLengths (isLeap x.date.year)) (x.date.month - 1)
  have hsecond := hx.second
  have hmillis := hx.millis
  have hday := hx.day
  have hhour := hreal.hour
  have hminute := hreal.minute
  rw [Date.sum_monthLengths] at hmonths
  unfold Civil.epochMillis Date.toDays Date.epochOffset
  split_ifs at hmonths <;> omega

end Instants

/-! ## Normalizing the forms -/

/-- **All forms of an instant are normalized to its text.** Whatever the form, blanks around it do
not count; a local time is taken back to universal time; and what names no day or no time of a day
is not normalized. -/
theorem normalize?_chars {y : Civil} (hy : y.IsWritable) (hreal : y.Exists) :
    normalize? (.int y.epochMillis) = some y.text ∧
      ∀ (form : Form) (x : Civil) (before after : List Char), (∀ c ∈ before, Text.isBlank c) →
        (∀ c ∈ after, Text.isBlank c) → x.IsWritable → form.Expresses x →
        (x.Exists → x.epochMillis = y.epochMillis + form.offset * 1000 →
          normalize? (.str (String.ofList (before ++ form.chars x ++ after))) = some y.text) ∧
        (¬ x.Exists →
          normalize? (.str (String.ofList (before ++ form.chars x ++ after))) = none) := by
  constructor
  · have hmillis : (Json.int y.epochMillis).int64? = some y.epochMillis :=
      if_pos (epochMillis_lt hy hreal)
    show ((Json.int y.epochMillis).int64?.bind Instant.ofMillis?).map Instant.format = _
    rw [hmillis, Option.bind_some, ofMillis?_epochMillis hy hreal,
      Option.map_some, format_instant hy hreal]
  · intro form x before after hbefore hafter hx hform
    have hread : readText? (String.ofList (before ++ form.chars x ++ after)) =
        x.fields.toInstant? form.offset := by
      rw [readText?, String.toList_ofList, trim_chars form x hbefore hafter,
        readChars?_chars hx form hform]
    constructor
    · intro hexists heq
      rw [normalize?, Instant.ofJson?, hread, toInstant?_fields hx hexists hy heq, Option.map_some,
        format_instant hy hreal]
    · intro hnone
      rw [normalize?, Instant.ofJson?, hread, toInstant?_of_not_exists hnone, Option.map_none]

/-- Half past eleven at night of 29 February 2024, and the same time five and a half hours ahead;
the next year has no such day. -/
theorem normalize?_leapDay :
    normalize? (.int 1709249400250) = some "2024-02-29T23:30:00.250Z" ∧
      normalize? (.str " 2024-03-01T05:00:00.250+05:30 ") = some "2024-02-29T23:30:00.250Z" ∧
      normalize? (.str "29/02/2025") = none := by
  have htext : Civil.text ⟨⟨2024, 2, 29⟩, 23, 30, 0, 250⟩ = "2024-02-29T23:30:00.250Z" := by
    decide +kernel
  have hahead : String.ofList ([' '] ++ (Form.zoned .mark true (.ahead 5 30)).chars
      ⟨⟨2024, 3, 1⟩, 5, 0, 0, 250⟩ ++ [' ']) = " 2024-03-01T05:00:00.250+05:30 " := by
    decide +kernel
  have hlater : String.ofList ([] ++ Form.dayFirst.chars ⟨⟨2025, 2, 29⟩, 0, 0, 0, 0⟩ ++ []) =
      "29/02/2025" := by
    decide +kernel
  have hexists : Civil.Exists ⟨⟨2024, 2, 29⟩, 23, 30, 0, 250⟩ := by constructor <;> decide
  have hwritable : Civil.IsWritable ⟨⟨2024, 2, 29⟩, 23, 30, 0, 250⟩ := by constructor <;> decide
  have hblank : ∀ c ∈ [' '], Text.isBlank c := by
    intro c hc
    obtain rfl := List.mem_singleton.1 hc
    decide
  obtain ⟨hmillis, hforms⟩ := normalize?_chars hwritable hexists
  have hfirst := (hforms (.zoned .mark true (.ahead 5 30)) ⟨⟨2024, 3, 1⟩, 5, 0, 0, 250⟩ [' '] [' ']
    hblank hblank (by constructor <;> decide) (by simp [Form.Expresses])).1
    (by constructor <;> decide) (by decide)
  have hnone := (hforms .dayFirst ⟨⟨2025, 2, 29⟩, 0, 0, 0, 0⟩ [] [] (by simp) (by simp)
    (by constructor <;> decide) (by simp [Form.Expresses])).2
    (fun h => absurd h.day (by decide))
  rw [htext] at hmillis hfirst
  rw [hahead] at hfirst
  rw [hlater] at hnone
  exact ⟨hmillis, hfirst, hnone⟩

end Daybook.Calendar
