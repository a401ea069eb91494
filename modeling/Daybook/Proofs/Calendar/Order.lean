import Daybook.Proofs.Calendar.Stable
import Daybook.Proofs.Sql.Order
import Mathlib.Order.Compare

/-!
# Text order is time order

In the normal form every number stands in its place and in its full width, from the year down to the
milliseconds. So two dates in the normal form are in the order of their numbers
(`compare_inPlaces`), and that is the order of their instants, cut to milliseconds, for the years
from 0 to 9999 (**`compare_format`**). To sort dates as texts is to sort them by time
(**`order_normalized`**).

* `compare_placed`: numbers in the order of their places, and then of what is left over;
* `compare_padded`: numbers of one width are in the order of their digits;
* **`compare_toDays`**: days are in the order of their dates;
* `Instant.cut`: an instant to the millisecond;
* **`Instant.format_eq_iff`**: the normal form says which millisecond it is, for all years.
-/

namespace Daybook.Calendar

open Instant hiding compare

-- Powers and sums are those of the core library.
attribute [local instance (high)] instPowNat instNatPowNat Int.instNatPow Zero.ofOfNat0

/-! ## Places -/

theorem compare_natCast (m n : Nat) : compare (m : Int) n = compare m n := by
  rcases Nat.lt_trichotomy m n with hlt | rfl | hgt
  · rw [Int.compare_eq_lt.2 (by omega), Nat.compare_eq_lt.2 hlt]
  · rw [Int.compare_eq_eq.2 rfl, Nat.compare_eq_eq.2 rfl]
  · rw [Int.compare_eq_gt.2 (by omega), Nat.compare_eq_gt.2 hgt]

theorem compare_add_left (k m n : Int) : compare (k + m) (k + n) = compare m n := by
  rcases Int.lt_trichotomy m n with hlt | rfl | hgt
  · rw [Int.compare_eq_lt.2 (by omega), Int.compare_eq_lt.2 hlt]
  · rw [Int.compare_eq_eq.2 rfl, Int.compare_eq_eq.2 rfl]
  · rw [Int.compare_eq_gt.2 (by omega), Int.compare_eq_gt.2 hgt]

/-- Places come first, and then what is left over in a place, if that does not reach the next. -/
theorem compare_placed {f : Int → Int} {p q m n : Int} (hm : 0 ≤ m) (hn : 0 ≤ n)
    (hlt : p < q → f p + m < f q) (hgt : q < p → f q + n < f p) :
    compare (f p + m) (f q + n) = (compare p q).then (compare m n) := by
  rcases Int.lt_trichotomy p q with h | rfl | h
  · have := hlt h
    rw [Int.compare_eq_lt.2 (by omega), Int.compare_eq_lt.2 h]
    rfl
  · rw [compare_add_left, Int.compare_eq_eq.2 rfl]
    rfl
  · have := hgt h
    rw [Int.compare_eq_gt.2 (by omega), Int.compare_eq_gt.2 h]
    rfl

/-- Quotients come first, and then remainders. -/
theorem compare_divMod {k : Int} (hk : 0 < k) (a b : Int) :
    compare a b = (compare (a / k) (b / k)).then (compare (a % k) (b % k)) := by
  have hnext : ∀ {p q : Int} (a : Int), p < q → k * p + a % k < k * q := by
    intro p q a h
    have hmul : k * (p + 1) ≤ k * q := Int.mul_le_mul_of_nonneg_left h (Int.le_of_lt hk)
    have hmod := Int.emod_lt_of_pos a hk
    rw [Int.mul_add] at hmul
    omega
  have hplaced := compare_placed (f := (k * ·)) (Int.emod_nonneg a (Int.ne_of_gt hk))
    (Int.emod_nonneg b (Int.ne_of_gt hk)) (hnext (p := a / k) (q := b / k) a) (hnext b)
  rwa [Int.mul_ediv_add_emod, Int.mul_ediv_add_emod] at hplaced

/-! ## Digits -/

theorem numberOf_cons (c : Char) (ds : List Char) :
    numberOf (c :: ds) = (c.toNat - 48) * 10 ^ ds.length + numberOf ds := by
  induction ds using List.reverseRecOn with
  | nil => simp [numberOf]
  | append_singleton ds d ih =>
    rw [← List.cons_append, numberOf_append, ih, numberOf_append, List.length_append,
      List.length_singleton, Nat.pow_succ]
    simp only [List.foldl_cons, List.foldl_nil]
    rw [← Nat.mul_assoc]
    omega

/-- Numbers of one width are in the order of their digits. -/
theorem compare_digits {a b : List Char} (h : a.length = b.length) (ha : ∀ c ∈ a, c.isDigit)
    (hb : ∀ c ∈ b, c.isDigit) : compare a b = compare (numberOf a) (numberOf b) := by
  induction a generalizing b with
  | nil =>
    obtain rfl := List.length_eq_zero_iff.1 h.symm
    rfl
  | cons c a ih =>
    obtain ⟨d, b, rfl⟩ := List.exists_cons_of_length_eq_add_one h.symm
    rw [List.forall_mem_cons] at ha hb
    have hlength : a.length = b.length := Nat.succ.inj h
    have hdigit : ∀ c : Char, c.isDigit → 48 ≤ c.toNat := by
      intro c hc
      rw [Char.isDigit, Bool.and_eq_true, decide_eq_true_eq] at hc
      exact hc.1
    have hc := hdigit c ha.1
    have hd := hdigit d hb.1
    have hnext : ∀ {p q : Int} {ds : List Char}, ds.length = a.length → (∀ c ∈ ds, c.isDigit) →
        p < q → p * (10 ^ a.length : Nat) + (numberOf ds : Nat) < q * (10 ^ a.length : Nat) := by
      intro p q ds hds hall hlt
      have hmul : (p + 1) * (10 ^ a.length : Nat) ≤ q * (10 ^ a.length : Nat) :=
        Int.mul_le_mul_of_nonneg_right hlt (Int.natCast_nonneg _)
      have hnumber := numberOf_lt hall
      rw [hds] at hnumber
      rw [Int.add_mul] at hmul
      omega
    have hplaced := compare_placed (f := fun p => p * (10 ^ a.length : Nat))
      (p := (c.toNat - 48 : Nat)) (q := (d.toNat - 48 : Nat)) (Int.natCast_nonneg (numberOf a))
      (Int.natCast_nonneg (numberOf b)) (hnext rfl ha.2) (hnext hlength.symm hb.2)
    have hchar : compare c d = compare (c.toNat - 48) (d.toNat - 48) := by
      rw [Char.compare_eq, ← compare_natCast, ← compare_natCast (c.toNat - 48),
        ← compare_add_left (-48)]
      congr 1 <;> omega
    rw [List.compare_cons_cons, ih hlength ha.2 hb.2, hchar, ← compare_natCast,
      ← compare_natCast (numberOf a), ← hplaced, ← compare_natCast, numberOf_cons, numberOf_cons,
      hlength]
    push_cast
    rfl

/-- Fields of one width are in the order of their numbers. -/
theorem compare_padded {width m n : Nat} (hwidth : 0 < width) (hm : m < 10 ^ width)
    (hn : n < 10 ^ width) (s t : List Char) :
    compare (padded width m ++ s) (padded width n ++ t) =
      (compare m n).then (compare s t) := by
  have hlength : (padded width m).length = (padded width n).length := by
    rw [length_padded hwidth hm, length_padded hwidth hn]
  rw [compare_append hlength, compare_digits hlength isDigit_of_mem_padded isDigit_of_mem_padded,
    numberOf_padded, numberOf_padded]

/-- Numbers in places of fixed widths, each with a mark behind it. -/
def inPlaces (places : List (Nat × Char)) (ns : List Nat) : List Char :=
  (places.zip ns).flatMap fun p => padded p.1.1 p.2 ++ [p.1.2]

/-- The number has no more digits than the place. -/
def FitsPlace (place : Nat × Char) (n : Nat) : Prop := 0 < place.1 ∧ n < 10 ^ place.1

/-- **Numbers in the same places are in the order of the numbers**, the first of them that differ
deciding. -/
theorem compare_inPlaces {places : List (Nat × Char)} {ms ns : List Nat}
    (hm : List.Forall₂ FitsPlace places ms) (hn : List.Forall₂ FitsPlace places ns) :
    compare (inPlaces places ms) (inPlaces places ns) = compare ms ns := by
  induction hm generalizing ns with
  | nil =>
    cases hn
    rfl
  | @cons place m places ms hm _ ih =>
    cases hn with
    | @cons _ n _ ns hn hrest =>
      have hcons : ∀ n ns, inPlaces (place :: places) (n :: ns) =
          padded place.1 n ++ place.2 :: inPlaces places ns := by
        intro n ns
        rw [inPlaces, List.zip_cons_cons, List.flatMap_cons, List.append_assoc]
        rfl
      rw [hcons, hcons, compare_padded hm.1 hm.2 hn.2, compare_cons_self, ih hrest,
        List.compare_cons_cons]

/-! ## Dates -/

/-- The days of the year before the date. -/
def Date.dayOfYear (d : Date) : Nat :=
  ((monthLengths (isLeap d.year)).take (d.month - 1)).sum + (d.day - 1)

theorem Date.toDays_eq {d : Date} (hone : 1 ≤ d.day) :
    d.toDays = daysBeforeYear d.year - epochOffset + d.dayOfYear := by
  rw [toDays, dayOfYear]
  omega

/-- **Days are in the order of their dates**: of the years, then the months, then the days of a
month. -/
theorem compare_toDays {d e : Date} (hd : 1 ≤ d.day) (hd' : d.day ≤ daysInMonth d.year d.month)
    (he : 1 ≤ e.day) (he' : e.day ≤ daysInMonth e.year e.month) :
    compare d.toDays e.toDays = (compare d.year e.year).then
      ((compare d.month e.month).then (compare d.day e.day)) := by
  obtain ⟨hmonthd, hind, hltd⟩ := Date.dayOfYear_lt hd hd'
  obtain ⟨hmonthe, hine, hlte⟩ := Date.dayOfYear_lt he he'
  -- no year reaches the next one
  have hyear : ∀ {p q : Int} {n : Nat}, (n < if isLeap p then 366 else 365) → p < q →
      Date.daysBeforeYear p - Date.epochOffset + n < Date.daysBeforeYear q - Date.epochOffset := by
    intro p q n hn hlt
    have hmono := Date.daysBeforeYear_mono (show p + 1 ≤ q by omega)
    rw [Date.daysBeforeYear_succ] at hmono
    split_ifs at hn hmono <;> omega
  rw [Date.toDays_eq hd, Date.toDays_eq he,
    compare_placed (f := fun p => Date.daysBeforeYear p - Date.epochOffset)
      (Int.natCast_nonneg d.dayOfYear) (Int.natCast_nonneg e.dayOfYear) (hyear hltd) (hyear hlte)]
  rcases hcompare : compare d.year e.year with _ | _ | _
  · rfl
  · -- in one year, no month reaches the next one
    have hsame : d.year = e.year := Int.compare_eq_eq.1 hcompare
    have hmonth : ∀ {p q : Nat} {n : Nat}, 1 ≤ p →
        n < (monthLengths (isLeap e.year)).getD (p - 1) 0 → (p : Int) < q →
        (((monthLengths (isLeap e.year)).take ((p : Int).toNat - 1)).sum : Int) + n <
          ((monthLengths (isLeap e.year)).take ((q : Int).toNat - 1)).sum := by
      intro p q n hone hn hlt
      have hmono := Date.sum_take_mono (monthLengths (isLeap e.year))
        (show p - 1 + 1 ≤ q - 1 by omega)
      rw [Date.sum_take_succ] at hmono
      rw [Int.toNat_natCast, Int.toNat_natCast]
      omega
    have hplaced := compare_placed
      (f := fun p => ((monthLengths (isLeap e.year)).take (p.toNat - 1)).sum)
      (p := d.month) (q := e.month) (Int.natCast_nonneg (d.day - 1))
      (Int.natCast_nonneg (e.day - 1)) (hmonth hmonthd (hsame ▸ hind)) (hmonth hmonthe hine)
    have hday : compare (d.day : Int) e.day = compare ((d.day - 1 : Nat) : Int) (e.day - 1 : Nat) := by
      rw [← compare_add_left 1 ((d.day - 1 : Nat) : Int)]
      congr 1 <;> omega
    rw [← compare_natCast d.month, ← compare_natCast d.day, hday, ← hplaced]
    simp only [Date.dayOfYear, hsame, Int.toNat_natCast]
    push_cast
    rfl
  · rfl

namespace Instant

/-- The days of instants are in the order of their dates. -/
theorem compare_day (t u : Instant) :
    Ord.compare t.day u.day = (Ord.compare t.date.year u.date.year).then
      ((Ord.compare t.date.month u.date.month).then (Ord.compare t.date.day u.date.day)) := by
  obtain ⟨-, -, hone, hday⟩ := Date.month_ofDays t.day
  obtain ⟨-, -, hone', hday'⟩ := Date.month_ofDays u.day
  have hdays : ∀ t : Instant, t.day = t.date.toDays := fun t => (Date.toDays_ofDays t.day).symm
  rw [hdays t, hdays u]
  exact compare_toDays hone hday hone' hday'

/-! ## Times of day -/

/-- The instant to the millisecond; what is less is cut off. -/
def cut (t : Instant) : Instant := ⟨t.seconds, t.nanos / 1000000 * 1000000⟩

/-- The second that is shown, and the millisecond into it, as one number. -/
theorem compare_second {t u : Instant} (ht : t.IsRead) (hu : u.IsRead) :
    (Ord.compare (t.secondOfDay % 60) (u.secondOfDay % 60)).then
        (Ord.compare (t.nanos / 1000000) (u.nanos / 1000000)) =
      (Ord.compare (t.secondOfDay % 60 + t.nanos / 1000000000)
        (u.secondOfDay % 60 + u.nanos / 1000000000)).then
        (Ord.compare (t.nanos % 1000000000 / 1000000) (u.nanos % 1000000000 / 1000000)) := by
  -- a leap second is the last of a minute, so no second reaches the next one
  have hnext : ∀ {p q : Int} {t : Instant}, t.IsRead → p = (t.secondOfDay % 60 : Nat) → q < 60 →
      p < q → p * 1000 + (t.nanos / 1000000 : Nat) < q * 1000 := by
    intro p q t ht hp hq hlt
    have hleap := ht.leap
    rw [secondOfDay] at hp
    omega
  have hplaced := compare_placed (f := (· * 1000)) (p := (t.secondOfDay % 60 : Nat))
    (q := (u.secondOfDay % 60 : Nat)) (Int.natCast_nonneg (t.nanos / 1000000))
    (Int.natCast_nonneg (u.nanos / 1000000)) (hnext ht rfl (by omega)) (hnext hu rfl (by omega))
  have hshown : ∀ t : Instant,
      (((t.secondOfDay % 60 : Nat) : Int) * 1000 + (t.nanos / 1000000 : Nat)) / 1000 =
          (t.secondOfDay % 60 + t.nanos / 1000000000 : Nat) ∧
        (((t.secondOfDay % 60 : Nat) : Int) * 1000 + (t.nanos / 1000000 : Nat)) % 1000 =
          (t.nanos % 1000000000 / 1000000 : Nat) := by
    intro t
    omega
  rw [← compare_natCast, ← compare_natCast (t.nanos / 1000000), ← hplaced,
    compare_divMod (k := 1000) (by decide), (hshown t).1, (hshown t).2, (hshown u).1, (hshown u).2,
    compare_natCast, compare_natCast]

/-- The numbers that the normal form shows, from the year down to the milliseconds. -/
def shownNumbers (t : Instant) : List Nat :=
  [t.date.year.natAbs, t.date.month, t.date.day, t.secondOfDay / 3600, t.secondOfDay / 60 % 60,
    t.secondOfDay % 60 + t.nanos / 1000000000, t.nanos % 1000000000 / 1000000]

/-- **Instants are in the order of the numbers that the normal form shows.** -/
theorem compare_cut {t u : Instant} (ht : t.IsRead) (hu : u.IsRead) (hzero : 0 ≤ t.date.year)
    (hzero' : 0 ≤ u.date.year) :
    t.cut.compare u.cut = Ord.compare t.shownNumbers u.shownNumbers := by
  have hdivMod : ∀ (k m n : Nat), 0 < k → Ord.compare m n =
      (Ord.compare (m / k) (n / k)).then (Ord.compare (m % k) (n % k)) := by
    intro k m n hk
    rw [← compare_natCast, compare_divMod (k := k) (by omega), ← compare_natCast,
      ← compare_natCast (m % k)]
    push_cast
    rfl
  have hday : Ord.compare t.seconds u.seconds =
      (Ord.compare t.day u.day).then (Ord.compare t.secondOfDay u.secondOfDay) := by
    have hsecond : ∀ t : Instant, ((t.secondOfDay : Nat) : Int) = t.seconds % 86400 := by
      intro t
      rw [secondOfDay]
      omega
    rw [compare_divMod (k := 86400) (by decide), ← compare_natCast, hsecond, hsecond]
    rfl
  have hyear : Ord.compare t.date.year u.date.year =
      Ord.compare t.date.year.natAbs u.date.year.natAbs := by
    rw [← compare_natCast, Int.natAbs_of_nonneg hzero, Int.natAbs_of_nonneg hzero']
  have hhour : ∀ t : Instant, t.secondOfDay / 60 / 60 = t.secondOfDay / 3600 := fun t =>
    Nat.div_div_eq_div_mul _ _ _
  have hmillis : Ord.compare t.cut.nanos u.cut.nanos =
      Ord.compare (t.nanos / 1000000) (u.nanos / 1000000) := by
    rw [hdivMod 1000000 t.cut.nanos _ (by decide)]
    simp [cut]
  rw [compare, hmillis]
  show (Ord.compare t.seconds u.seconds).then _ = _
  rw [hday, compare_day, hyear, hdivMod 60 t.secondOfDay _ (by decide),
    hdivMod 60 (t.secondOfDay / 60) _ (by decide), hhour, hhour]
  simp only [shownNumbers, List.compare_cons_cons, List.compare_nil_nil, Ordering.then_eq,
    Ordering.then_assoc, compare_second ht hu]

/-! ## The normal form -/

/-- The places of the normal form. -/
def places : List (Nat × Char) :=
  [(4, '-'), (2, '-'), (2, 'T'), (2, ':'), (2, ':'), (2, '.'), (3, 'Z')]

theorem fitsPlace_shownNumbers {t : Instant} (h : t.IsShown) :
    List.Forall₂ FitsPlace places t.shownNumbers := by
  obtain ⟨-, hmonth, -, hday⟩ := Date.month_ofDays t.day
  have hdays := Date.daysInMonth_le t.date.year t.date.month
  have hzero := h.notBefore
  have hfour := h.notAfter
  have hleap := h.leap
  have hsecond := t.secondOfDay_lt
  rw [date] at *
  simp only [places, shownNumbers, List.forall₂_cons, FitsPlace, date]
  refine ⟨?_, ?_, ?_, ?_, ?_, ?_, ?_, .nil⟩ <;> omega

/-- The normal form is made of the numbers in their places. -/
theorem formatChars_eq_inPlaces {t : Instant} (h : t.IsShown) :
    t.formatChars = inPlaces places t.shownNumbers := by
  rw [formatChars_eq h, inPlaces, places, shownNumbers]
  simp only [List.zip_cons_cons, List.zip_nil_right, List.flatMap_cons, List.flatMap_nil]
  generalize padded 4 _ = year
  generalize padded 3 _ = millis
  generalize padded 2 t.date.month = month
  generalize padded 2 t.date.day = day
  generalize padded 2 (t.secondOfDay / 3600) = hour
  generalize padded 2 (t.secondOfDay / 60 % 60) = minute
  generalize padded 2 _ = second
  simp only [List.append_assoc, List.cons_append, List.nil_append]

/-- **Text order is time order.** -/
theorem compare_format {t u : Instant} (ht : t.IsRead) (hu : u.IsRead) (hshown : t.IsShown)
    (hshown' : u.IsShown) : Ord.compare t.format u.format = t.cut.compare u.cut := by
  rw [compare_toList, format, format, String.toList_ofList, String.toList_ofList,
    formatChars_eq_inPlaces hshown, formatChars_eq_inPlaces hshown',
    compare_inPlaces (fitsPlace_shownNumbers hshown) (fitsPlace_shownNumbers hshown'),
    compare_cut ht hu hshown.notBefore hshown'.notBefore]

/-! ## What the normal form says -/

section Says

variable {t u : Instant}

/-- The normal form, and with it a sign before the year, is read field by field up to the zone. -/
theorem read?_formatChars (hleap : t.nanos < 2000000000) :
    Layout.read? (dateLayout ++ .mark 'T' :: (minuteLayout ++ secondsOnly)) {} t.formatChars =
      some ({ year := t.date.year, month := t.date.month, day := t.date.day,
              hour := t.secondOfDay / 3600, minute := t.secondOfDay / 60 % 60,
              second := t.secondOfDay % 60 + t.nanos / 1000000000,
              nanos := t.nanos % 1000000000 / 1000000 * 1000000 }, ['Z']) := by
  obtain ⟨-, hmonth', -, hday'⟩ := Date.month_ofDays t.day
  have hmonth : t.date.month < 100 := Nat.lt_of_le_of_lt hmonth' (by decide)
  have hday : t.date.day < 100 :=
    Nat.lt_of_le_of_lt (hday'.trans (Date.daysInMonth_le _ _)) (by decide)
  have hsecond := t.secondOfDay_lt
  have hmark : ∀ f s, (Part.mark 'T').read? f ('T' :: s) = some (f, s) := fun f s => rfl
  rw [formatChars_eq_dateChars, Layout.read?_append, read?_dateLayout _ _ hmonth hday,
    Option.bind_some, Layout.read?, hmark, Option.bind_eq_bind, Option.bind_some]
  dsimp only
  rw [Layout.read?_append, read?_minuteLayout _ (by omega) (by omega), Option.bind_some,
    read?_secondsOnly (by omega) (by simp) (by simp) (by simp) _ (by omega)]

/-- **The normal form of an instant that was read says which millisecond it is**, whatever the
year. -/
theorem format_eq_iff (ht : t.IsRead) (hu : u.IsRead) : t.format = u.format ↔ t.cut = u.cut := by
  have hparts : ∀ t : Instant, t.seconds = t.day * 86400 + t.secondOfDay := by
    intro t
    rw [day, secondOfDay]
    omega
  have hleapt := ht.leap
  have hleapu := hu.leap
  have hpartst := hparts t
  have hpartsu := hparts u
  constructor
  · intro h
    have hchars : t.formatChars = u.formatChars := String.ofList_injective h
    have hread := read?_formatChars hu.nanos
    rw [← hchars, read?_formatChars ht.nanos] at hread
    simp only [Option.some.injEq, Prod.mk.injEq, Fields.mk.injEq, and_true] at hread
    obtain ⟨hyear, hmonth, hday, hhour, hminute, hsecond, hmillis⟩ := hread
    have hdate : t.date = u.date := by
      generalize t.date = d at hyear hmonth hday
      generalize u.date = e at hyear hmonth hday
      cases d
      cases e
      simp_all
    have hdays : t.day = u.day := by
      rw [← Date.toDays_ofDays t.day, ← Date.toDays_ofDays u.day]
      exact congrArg Date.toDays hdate
    rw [cut, cut, Instant.mk.injEq]
    omega
  · intro h
    rw [cut, cut, Instant.mk.injEq] at h
    have hdays : t.day = u.day := by rw [day, day, h.1]
    have hseconds : t.secondOfDay = u.secondOfDay := by rw [secondOfDay, secondOfDay, h.1]
    have hleap : t.nanos / 1000000000 = u.nanos / 1000000000 := by omega
    have hmillis : t.nanos % 1000000000 / 1000000 = u.nanos % 1000000000 / 1000000 := by omega
    rw [format, format, formatChars, formatChars, date, date, hdays, hseconds, hleap, hmillis]

/-- What the normal form shows of an instant that was read is all of it, to the millisecond. -/
theorem shown_eq_cut (ht : t.IsRead) : t.shown = t.cut := by
  have hleap := ht.leap
  rw [shown, cut, secondOfDay]
  split_ifs with hlast
  · rfl
  · rw [Instant.mk.injEq]
    omega

end Says

end Instant

/-! ## Normalized dates -/

open Sql in
/-- **Normalized dates are in the order of their instants**, cut to milliseconds, for the years from
0 to 9999: byte by byte, and as the database compares and sorts them. -/
theorem order_normalized {v w : Json} {t u : Instant} (hv : Instant.ofJson? v = some t)
    (hw : Instant.ofJson? w = some u) (ht : 0 ≤ t.date.year ∧ t.date.year ≤ 9999)
    (hu : 0 ≤ u.date.year ∧ u.date.year ≤ 9999) :
    ∃ a b, normalize? v = some a ∧ normalize? w = some b ∧
      Cell.orderBytes (Bytes.ofText a) (Bytes.ofText b) = t.cut.compare u.cut ∧
      Cell.order (.text a) (.text b) = t.cut.compare u.cut := by
  have hread := isRead_of_ofJson? hv
  have hread' := isRead_of_ofJson? hw
  have hshown : t.IsShown := ⟨ht.1, ht.2, hread.nanos⟩
  have hshown' : u.IsShown := ⟨hu.1, hu.2, hread'.nanos⟩
  have hcompare := compare_format hread hread' hshown hshown'
  refine ⟨t.format, u.format, by rw [normalize?, hv, Option.map_some],
    by rw [normalize?, hw, Option.map_some], ?_, hcompare⟩
  rw [orderBytes_ofText, hcompare]

open Sql in
/-- The leap second before the year 2017, five and a half hours ahead, and the first millisecond
of that year. -/
theorem order_normalized_leapSecond :
    Instant.ofJson? (.str "2017-01-01T05:29:60.9999+05:30") = some ⟨1483228799, 1999900000⟩ ∧
      Instant.ofJson? (.int 1483228800000) = some ⟨1483228800, 0⟩ ∧
      ∃ a b, normalize? (.str "2017-01-01T05:29:60.9999+05:30") = some a ∧
        normalize? (.int 1483228800000) = some b ∧
        Cell.orderBytes (Bytes.ofText a) (Bytes.ofText b) = .lt ∧
        Cell.order (.text a) (.text b) = .lt := by
  have hv : Instant.ofJson? (.str "2017-01-01T05:29:60.9999+05:30") =
      some ⟨1483228799, 1999900000⟩ := by decide +kernel
  have hw : Instant.ofJson? (.int 1483228800000) = some ⟨1483228800, 0⟩ := by decide +kernel
  exact ⟨hv, hw, order_normalized hv hw (by decide +kernel) (by decide +kernel)⟩

end Daybook.Calendar
