import Daybook.Calendar.Date

/-!
# Instants

A point in time to the nanosecond, in universal time. A leap second is kept: it shares its second
with the one before, and its nanoseconds run on from a thousand million.

* `Instant`, its order, `ofMillis?`, `toMillis`;
* `Instant.format`: the normal form `2023-12-31T00:00:00.000Z`, in which text order is time order
  for the years from 0 to 9999.
-/

namespace Daybook.Calendar

/-- A second counted from the start of 1970, and the nanoseconds into it; a second of its own, from
a thousand million on, is a leap second. -/
structure Instant where
  seconds : Int
  nanos : Nat
  deriving DecidableEq, Repr

namespace Instant

/-- The order of two instants. -/
def compare (a b : Instant) : Ordering :=
  (Ord.compare a.seconds b.seconds).then (Ord.compare a.nanos b.nanos)

/-- `a` is later than `b`. -/
def isAfter (a b : Instant) : Bool := compare a b == .gt

/-- The day of the instant, counted from 1 January 1970. -/
def day (t : Instant) : Int := t.seconds / 86400

/-- The date of the instant. -/
def date (t : Instant) : Date := Date.ofDays t.day

/-- The seconds since midnight. -/
def secondOfDay (t : Instant) : Nat := (t.seconds % 86400).toNat

/-- The milliseconds since the start of 1970, a leap second added on top of its second. -/
def toMillis (t : Instant) : Int := t.seconds * 1000 + (t.nanos / 1000000 : Nat)

/-- The instant of a count of milliseconds, if its date is one that dates are kept for. -/
def ofMillis? (millis : Int) : Option Instant :=
  let t : Instant := ⟨millis / 1000, (millis % 1000).toNat * 1000000⟩
  if minYear ≤ t.date.year ∧ t.date.year ≤ maxYear then some t else none

/-! ## The normal form -/

/-- A number in decimal, with zeros on the left up to a width. -/
def padded (width n : Nat) : List Char :=
  let ds := Nat.toDigits 10 n
  List.replicate (width - ds.length) '0' ++ ds

/-- A year: four digits, and a sign outside the years from 0 to 9999. -/
def formatYear (year : Int) : List Char :=
  if 0 ≤ year ∧ year ≤ 9999 then padded 4 year.natAbs
  else (if year < 0 then '-' else '+') :: padded 4 year.natAbs

/-- The characters of the normal form: date, `T`, time of day to the millisecond, `Z`. A leap
second shows as second sixty. -/
def formatChars (t : Instant) : List Char :=
  let d := t.date
  let s := t.secondOfDay
  let leap := t.nanos / 1000000000
  formatYear d.year ++ '-' :: padded 2 d.month ++ '-' :: padded 2 d.day ++
    'T' :: padded 2 (s / 3600) ++ ':' :: padded 2 (s / 60 % 60) ++
    ':' :: padded 2 (s % 60 + leap) ++
    '.' :: padded 3 (t.nanos % 1000000000 / 1000000) ++ ['Z']

/-- The normal form of an instant, such as `2023-12-31T00:00:00.000Z`. -/
def format (t : Instant) : String := String.ofList t.formatChars

end Instant
end Daybook.Calendar
