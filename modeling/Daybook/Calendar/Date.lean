/-!
# Dates of the Gregorian calendar

The calendar is proleptic: it runs through all years, year zero and negative years included.

* `Date`, `Date.IsValid`, `daysInMonth`;
* `Date.toDays`: the days since 1 January 1970;
* `Date.ofDays`: the date of a day count.
-/

namespace Daybook.Calendar

-- Sums start from the zero of the core library.
attribute [local instance (high)] Zero.ofOfNat0

/-- A year, a month from 1 and a day of the month from 1. -/
structure Date where
  year : Int
  month : Nat
  day : Nat
  deriving DecidableEq, Repr

/-- Every fourth year is a leap year, but of the full centuries only every fourth. -/
def isLeap (year : Int) : Bool := year % 4 = 0 && (year % 100 ≠ 0 || year % 400 = 0)

/-- The lengths of the twelve months. -/
def monthLengths (leap : Bool) : List Nat :=
  [31, if leap then 29 else 28, 31, 30, 31, 30, 31, 31, 30, 31, 30, 31]

/-- The length of a month, zero for a month that does not exist. -/
def daysInMonth (year : Int) (month : Nat) : Nat :=
  if month = 0 then 0 else (monthLengths (isLeap year)).getD (month - 1) 0

/-- The years that dates are kept for. -/
def minYear : Int := -262143

/-- The last year that dates are kept for. -/
def maxYear : Int := 262142

namespace Date

/-- The day exists, in a year that dates are kept for. -/
def IsValid (d : Date) : Prop :=
  minYear ≤ d.year ∧ d.year ≤ maxYear ∧ 1 ≤ d.day ∧ d.day ≤ daysInMonth d.year d.month

instance (d : Date) : Decidable d.IsValid := by unfold IsValid; infer_instance

/-- The days of all years from year 1 to the year before `year`, counted backwards for earlier
years. -/
def daysBeforeYear (year : Int) : Int :=
  let y := year - 1
  365 * y + y / 4 - y / 100 + y / 400

/-- The days from 1 January of year 1 to 1 January 1970. -/
def epochOffset : Int := 719162

/-- The days from 1 January 1970 to the date. -/
def toDays (d : Date) : Int :=
  daysBeforeYear d.year + ((monthLengths (isLeap d.year)).take (d.month - 1)).sum +
    ((d.day : Int) - 1) - epochOffset

/-- Splits a day count at month ends: the index of the month it falls in, and the days into it. -/
def splitMonths : List Nat → Nat → Nat × Nat
  | [], n => (0, n)
  | length :: rest, n =>
    if n < length then (0, n)
    else
      let (month, day) := splitMonths rest (n - length)
      (month + 1, day)

/-- The year that a count of days from 1 January of year 1 falls in, and the days into it: first
whole cycles of four hundred years, then centuries, then spans of four years, then years; the last
century of a cycle and the last year of a span have one day more. -/
def splitYears (days : Int) : Int × Nat :=
  let cycle := days / 146097
  let inCycle := (days % 146097).toNat
  let century := min (inCycle / 36524) 3
  let inCentury := inCycle - century * 36524
  let span := inCentury / 1461
  let inSpan := inCentury % 1461
  let year := min (inSpan / 365) 3
  (400 * cycle + 100 * century + 4 * span + year + 1, inSpan - year * 365)

/-- The date of a count of days from 1 January 1970. -/
def ofDays (days : Int) : Date :=
  let (year, dayOfYear) := splitYears (days + epochOffset)
  let (month, day) := splitMonths (monthLengths (isLeap year)) dayOfYear
  ⟨year, month + 1, day + 1⟩

end Date
end Daybook.Calendar
