import Daybook.Calendar.Instant
import Daybook.Text.Blank

/-!
# Reading timestamps

A timestamp comes in one of several layouts, tried in order: with a zone (`readZoned?`), then the
zone-less layouts as a date and a time, then a date alone. Zone-less times are universal time and
a date alone is its midnight.

In the zone-less layouts a field is one or more digits up to its width, a year may carry a sign
and then has any number of digits, blanks may precede every field, and a blank in a layout stands
for any number of blanks, none included. Second sixty is a leap second.

* `Layout`, `layouts`: the zone-less layouts as lists of their parts;
* `readText?`: the instant of a text.
-/

namespace Daybook.Calendar

-- Powers are those of the core library.
attribute [local instance (high)] instPowNat instNatPowNat Int.instNatPow

/-! ## Fields -/

/-- The value of a list of digits. -/
def numberOf (ds : List Char) : Nat := ds.foldl (fun n c => n * 10 + (c.toNat - 48)) 0

/-- A number of at least `least` and at most `most` digits, and the rest. -/
def readDigits? (least most : Nat) (s : List Char) : Option (Nat × List Char) :=
  let ds := (s.take most).takeWhile Char.isDigit
  if ds.length < least ∨ ds.isEmpty then none else some (numberOf ds, s.drop ds.length)

/-- The rest of a text after a given character. -/
def expect? (c : Char) : List Char → Option (List Char)
  | d :: rest => if c = d then some rest else none
  | [] => none

/-- The digits of a fraction of a second as nanoseconds: nine places count, further ones are
dropped. -/
def readNanos? (s : List Char) : Option (Nat × List Char) :=
  let ds := s.takeWhile Char.isDigit
  let kept := ds.take 9
  if ds.isEmpty then none
  else some (numberOf kept * 10 ^ (9 - kept.length), s.drop ds.length)

/-- A fraction of a second, if a point announces one. -/
def readFraction? : List Char → Option (Nat × List Char)
  | '.' :: rest => readNanos? rest
  | s => some (0, s)

/-- The fields read so far. -/
structure Fields where
  year : Int := 0
  month : Nat := 0
  day : Nat := 0
  hour : Nat := 0
  minute : Nat := 0
  second : Nat := 0
  nanos : Nat := 0
  deriving DecidableEq, Repr

/-- The instant of the fields, if they name a day that exists and a time of that day, taken as
local time `offset` seconds ahead of universal time. -/
def Fields.toInstant? (f : Fields) (offset : Int) : Option Instant :=
  let date : Date := ⟨f.year, f.month, f.day⟩
  if date.IsValid ∧ f.hour ≤ 23 ∧ f.minute ≤ 59 ∧ f.second ≤ 60 then
    let leap := f.second = 60
    let second := if leap then 59 else f.second
    some
      ⟨date.toDays * 86400 + f.hour * 3600 + f.minute * 60 + second - offset,
       f.nanos + if leap then 1000000000 else 0⟩
  else none

/-! ## With a zone -/

/-- The offset of a zone in seconds: `Z`, or a sign, hours up to 23, a colon and minutes. The minus
sign may also be U+2212. -/
def readOffset? : List Char → Option (Int × List Char)
  | c :: rest =>
    if c = 'Z' ∨ c = 'z' then some (0, rest)
    else if c = '+' ∨ c = '-' ∨ c = '\u2212' then do
      let (hours, rest) ← readDigits? 2 2 rest
      let rest ← expect? ':' rest
      let (minutes, rest) ← readDigits? 2 2 rest
      if hours ≤ 23 ∧ minutes ≤ 59 then
        let seconds : Int := hours * 3600 + minutes * 60
        pure (if c = '+' then seconds else -seconds, rest)
      else none
    else none
  | [] => none

/-- A full date, `T` or a blank, a full time with an optional fraction, and a zone; every field has
its full width. -/
def readZoned? (s : List Char) : Option Instant := do
  let (year, s) ← readDigits? 4 4 s
  let s ← expect? '-' s
  let (month, s) ← readDigits? 2 2 s
  let s ← expect? '-' s
  let (day, s) ← readDigits? 2 2 s
  let s ←
    match s with
    | c :: rest => if c = 'T' ∨ c = 't' ∨ c = ' ' then some rest else none
    | [] => none
  let (hour, s) ← readDigits? 2 2 s
  let s ← expect? ':' s
  let (minute, s) ← readDigits? 2 2 s
  let s ← expect? ':' s
  let (second, s) ← readDigits? 2 2 s
  let (nanos, s) ← readFraction? s
  let (offset, s) ← readOffset? s
  if s.isEmpty then
    Fields.toInstant? ⟨year, month, day, hour, minute, second, nanos⟩ offset
  else none

/-! ## Without a zone -/

/-- A part of a zone-less layout. -/
inductive Part where
  | year | month | day | hour | minute | second
  /-- A fraction of a second, or nothing. -/
  | fraction
  /-- A character that stands for itself. -/
  | mark (c : Char)
  /-- Any number of blanks. -/
  | gap
  deriving DecidableEq, Repr

/-- The parts of a text, in order. -/
abbrev Layout := List Part

/-- `2024-03-05` -/
def dateLayout : Layout := [.year, .mark '-', .month, .mark '-', .day]

/-- `10:20` -/
def minuteLayout : Layout := [.hour, .mark ':', .minute]

/-- `10:20:30`, with or without a fraction -/
def secondLayout : Layout := minuteLayout ++ [.mark ':', .second, .fraction]

/-- The zone-less layouts, in the order in which they are tried. -/
def layouts : List Layout :=
  [dateLayout ++ .mark 'T' :: secondLayout,
   dateLayout ++ .gap :: secondLayout,
   dateLayout ++ .mark 'T' :: minuteLayout,
   dateLayout ++ .gap :: minuteLayout,
   dateLayout,
   [.day, .mark '/', .month, .mark '/', .year]]

/-- A year: up to four digits, or a sign and any number of digits. -/
def readYear? (s : List Char) : Option (Int × List Char) :=
  match s with
  | '-' :: rest => (readDigits? 1 rest.length rest).map fun p => (-(p.1 : Int), p.2)
  | '+' :: rest => (readDigits? 1 rest.length rest).map fun p => ((p.1 : Int), p.2)
  | _ => (readDigits? 1 4 s).map fun p => ((p.1 : Int), p.2)

/-- Reads one part into the fields. -/
def Part.read? (part : Part) (f : Fields) (s : List Char) : Option (Fields × List Char) :=
  let short (set : Nat → Fields) : Option (Fields × List Char) :=
    (readDigits? 1 2 (Text.trimStart s)).map fun p => (set p.1, p.2)
  match part with
  | .year => (readYear? (Text.trimStart s)).map fun p => ({ f with year := p.1 }, p.2)
  | .month => short fun n => { f with month := n }
  | .day => short fun n => { f with day := n }
  | .hour => short fun n => { f with hour := n }
  | .minute => short fun n => { f with minute := n }
  | .second => short fun n => { f with second := n }
  | .fraction => (readFraction? s).map fun p => ({ f with nanos := p.1 }, p.2)
  | .mark c => (expect? c s).map fun rest => (f, rest)
  | .gap => some (f, Text.trimStart s)

/-- Reads the parts of a layout one after the other. -/
def Layout.read? : Layout → Fields → List Char → Option (Fields × List Char)
  | [], f, s => some (f, s)
  | part :: rest, f, s => do
    let (f, s) ← part.read? f s
    Layout.read? rest f s

/-- The instant of a text in one layout, nothing left over. -/
def Layout.instant? (layout : Layout) (s : List Char) : Option Instant := do
  let (f, rest) ← layout.read? {} s
  if rest.isEmpty then f.toInstant? 0 else none

/-! ## All layouts -/

/-- The instant of a text in the first layout that it has. -/
def readChars? (s : List Char) : Option Instant :=
  (readZoned? s).orElse fun _ => layouts.findSome? fun layout => layout.instant? s

/-- The instant of a text; blanks around it do not count. -/
def readText? (s : String) : Option Instant :=
  readChars? (Text.trimEnd (Text.trimStart s.toList))

end Daybook.Calendar
