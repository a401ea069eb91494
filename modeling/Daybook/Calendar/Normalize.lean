import Daybook.Calendar.Reader
import Daybook.Json.Basic

/-!
# Dates in records

Dates come as texts in several layouts, or as milliseconds since 1970. All are brought to one
layout.

* `Instant.ofJson?`: the instant of a value;
* `normalize?`: the text of that instant.
-/

namespace Daybook.Calendar

/-- The instant of a text in one of the layouts, or of an integer number of milliseconds. -/
def Instant.ofJson? (v : Json) : Option Instant :=
  match v with
  | .str s => readText? s
  | v => v.int64?.bind Instant.ofMillis?

/-- The text of the instant of a value. -/
def normalize? (v : Json) : Option String := (Instant.ofJson? v).map Instant.format

end Daybook.Calendar
