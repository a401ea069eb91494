/-!
# Bytes

Byte strings as lists, and the passage between them and texts.

* `Bytes`, `ofText`, `toText?`.
-/

namespace Daybook

/-- A byte string. -/
abbrev Bytes := List UInt8

namespace Bytes

/-- The UTF-8 encoding of a text. -/
def ofText (s : String) : Bytes := s.toUTF8.toList

/-- The text that the bytes encode in UTF-8, if they are well formed. -/
def toText? (b : Bytes) : Option String := String.fromUTF8? ⟨b.toArray⟩

end Bytes
end Daybook
