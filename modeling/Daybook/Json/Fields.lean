import Daybook.Json.Basic

/-!
# Structures as JSON values

A structure is read from an object by the names of its fields, or from an array by their order.
Unknown members of an object are passed over; an array has no more items than there are fields.

* `Json.fields?`: how the fields of a structure are looked up;
* `Json.required?`, `Json.optional?`: one field;
* `Json.choice?`: one of several words.
-/

namespace Daybook.Json

-- Powers are those of the core library.
attribute [local instance (high)] instPowNat instNatPowNat Int.instNatPow

/-- How the fields of a structure are looked up in a value. -/
def fields? (names : List String) : Json → Option (String → Option Json)
  | .obj members => some (KeyMap.get? members)
  | .arr items =>
    if items.length ≤ names.length then some fun name => (names.zip items).lookup name else none
  | _ => none

/-- A field that has to be there. -/
def required? {α : Type} (field : Option Json) (read? : Json → Option α) : Option α :=
  field.bind read?

/-- A field with a value for when it is missing. -/
def optional? {α : Type} (field : Option Json) (missing : α) (read? : Json → Option α) : Option α :=
  match field with
  | none => some missing
  | some v => read? v

/-- A value that may be null. -/
def nullable? {α : Type} (read? : Json → Option α) : Json → Option (Option α)
  | .null => some none
  | v => (read? v).map some

/-- A truth value. -/
def bool? : Json → Option Bool
  | .bool b => some b
  | _ => none

/-- A natural number of sixty-four bits. -/
def nat64? : Json → Option Nat
  | .int n => if 0 ≤ n ∧ n < 2 ^ (64 : Nat) then some n.toNat else none
  | _ => none

/-- The items of an array. -/
def items? : Json → Option (List Json)
  | .arr items => some items
  | _ => none

/-- A list of texts. -/
def strs? (v : Json) : Option (List String) := v.items?.bind fun items => items.mapM str?

/-- A word, also as the only member of an object, with null as its value. -/
def choice? : Json → Option String
  | .str s => some s
  | .obj [(s, .null)] => some s
  | _ => none

end Daybook.Json
