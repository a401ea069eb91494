import Daybook.KeyMap
import Daybook.Schema.Registry

/-!
# Registries with an index

A registry with an index keeps the entities in the order in which they were first declared, and
apart from it the schemas by their entities. A schema always goes into the index, and its entity
into the order only if the index had none for it.

* `IndexedRegistry`, `IndexedRegistry.put`;
* `IndexedRegistry.schemas`, `IndexedRegistry.length`, `IndexedRegistry.schemaOf`,
  `IndexedRegistry.byTable?`: what is found;
* `Registration`, `Registry.register`, `IndexedRegistry.register`: registrations of all kinds.
-/

namespace Daybook.Schema

/-- The entities in their order, and the schemas by their entities. -/
structure IndexedRegistry where
  order : List String := []
  index : KeyMap Schema := []

namespace IndexedRegistry

/-- The registry with a schema, in place of the one of its entity. -/
def put (r : IndexedRegistry) (s : Schema) : IndexedRegistry where
  order := if (r.index.get? s.entity).isNone then r.order ++ [s.entity] else r.order
  index := r.index.insert s.entity s

/-- Adds a schema that breaks no rule. -/
def insert (r : IndexedRegistry) (s : Schema) : Except Failure Schema × IndexedRegistry :=
  match s.validate with
  | .ok s => (.ok s, r.put s)
  | .error e => (.error e, r)

/-- Adds the schema of an entity. -/
def declare (r : IndexedRegistry) (entity table : String) (columns : List Column) :
    Except Failure Schema × IndexedRegistry :=
  match Schema.make entity table columns with
  | .ok s => r.insert s
  | .error e => (.error e, r)

/-- The schemas in the order of their entities. -/
def schemas (r : IndexedRegistry) : List Schema := r.order.filterMap r.index.get?

/-- How many entities there are. -/
def length (r : IndexedRegistry) : Nat := r.order.length

/-- The schema of an entity, which an operation needs. -/
def schemaOf (r : IndexedRegistry) (entity : String) : Except Failure Schema :=
  match r.index.get? entity with
  | some s => .ok s
  | none => .error (.schemaNotFound entity)

/-- The schema of a table that comes first when the schemas of the index are listed, which may be
in any order. -/
def byTable? (listing : List Schema) (table : String) : Option Schema :=
  listing.find? fun s => s.table = table

end IndexedRegistry

/-! ## Registrations -/

/-- How a schema is registered. -/
inductive Registration where
  | declare (entity table : String) (columns : List Column)
  | insert (s : Schema)

/-- The schema that is registered. -/
def Registration.schema : Registration → Schema
  | .declare entity table columns => ⟨entity, table, columns⟩
  | .insert s => s

/-- What a registration is answered, and the registry after it. -/
def Registry.register (r : Registry) (c : Registration) : Except Failure Schema × Registry :=
  let added := match c with
    | .declare entity table columns => r.declare entity table columns
    | .insert s => r.insert s
  match added with
  | .ok (r', s) => (.ok s, r')
  | .error e => (.error e, r)

/-- What a registration is answered, and the registry after it. -/
def IndexedRegistry.register (r : IndexedRegistry) :
    Registration → Except Failure Schema × IndexedRegistry
  | .declare entity table columns => r.declare entity table columns
  | .insert s => r.insert s

end Daybook.Schema
