import Daybook.Schema.Definition

/-!
# Registries

A registry holds schemas by their entities, in the order in which the entities were first declared.
A later schema of an entity takes the place of the earlier one.

* `Registry`, `Registry.put`, `Registry.insert`, `Registry.declare`;
* `Registry.schemaOf`, `Registry.byTable?`;
* `find?_put_self`, `find?_put_of_ne`: what `put` changes.
-/

namespace Daybook.Schema

/-- Schemas, each entity once, in the order of declaration. -/
structure Registry where
  schemas : List Schema := []
  deriving DecidableEq, Inhabited

namespace Registry

/-- The schema put in place of the one of its entity, or at the end. -/
def putIn (s : Schema) : List Schema → List Schema
  | [] => [s]
  | t :: rest => if t.entity = s.entity then s :: rest else t :: putIn s rest

/-- The registry with a schema, in place of the one of its entity. -/
def put (r : Registry) (s : Schema) : Registry := ⟨putIn s r.schemas⟩

/-- The schema of an entity. -/
def find? (r : Registry) (entity : String) : Option Schema :=
  r.schemas.find? fun s => s.entity = entity

/-- Adds a schema that breaks no rule. -/
def insert (r : Registry) (s : Schema) : Except Failure (Registry × Schema) := do
  let s ← s.validate
  pure (r.put s, s)

/-- Adds the schema of an entity. -/
def declare (r : Registry) (entity table : String) (columns : List Column) :
    Except Failure (Registry × Schema) := do
  r.insert (← Schema.make entity table columns)

/-- The schema of an entity, which an operation needs. -/
def schemaOf (r : Registry) (entity : String) : Except Failure Schema :=
  match r.find? entity with
  | some s => .ok s
  | none => .error (.schemaNotFound entity)

/-- The first schema of a table. -/
def byTable? (r : Registry) (table : String) : Option Schema :=
  r.schemas.find? fun s => s.table = table

/-! ## Looking up after adding -/

theorem find?_putIn_self (s : Schema) (l : List Schema) :
    (putIn s l).find? (fun t => t.entity = s.entity) = some s := by
  induction l with
  | nil => simp [putIn]
  | cons t rest ih =>
    unfold putIn
    split
    · simp
    · rename_i h
      simp [h, ih]

theorem find?_putIn_of_ne {s : Schema} {entity : String} (h : entity ≠ s.entity)
    (l : List Schema) :
    (putIn s l).find? (fun t => t.entity = entity) = l.find? (fun t => t.entity = entity) := by
  induction l with
  | nil => simp [putIn, Ne.symm h]
  | cons t rest ih =>
    unfold putIn
    split
    · rename_i ht
      simp [ht, Ne.symm h]
    · by_cases hte : t.entity = entity <;> simp [hte, ih]

@[simp] theorem find?_put_self (r : Registry) (s : Schema) : (r.put s).find? s.entity = some s :=
  find?_putIn_self s r.schemas

theorem find?_put_of_ne (r : Registry) {s : Schema} {entity : String} (h : entity ≠ s.entity) :
    (r.put s).find? entity = r.find? entity :=
  find?_putIn_of_ne h r.schemas

end Registry
end Daybook.Schema
