import Daybook.Schema.Basic

/-!
# Filters

A filter is a list of predicates, each on one field, that all have to hold. Predicates without a
value say nothing and are left out, so a filter without values asks for every row.

* `Predicate`, `Filter`;
* `Predicate.isEmpty`, `Filter.isEmpty`: nothing is asked for;
* `Predicate.condition?`, `Filter.compile`: the conditions of a statement.
-/

namespace Daybook

/-- A condition on one field. -/
inductive Predicate where
  | eq (value : Json)
  | ne (value : Json)
  | gt (value : Json)
  | ge (value : Json)
  | lt (value : Json)
  | le (value : Json)
  | isIn (values : List Json)
  | notIn (values : List Json)
  /-- A pattern: `^` in front and `$` behind tie it to the ends of a text. -/
  | pattern (text : String)
  /-- One of the predicates holds. -/
  | any (inner : List Predicate)
  /-- All of the predicates hold. -/
  | all (inner : List Predicate)
  deriving Inhabited

/-- Predicates with their fields, all of which have to hold. -/
structure Filter where
  clauses : List (String × Predicate) := []
  deriving Inhabited

/-! ## What says nothing -/

/-- The value says nothing: null, the empty text, the empty list. -/
def Json.isBlankValue : Json → Bool
  | .null => true
  | .str s => s.isEmpty
  | .arr items => items.isEmpty
  | _ => false

/-- The value says nothing as one to be equal to: also zero and false. -/
def Json.isFalsy : Json → Bool
  | .bool b => !b
  | .int n => n = 0
  | .real x => x.isZero
  | v => v.isBlankValue

namespace Predicate

mutual

/-- The predicate says nothing. -/
def isEmpty : Predicate → Bool
  | .eq v => v.isFalsy
  | .ne v | .gt v | .ge v | .lt v | .le v => v.isBlankValue
  | .isIn values | .notIn values => values.isEmpty
  | .pattern text => text.isEmpty
  | .any inner | .all inner => allEmpty inner
termination_by structural p => p

/-- All of the predicates say nothing. -/
def allEmpty : List Predicate → Bool
  | [] => true
  | p :: rest => isEmpty p && allEmpty rest
termination_by structural ps => ps

end

end Predicate

/-- The filter asks for every row. -/
def Filter.isEmpty (f : Filter) : Bool := f.clauses.all fun c => c.2.isEmpty

/-! ## Compilation -/

/-- A value bound in a condition. -/
def bindValue (v : Json) : Sql.Operand := .bound (.ofJson v)

/-- A list without its last element, if that is the given one. -/
def dropLast? (c : Char) (s : List Char) : Option (List Char) :=
  if s.getLast? = some c then some s.dropLast else none

/-- How a pattern is compared, and with what text: `%` stands for anything at an end that is not
tied. -/
def patternText (pattern : List Char) : Sql.Comparison × List Char :=
  match pattern with
  | '^' :: rest =>
    match dropLast? '$' rest with
    | some exact => (.eq, exact)
    | none => (.like, rest ++ ['%'])
  | pattern =>
    match dropLast? '$' pattern with
    | some ending => (.like, '%' :: ending)
    | none => (.like, '%' :: pattern ++ ['%'])

/-- The condition of a pattern. -/
def patternCondition (field pattern : String) : Sql.Condition :=
  let (op, text) := patternText pattern.toList
  .compare field op (.bound (.text (String.ofList text)))

namespace Predicate

mutual

/-- The condition of a predicate on a field, unless the predicate says nothing. -/
def condition? (field : String) : Predicate → Option Sql.Condition
  | .eq v => if v.isFalsy then none else some (.compare field .eq (bindValue v))
  | .ne v => if v.isBlankValue then none else some (.compare field .ne (bindValue v))
  | .gt v => if v.isBlankValue then none else some (.compare field .gt (bindValue v))
  | .ge v => if v.isBlankValue then none else some (.compare field .ge (bindValue v))
  | .lt v => if v.isBlankValue then none else some (.compare field .lt (bindValue v))
  | .le v => if v.isBlankValue then none else some (.compare field .le (bindValue v))
  | .isIn values =>
    if values.isEmpty then none else some (.member field false (values.map bindValue))
  | .notIn values =>
    if values.isEmpty then none else some (.member field true (values.map bindValue))
  | .pattern text => if text.isEmpty then none else some (patternCondition field text)
  | .any inner => if allEmpty inner then none else some (.any (conditions field inner))
  | .all inner => if allEmpty inner then none else some (.all (conditions field inner))
termination_by structural p => p

/-- The conditions of the predicates on a field that say something. -/
def conditions (field : String) : List Predicate → List Sql.Condition
  | [] => []
  | p :: rest =>
    match condition? field p with
    | some c => c :: conditions field rest
    | none => conditions field rest
termination_by structural ps => ps

end

end Predicate

namespace Filter

/-- The conditions of clauses, in their order. -/
def compileClauses : List (String × Predicate) → Except Failure (List Sql.Condition)
  | [] => .ok []
  | (field, p) :: rest =>
    if !isIdentifier field then .error (.invalidInput (.fieldName field))
    else
      (compileClauses rest).map fun conditions => (p.condition? field).toList ++ conditions

/-- The conditions of a filter, all of which have to hold; every field is an identifier. -/
def compile (f : Filter) : Except Failure (List Sql.Condition) := compileClauses f.clauses

end Filter
end Daybook
