import Daybook.Filter.Basic

/-!
# Reading filters

A filter is written as a JSON object: a field with a value, a list of values, or an object of
operators, whose names may begin with `$`. Inside `or` and `and` stand the same forms.

* `Predicate.ofField`: the predicates of one field;
* `Filter.ofJson`: the filter of a value.
-/

namespace Daybook

/-- The name of an operator without the sign in front. -/
def operatorName (op : String) : List Char :=
  match op.toList with
  | '$' :: rest => rest
  | cs => cs

/-- The list that an operator needs; null counts as empty. -/
def listOf (op : String) (operand : Json) : Except Failure (List Json) :=
  match operand with
  | .arr items => .ok items
  | .null => .ok []
  | v => .error (.invalidInput (.needsList op v))

/-- The text that an operator needs; null counts as empty. -/
def textOf (op : String) (operand : Json) : Except Failure String :=
  match operand with
  | .str s => .ok s
  | .null => .ok ""
  | v => .error (.invalidInput (.needsText op v))

/-- One predicate as it is, any other number as one group. -/
def asOne : List Predicate → Predicate
  | [p] => p
  | ps => .all ps

/-- An operator that takes values, not predicates. -/
inductive Leaf where
  | value (make : Json → Predicate)
  | list (make : List Json → Predicate)
  | text (make : String → Predicate)

/-- The operators that take values. -/
def leaf? (name : String) : Option Leaf :=
  match name with
  | "eq" => some (.value .eq)
  | "ne" | "neq" => some (.value .ne)
  | "gt" => some (.value .gt)
  | "gte" => some (.value .ge)
  | "lt" => some (.value .lt)
  | "lte" => some (.value .le)
  | "in" => some (.list .isIn)
  | "nin" | "notIn" => some (.list .notIn)
  | "regex" => some (.text .pattern)
  | _ => none

/-- The predicate of an operator that takes values. -/
def Leaf.predicate (op : String) (operand : Json) : Leaf → Except Failure Predicate
  | .value make => .ok (make operand)
  | .list make => (listOf op operand).map make
  | .text make => (textOf op operand).map make

/-- The operators that take predicates. -/
def group? (name : String) : Option (List Predicate → Predicate) :=
  match name with
  | "or" => some .any
  | "and" => some .all
  | _ => none

namespace Predicate

mutual

/-- The predicates of the value of a field: one for each operator of an object. -/
def ofField : Json → Except Failure (List Predicate)
  | .obj operators => ofOperators operators
  | .arr items => .ok [.isIn items]
  | v => .ok [.eq v]
termination_by structural v => v

/-- The predicates of several operators with their operands. -/
def ofOperators : List (String × Json) → Except Failure (List Predicate)
  | [] => .ok []
  | p :: rest =>
    match ofOperator p with
    | .error e => .error e
    | .ok q => (ofOperators rest).map (q :: ·)
termination_by structural ps => ps

/-- The predicate of an operator with its operand. -/
def ofOperator : String × Json → Except Failure Predicate
  | (op, operand) =>
    match leaf? (String.ofList (operatorName op)), group? (String.ofList (operatorName op)) with
    | some leaf, _ => leaf.predicate op operand
    | none, some make =>
      match ofOperand operand with
      | some inner => inner.map make
      | none => .error (.invalidInput (.needsList op operand))
    | none, none => .error (.invalidInput (.unknownOperator op))
termination_by structural p => p

/-- The predicates of a list of values of the same field; null counts as empty, any other value is
no list. -/
def ofOperand : Json → Option (Except Failure (List Predicate))
  | .arr items => some (ofItems items)
  | .null => some (.ok [])
  | _ => none
termination_by structural v => v

/-- The predicates of several values of the same field, one for each. -/
def ofItems : List Json → Except Failure (List Predicate)
  | [] => .ok []
  | v :: rest =>
    match ofField v with
    | .error e => .error e
    | .ok ps => (ofItems rest).map (asOne ps :: ·)
termination_by structural vs => vs

end

end Predicate

namespace Filter

/-- The clauses of fields with their values. -/
def clausesOf : List (String × Json) → Except Failure (List (String × Predicate))
  | [] => .ok []
  | (field, v) :: rest => do
    let ps ← Predicate.ofField v
    let clauses ← clausesOf rest
    pure (ps.map (fun p => (field, p)) ++ clauses)

/-- The filter of a JSON value: an object, or null for the filter that asks for every row. -/
def ofJson : Json → Except Failure Filter
  | .null => .ok ⟨[]⟩
  | .obj fields => (clausesOf fields).map .mk
  | v => .error (.invalidInput (.filterShape v))

end Filter
end Daybook
