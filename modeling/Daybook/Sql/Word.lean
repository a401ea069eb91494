import Daybook.Sql.Fault

/-!
# Words of statements

Names stand in a statement as they are, so a name that is also a word of the language changes what
the text says. Some words are never names, and some only begin an expression of their own.

* `isReserved`: a word that is never a name;
* `Operator.clash?`: where the text breaks off when a name stands before a comparison;
* `Statement.clash?`: the first fault of the text of a statement.
-/

namespace Daybook.Sql

/-- The text in capital letters. -/
def upper (s : String) : String := String.ofList (s.toList.map Char.toUpper)

/-- Two names are the same up to the case of the letters from `a` to `z`. -/
def sameName (a b : String) : Bool := upper a = upper b

/-- The words that are never names. -/
def reservedWords : List String :=
  ["ADD", "ALL", "ALTER", "AND", "AS", "AUTOINCREMENT", "BETWEEN", "CASE", "CHECK", "COLLATE",
    "COMMIT", "CONSTRAINT", "CREATE", "DEFAULT", "DEFERRABLE", "DELETE", "DISTINCT", "DROP", "ELSE",
    "ESCAPE", "EXCEPT", "EXISTS", "FOREIGN", "FROM", "GROUP", "HAVING", "IN", "INDEX", "INSERT",
    "INTERSECT", "INTO", "IS", "ISNULL", "JOIN", "LIMIT", "NOT", "NOTHING", "NOTNULL", "NULL", "ON",
    "OR", "ORDER", "PRIMARY", "REFERENCES", "RETURNING", "SELECT", "SET", "TABLE", "THEN", "TO",
    "TRANSACTION", "UNION", "UNIQUE", "UPDATE", "USING", "VALUES", "WHEN", "WHERE"]

/-- The words that stand for the time at which a statement runs. -/
def momentWords : List String := ["CURRENT_DATE", "CURRENT_TIME", "CURRENT_TIMESTAMP"]

/-- The word is never a name. -/
def isReserved (word : String) : Bool := reservedWords.contains (upper word)

/-! ## Names before operators -/

/-- What a word does at the start of an expression. -/
inductive Opening where
  /-- It is a name or a value. -/
  | operand
  /-- No expression begins with it. -/
  | none
  /-- An expression follows it. -/
  | expression
  /-- A name follows it. -/
  | name
  /-- A parenthesis follows it. -/
  | parenthesis
  deriving DecidableEq, Repr

/-- What a word does at the start of an expression; right after a parenthesis, a query may begin. -/
def opening (afterParenthesis : Bool) (word : String) : Opening :=
  let w := upper word
  if w = "NULL" then .operand
  else if w = "NOT" || w = "CASE" then .expression
  else if w = "EXISTS" || w = "CAST" || w = "RAISE" then .parenthesis
  else if afterParenthesis && w = "SELECT" then .expression
  else if afterParenthesis && w = "VALUES" then .parenthesis
  else if afterParenthesis && w = "WITH" then .name
  else if isReserved w then .none
  else .operand

/-- The word at which a name before the given words breaks off, if it does. `LIKE` may itself be a
name, and `NOT` begin an expression. -/
def clash? (afterParenthesis : Bool) (word : String) (next : List String) : Option Fault :=
  match opening afterParenthesis word, next with
  | .operand, _ => none
  | .none, _ => some (.unexpected word)
  | .expression, "LIKE" :: w :: _ => some (.unexpected w)
  | .expression, "NOT" :: w :: _ => some (.unexpected w)
  | .name, "LIKE" :: w :: _ => some (.unexpected w)
  | _, w :: _ => some (.unexpected w)
  | _, [] => some .incomplete

/-- The first fault in the terms of a sort, before the given words. A direction may itself be a
name, which `NOT` may stand before, and `CASE` too, but with more behind it. -/
def sortClash? (next : List String) : List (String × Direction) → Option Fault
  | [] => none
  | (word, direction) :: rest =>
    let following := if rest.isEmpty then next else [","]
    let fault :=
      if upper word = "NOT" then none
      else if upper word = "CASE" then
        some ((following.head?.map Fault.unexpected).getD .incomplete)
      else clash? false word [direction.text]
    fault.or (sortClash? next rest)

/-- A name where only a name may stand. -/
def nameClash? (word : String) : Option Fault :=
  if isReserved word then some (.unexpected word) else none

/-! ## Statements -/

namespace Condition

mutual

/-- The first fault in the text of a condition. -/
def clash? (afterParenthesis : Bool) : Condition → Option Fault
  | .compare field op value => Sql.clash? afterParenthesis field [op.text, value.text]
  | .member field negated _ =>
    Sql.clash? afterParenthesis field (if negated then ["NOT", "IN"] else ["IN", "("])
  | .all conditions => clashes? true conditions
  | .any conditions => clashes? true conditions
termination_by structural c => c

/-- The first fault in the texts of several conditions. -/
def clashes? (afterParenthesis : Bool) : List Condition → Option Fault
  | [] => none
  | c :: rest => (clash? afterParenthesis c).or (clashes? false rest)
termination_by structural cs => cs

end

mutual

/-- How deep a condition is nested, as an expression. -/
def depth : Condition → Nat
  | .compare _ _ _ => 2
  | .member _ _ _ => 2
  | .all conditions => chainDepth 0 conditions
  | .any conditions => chainDepth 0 conditions
termination_by structural c => c

/-- How deep a chain of conditions is nested: each further one adds a level above those before. -/
def chainDepth (before : Nat) : List Condition → Nat
  | [] => before
  | c :: rest => chainDepth (if before = 0 then depth c else max before (depth c) + 1) rest
termination_by structural cs => cs

end

end Condition

/-- The deepest expression that is accepted. -/
def maxDepth : Nat := 1000

/-- The most marks for bound values that a statement may have. -/
def maxMarks : Nat := 32766

/-- The first fault in the clause of conditions. -/
def whereClash? (conditions : List Condition) : Option Fault :=
  (Condition.clashes? false conditions).or
    (if Condition.chainDepth 0 conditions > maxDepth then some .tooDeep else none)

/-- The first of several faults. -/
def firstFault? (faults : List (Option Fault)) : Option Fault := faults.findSome? id

namespace ColumnDef

/-- The words that follow the name of a column. -/
def wordsAfterName (c : ColumnDef) : List String :=
  (if c.type.isEmpty then [] else [c.type]) ++ (if c.allowed.isEmpty then [] else ["CHECK"]) ++
    (if c.notNull then ["NOT"] else []) ++ (if c.primaryKey then ["PRIMARY"] else []) ++
    (if c.default.isSome then ["DEFAULT"] else [])

/-- The fault of a text as a literal: the text of a statement ends before a null character, so that
the quote is not closed. -/
def literalClash? (s : String) : Option Fault :=
  if s.toList.contains '\x00' then
    some (.unrecognized (String.ofList ((quoteLiteral s).toList.takeWhile (· ≠ '\x00'))))
  else none

/-- The texts that stand in the definition. -/
def literals (c : ColumnDef) : List String :=
  c.allowed ++
    match c.default with
    | some (.text s) => [s]
    | _ => []

/-- The first fault in the text of a column; after the first column of a table, constraints of the
table may begin. -/
def clash? (c : ColumnDef) (afterFirst : Bool) : Option Fault :=
  let startsConstraint :=
    afterFirst && ["PRIMARY", "UNIQUE", "CHECK", "FOREIGN"].contains (upper c.name)
  if startsConstraint then some (.unexpected (c.wordsAfterName.headD ","))
  else (nameClash? c.name).or
    ((if c.allowed.isEmpty then none else Sql.clash? false c.name ["IN", "("]).or
      (c.literals.findSome? literalClash?))

end ColumnDef

namespace Statement

/-- The first fault of the text of a statement: a word at which it breaks off, or too large an
expression. -/
def clash? (s : Statement) : Option Fault :=
  if s.params.length > maxMarks then some .tooManyMarks
  else
    match s with
    | .createTable _ table _ => nameClash? table
    | .dropTable _ table => nameClash? table
    | .createIndex _ _ index table columns =>
      firstFault? ([nameClash? index, nameClash? table] ++
        columns.map fun c => Sql.clash? false c [")"])
    | .dropIndex _ index => nameClash? index
    | .addColumn table column => (nameClash? table).or (column.clash? false)
    | .dropColumn table column => (nameClash? table).or (nameClash? column)
    | .insert _ table columns _ => firstFault? ((table :: columns).map nameClash?)
    | .select q =>
      firstFault? [q.source.bind nameClash?, whereClash? q.conditions,
        match q.tail with
        | .first => none
        | .page order limit offset =>
          sortClash? (if limit.isSome || offset.isSome then ["LIMIT"] else []) order]
    | .update table assignments target =>
      firstFault? ([nameClash? table] ++ assignments.map (fun a => nameClash? a.column) ++
        [whereClash? target.conditions])
    | .delete table target => (nameClash? table).or (whereClash? target.conditions)
    | .vacuum => none
    | .journalMode => none

end Statement
end Daybook.Sql
