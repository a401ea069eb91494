import Daybook.Sql.Affinity

/-!
# Statements

The statements that a database understands, as data, and their text. A value is either bound, and
then a `?` in the text, or written in the text as a literal; so the text of a statement depends on
how many values are bound and where, never on the values.

* `Operand`, `Condition`, `Query`, `Statement`;
* `Statement.text`: the text of a statement;
* `Statement.params`: the bound values, in the order of their marks in the text.
-/

namespace Daybook.Sql

/-! ## Values in statements -/

/-- A value in a statement. -/
inductive Operand where
  /-- A value that is bound to a mark in the text. -/
  | bound (value : Cell)
  /-- A value that stands in the text. -/
  | literal (value : Cell)
  deriving DecidableEq, Inhabited

namespace Operand

/-- The value. -/
def value : Operand → Cell
  | .bound v => v
  | .literal v => v

/-- The value, if it is bound. -/
def params : Operand → List Cell
  | .bound v => [v]
  | .literal _ => []

end Operand

/-- A text as a literal: in single quotes, a quote inside written twice. -/
def quoteLiteral (s : String) : String :=
  String.ofList ('\'' :: s.toList.flatMap (fun c => if c = '\'' then ['\'', '\''] else [c]) ++ ['\''])

/-- The literal of a cell. -/
def Cell.literal : Cell → String
  | .null => "NULL"
  | .int n => intText n
  | .real x => realText x
  | .text s => quoteLiteral s
  | .blob b =>
    "x'" ++ String.ofList (b.flatMap fun byte =>
      [Json.hexDigit (byte.toNat / 16), Json.hexDigit (byte.toNat % 16)]) ++ "'"

/-- An operand in the text. -/
def Operand.text : Operand → String
  | .bound _ => "?"
  | .literal v => v.literal

/-- Texts with commas between them. -/
def commaList (xs : List String) : String := ", ".intercalate xs

/-! ## Conditions -/

/-- How a column is compared with a value. -/
inductive Comparison where
  | eq | ne | gt | ge | lt | le
  /-- The value is a pattern. -/
  | like
  deriving DecidableEq, Repr

/-- The sign of a comparison. -/
def Comparison.text : Comparison → String
  | .eq => "="
  | .ne => "!="
  | .gt => ">"
  | .ge => ">="
  | .lt => "<"
  | .le => "<="
  | .like => "LIKE"

/-- A condition on a row. -/
inductive Condition where
  | compare (field : String) (op : Comparison) (value : Operand)
  | member (field : String) (negated : Bool) (values : List Operand)
  | all (conditions : List Condition)
  | any (conditions : List Condition)
  deriving Inhabited

namespace Condition

mutual

/-- The text of a condition; groups stand in parentheses. -/
def text : Condition → String
  | .compare field op value => field ++ " " ++ op.text ++ " " ++ value.text
  | .member field negated values =>
    field ++ (if negated then " NOT IN (" else " IN (") ++ commaList (values.map Operand.text) ++ ")"
  | .all conditions => "(" ++ " AND ".intercalate (texts conditions) ++ ")"
  | .any conditions => "(" ++ " OR ".intercalate (texts conditions) ++ ")"
termination_by structural c => c

/-- The texts of the parts of a group. -/
def texts : List Condition → List String
  | [] => []
  | c :: rest => text c :: texts rest
termination_by structural cs => cs

end

mutual

/-- The bound values of a condition, from left to right. -/
def params : Condition → List Cell
  | .compare _ _ value => value.params
  | .member _ _ values => values.flatMap Operand.params
  | .all conditions => paramsList conditions
  | .any conditions => paramsList conditions
termination_by structural c => c

/-- The bound values of several conditions, from left to right. -/
def paramsList : List Condition → List Cell
  | [] => []
  | c :: rest => params c ++ paramsList rest
termination_by structural cs => cs

end

/-- The text of conditions that all have to hold. -/
def conjunction (conditions : List Condition) : String := " AND ".intercalate (texts conditions)

/-- The clause that asks for all conditions; nothing for none. -/
def whereClause (conditions : List Condition) : String :=
  if conditions.isEmpty then "" else "WHERE " ++ conjunction conditions

end Condition

/-! ## Tables -/

/-- The definition of a column. -/
structure ColumnDef where
  name : String
  type : String
  /-- The texts that the column accepts; all values if there are none. -/
  allowed : List String := []
  notNull : Bool := false
  primaryKey : Bool := false
  default : Option Cell := none
  deriving DecidableEq, Inhabited

namespace ColumnDef

/-- The condition that a column with a list of accepted texts carries. -/
def checkText (c : ColumnDef) : String :=
  c.name ++ " IN (" ++ commaList (c.allowed.map quoteLiteral) ++ ")"

/-- The text of a definition. -/
def text (c : ColumnDef) : String :=
  c.name ++ (if c.type.isEmpty then "" else " " ++ c.type) ++
    (if c.allowed.isEmpty then "" else " CHECK(" ++ c.checkText ++ ")") ++
    (if c.notNull then " NOT NULL" else "") ++
    (if c.primaryKey then " PRIMARY KEY" else "") ++
    (match c.default with
      | some v => " DEFAULT " ++ v.literal
      | none => "")

/-- The affinity of the column. -/
def affinity (c : ColumnDef) : Affinity := Affinity.ofDeclared c.type

end ColumnDef

/-! ## Queries -/

/-- The direction of a sort. -/
inductive Direction where
  | ascending
  | descending
  deriving DecidableEq, Repr

/-- The word of a direction. -/
def Direction.text : Direction → String
  | .ascending => "ASC"
  | .descending => "DESC"

/-- One column of an answer. -/
inductive Item where
  | column (name : String) (label : Option String)
  | value (operand : Operand) (label : Option String)
  deriving Inhabited

/-- The columns of an answer. -/
inductive Output where
  /-- All columns of the table. -/
  | all
  /-- The count of the rows, under a name. -/
  | count (label : String)
  | columns (items : List Item)

/-- Which rows of the answer are kept, and in which order. -/
inductive Tail where
  /-- Sorted, then cut: `offset` rows are skipped and at most `limit` kept. -/
  | page (order : List (String × Direction)) (limit offset : Option Nat)
  /-- The first row alone. -/
  | first

/-- A query of one table, or of no table. -/
structure Query where
  output : Output
  source : Option String
  conditions : List Condition
  tail : Tail := .page [] none none

/-- The text of a column of an answer. -/
def Item.text : Item → String
  | .column name label => name ++ labelText label
  | .value operand label => operand.text ++ labelText label
where
  /-- The name given to a column of an answer. -/
  labelText : Option String → String
    | some l => " AS " ++ l
    | none => ""

/-- The values bound in a column of an answer. -/
def Item.params : Item → List Cell
  | .column _ _ => []
  | .value operand _ => operand.params

/-- The text of the columns of an answer. -/
def Output.text : Output → String
  | .all => "*"
  | .count label => "COUNT(*) AS " ++ label
  | .columns xs => commaList (xs.map Item.text)

/-- The values bound in the columns of an answer. -/
def Output.params : Output → List Cell
  | .columns xs => xs.flatMap Item.params
  | _ => []

/-- The text that cuts an answer. -/
def limitText : Option Nat → Option Nat → String
  | some limit, some offset => s!" LIMIT {limit} OFFSET {offset}"
  | some limit, none => s!" LIMIT {limit}"
  | none, some offset => s!" LIMIT -1 OFFSET {offset}"
  | none, none => ""

/-- The text of a sort. -/
def orderText (order : List (String × Direction)) : String :=
  if order.isEmpty then ""
  else " ORDER BY " ++ commaList (order.map fun p => p.1 ++ " " ++ p.2.text)

namespace Query

/-- The text of a query. -/
def text (q : Query) : String :=
  let head := "SELECT " ++ q.output.text ++
    (match q.source with
      | some table => " FROM " ++ table
      | none => "")
  match q.tail with
  | .first => head ++ " " ++ Condition.whereClause q.conditions ++ " LIMIT 1"
  | .page order limit offset =>
    head ++ (if q.conditions.isEmpty then "" else " " ++ Condition.whereClause q.conditions) ++
      orderText order ++ limitText limit offset

/-- The bound values of a query. -/
def params (q : Query) : List Cell := q.output.params ++ Condition.paramsList q.conditions

end Query

/-! ## Statements -/

/-- Which rows a change is about. -/
inductive Target where
  /-- All rows for which the conditions hold. -/
  | every (conditions : List Condition)
  /-- The first of them alone. -/
  | first (conditions : List Condition)

/-- The conditions of a target. -/
def Target.conditions : Target → List Condition
  | .every conditions => conditions
  | .first conditions => conditions

/-- The clause of a target, with the blank before it. -/
def Target.text (table : String) : Target → String
  | .every conditions =>
    if conditions.isEmpty then "" else " " ++ Condition.whereClause conditions
  | .first conditions =>
    " WHERE rowid IN (SELECT rowid FROM " ++ table ++ " " ++ Condition.whereClause conditions ++
      " LIMIT 1)"

/-- A change of one column. -/
inductive Assignment where
  | set (column : String) (value : Operand)
  /-- Counts the column up by one, from zero if it is null. -/
  | increment (column : String)

namespace Assignment

/-- The column that is changed. -/
def column : Assignment → String
  | .set c _ => c
  | .increment c => c

/-- The text of an assignment. -/
def text : Assignment → String
  | .set c v => c ++ " = " ++ v.text
  | .increment c => c ++ " = COALESCE(" ++ c ++ ", 0) + 1"

/-- The values bound in an assignment. -/
def params : Assignment → List Cell
  | .set _ v => v.params
  | .increment _ => []

end Assignment

/-- A statement. -/
inductive Statement where
  | createTable (ifNotExists : Bool) (table : String) (columns : List ColumnDef)
  | dropTable (ifExists : Bool) (table : String)
  | createIndex (unique ifNotExists : Bool) (index table : String) (columns : List String)
  | dropIndex (ifExists : Bool) (index : String)
  | addColumn (table : String) (column : ColumnDef)
  | dropColumn (table column : String)
  | insert (replace : Bool) (table : String) (columns : List String) (rows : List (List Operand))
  | select (query : Query)
  | update (table : String) (assignments : List Assignment) (target : Target)
  | delete (table : String) (target : Target)
  /-- Gives free space back; the contents stay. -/
  | vacuum
  /-- Asks how changes are made durable. -/
  | journalMode

/-- The definitions of a table in parentheses. -/
def columnsText (columns : List ColumnDef) : String :=
  "(" ++ commaList (columns.map ColumnDef.text) ++ ")"

namespace Statement

/-- The text of a statement. -/
def text : Statement → String
  | .createTable ifNotExists table columns =>
    "CREATE TABLE " ++ (if ifNotExists then "IF NOT EXISTS " else "") ++ table ++ " " ++
      columnsText columns
  | .dropTable ifExists table => "DROP TABLE " ++ (if ifExists then "IF EXISTS " else "") ++ table
  | .createIndex unique ifNotExists index table columns =>
    "CREATE " ++ (if unique then "UNIQUE " else "") ++ "INDEX " ++
      (if ifNotExists then "IF NOT EXISTS " else "") ++ index ++ " ON " ++ table ++ "(" ++
      commaList columns ++ ")"
  | .dropIndex ifExists index =>
    "DROP INDEX " ++ (if ifExists then "IF EXISTS " else "") ++ index
  | .addColumn table column => "ALTER TABLE " ++ table ++ " ADD COLUMN " ++ column.text
  | .dropColumn table column => "ALTER TABLE " ++ table ++ " DROP COLUMN " ++ column
  | .insert replace table columns rows =>
    (if replace then "INSERT OR REPLACE" else "INSERT") ++ " INTO " ++ table ++ " (" ++
      commaList columns ++ ") VALUES " ++
      commaList (rows.map fun row => "(" ++ commaList (row.map Operand.text) ++ ")")
  | .select query => query.text
  | .update table assignments target =>
    "UPDATE " ++ table ++ " SET " ++ commaList (assignments.map Assignment.text) ++
      target.text table
  | .delete table target => "DELETE FROM " ++ table ++ target.text table
  | .vacuum => "VACUUM"
  | .journalMode => "PRAGMA journal_mode"

/-- The bound values of a statement, in the order of their marks. -/
def params : Statement → List Cell
  | .insert _ _ _ rows => rows.flatMap fun row => row.flatMap Operand.params
  | .select query => query.params
  | .update _ assignments target =>
    assignments.flatMap Assignment.params ++ Condition.paramsList target.conditions
  | .delete _ target => Condition.paramsList target.conditions
  | _ => []

end Statement
end Daybook.Sql
