import Daybook.Sql.Database

/-!
# Reading statements

Statements are read from their text, with values for the marks of the text. The grammar is that of
`Statement`: one table at a time, conditions without negation of groups.

* `Token`, `readTokens`;
* `readStatement?`: the first statement of a text;
* `readScript`: all statements of a text.
-/

namespace Daybook.Sql

/-! ## Words -/

/-- A word or sign of a text. -/
inductive Token where
  | word (s : String)
  | number (value : Cell) (text : String)
  | quoted (s : String)
  | mark
  | sign (s : String)
  /-- Characters that are no word. -/
  | illegal (s : String)
  deriving DecidableEq, Inhabited

/-- The text of a word or sign. -/
def Token.text : Token → String
  | .word s => s
  | .number _ s => s
  | .quoted s => quoteLiteral s
  | .mark => "?"
  | .sign s => s
  | .illegal s => s

/-- A character that begins a name. -/
def startsName (c : Char) : Bool := c.isAlpha || c = '_' || '\x80' ≤ c

/-- A character inside a name. -/
def continuesName (c : Char) : Bool := startsName c || c.isDigit

/-- The inside of a quoted text, in which the quote is written twice, and what follows it. -/
def readQuoted? (quote : Char) : List Char → Option (List Char × List Char)
  | [] => none
  | c :: rest =>
    if c = quote then
      match rest with
      | d :: rest' =>
        if d = quote then (readQuoted? quote rest').map fun (s, r) => (quote :: s, r)
        else some ([], rest)
      | [] => some ([], [])
    else (readQuoted? quote rest).map fun (s, r) => (c :: s, r)

/-- What follows a comment that ends with a star and a slash. -/
def afterComment : List Char → List Char
  | '*' :: '/' :: rest => rest
  | _ :: rest => afterComment rest
  | [] => []

/-- The signs of two characters. -/
def doubleSigns : List String := ["<=", ">=", "!=", "<>", "==", "||"]

/-- Characters that are no signs. -/
def illegalSigns : List Char := ['!', '#', '\\', '^', '\x7b', '\x7d']

/-- The sign of one character. -/
def signOf (c : Char) : Token :=
  if illegalSigns.contains c then .illegal (String.ofList [c]) else .sign (String.ofList [c])

/-- The byte string of hexadecimal digits, two for each byte. -/
def hexBytes? : List Char → Option Bytes
  | [] => some []
  | c :: d :: rest => do
    let high ← hexValue? c
    let low ← hexValue? d
    return UInt8.ofNat (16 * high + low) :: (← hexBytes? rest)
  | [_] => none
where
  /-- The value of a hexadecimal digit. -/
  hexValue? (c : Char) : Option Nat :=
    if '0' ≤ c ∧ c ≤ '9' then some (c.toNat - '0'.toNat)
    else if 'a' ≤ c ∧ c ≤ 'f' then some (c.toNat - 'a'.toNat + 10)
    else if 'A' ≤ c ∧ c ≤ 'F' then some (c.toNat - 'A'.toNat + 10)
    else none

/-- The word of a quoted text, after the quote that begins it, and what follows it; a text that does
not end is no word. -/
def quotedToken (quote : Char) (make : String → Token) (rest : List Char) : Token × List Char :=
  match readQuoted? quote rest with
  | some (s, rest) => (make (String.ofList s), rest)
  | none => (.illegal (String.ofList (quote :: rest)), [])

/-- The word of a byte string in hexadecimal digits, whose letter is `c`. -/
def blobToken (c : Char) (digits : String) : Token :=
  let text := String.ofList [c, '\''] ++ digits ++ "'"
  match hexBytes? digits.toList with
  | some b => .number (.blob b) text
  | none => .illegal text

/-- The first word of a text that begins with `c`, and what follows it; none for a blank or a
comment. -/
def nextToken (c : Char) (rest : List Char) : Option Token × List Char :=
  if isNumberSpace c then (none, rest)
  else if c = '?' then (some .mark, rest)
  else if c = '\'' then (quotedToken c .quoted rest).map some id
  else if c = '"' then (quotedToken c .word rest).map some id
  else if c = '-' && rest.head? = some '-' then (none, rest.dropWhile (· ≠ '\n'))
  else if c = '/' && rest.head? = some '*' then (none, afterComment (rest.drop 1))
  else if (c = 'x' || c = 'X') && rest.head? = some '\'' then
    (quotedToken '\'' (blobToken c) (rest.drop 1)).map some id
  else if startsName c then
    (some (.word (String.ofList (c :: rest.takeWhile continuesName))), rest.dropWhile continuesName)
  else if c.isDigit then
    let n := NumberText.read (c :: rest)
    let text := (c :: rest).take ((c :: rest).length - n.rest.length)
    (some (.number n.toCell (String.ofList text)), n.rest)
  else
    match rest with
    | d :: rest' =>
      if doubleSigns.contains (String.ofList [c, d]) then
        (some (.sign (String.ofList [c, d])), rest')
      else (some (signOf c), rest)
    | [] => (some (signOf c), rest)

/-- The words and signs of a text; `fuel` is at least its length. -/
def readTokens : Nat → List Char → List Token
  | 0, _ => []
  | _, [] => []
  | fuel + 1, c :: rest =>
    let (token, rest) := nextToken c rest
    token.toList ++ readTokens fuel rest

/-! ## Readers -/

/-- What is left to read, and the values for the marks in it. -/
structure Source where
  tokens : List Token
  values : List Cell

/-- A reader takes words from a source. -/
abbrev Reader := StateT Source (Except Fault)

namespace Reader

/-- Refuses the next word. -/
def refuse {α : Type} : Reader α := do
  match (← get).tokens with
  | [] => throw .incomplete
  | .illegal text :: _ => throw (.unrecognized text)
  | t :: _ => throw (.unexpected t.text)

/-- The next word or sign, which is not taken. -/
def peek : Reader (Option Token) := return (← get).tokens.head?

/-- Takes the next word or sign. -/
def skip : Reader Unit := modify fun s => { s with tokens := s.tokens.drop 1 }

/-- The next is the given word. -/
def isWord (w : String) : Reader Bool := do
  match ← peek with
  | some (.word s) => pure (upper s == w)
  | _ => pure false

/-- The next is the given sign. -/
def isSign (w : String) : Reader Bool := return (← peek) == some (.sign w)

/-- Takes the given word, if it is next. -/
def tryWord (w : String) : Reader Bool := do
  if ← isWord w then skip; pure true else pure false

/-- Takes the given sign, if it is next. -/
def trySign (w : String) : Reader Bool := do
  if ← isSign w then skip; pure true else pure false

/-- Takes the given words. -/
def words : List String → Reader Unit
  | [] => pure ()
  | w :: rest => do if ← tryWord w then words rest else refuse

/-- Takes the given sign. -/
def sign (w : String) : Reader Unit := do if ← trySign w then pure () else refuse

/-- Takes the given words, if the first of them is next. -/
def tryWords : List String → Reader Bool
  | [] => pure true
  | w :: rest => do if ← tryWord w then words rest; pure true else pure false

/-- Takes a name. -/
def name : Reader String := do
  match ← peek with
  | some (.word s) => if isReserved s then refuse else skip; pure s
  | _ => refuse

/-- Takes the value for a mark. -/
def markValue : Reader Cell := do
  skip
  let s ← get
  set { s with values := s.values.drop 1 }
  pure (s.values.headD .null)

/-- The digits of the least integer, which no positive integer has. -/
def leastMagnitude : String := "9223372036854775808"

/-- Takes a value. -/
def operand : Reader Operand := do
  match ← peek with
  | some .mark => return .bound (← markValue)
  | some (.number c _) => skip; pure (.literal c)
  | some (.quoted s) => skip; pure (.literal (.text s))
  | some (.sign "-") =>
    skip
    match ← peek with
    | some (.number (.int n) _) => skip; pure (.literal (.int (-n)))
    | some (.number (.real x) text) =>
      skip
      pure (.literal (if text = leastMagnitude then .int Int64.minValue
        else .real ⟨x.bits ^^^ 0x8000000000000000⟩))
    | _ => refuse
  | some (.word s) => if upper s = "NULL" then do skip; pure (.literal .null) else refuse
  | _ => refuse

/-- Items with commas between them; `fuel` is at least their number. -/
def separated {α : Type} (item : Reader α) : Nat → Reader (List α)
  | 0 => return [← item]
  | fuel + 1 => do
    let x ← item
    if ← trySign "," then return x :: (← separated item fuel) else pure [x]

/-- Items with commas between them. -/
def list {α : Type} (item : Reader α) : Reader (List α) := do
  separated item (← get).tokens.length

/-- Items with commas between them, in parentheses. -/
def group {α : Type} (item : Reader α) : Reader (List α) := do
  sign "("
  let xs ← list item
  sign ")"
  pure xs

/-! ## Conditions -/

/-- The comparison of a sign. -/
def comparison? : String → Option Comparison
  | "=" | "==" => some .eq
  | "!=" | "<>" => some .ne
  | ">" => some .gt
  | ">=" => some .ge
  | "<" => some .lt
  | "<=" => some .le
  | _ => none

/-- A comparison of a column. -/
def comparison : Reader Condition := do
  let field ← name
  if ← tryWord "LIKE" then return .compare field .like (← operand)
  else if ← tryWord "NOT" then
    words ["IN"]
    return .member field true (← group operand)
  else if ← tryWord "IN" then return .member field false (← group operand)
  else
    match ← peek with
    | some (.sign s) =>
      match comparison? s with
      | some op => skip; return .compare field op (← operand)
      | none => refuse
    | _ => refuse

/-- One condition as it is, several as a group. -/
def grouped (make : List Condition → Condition) : List Condition → Condition
  | [c] => c
  | cs => make cs

/-- Items with a word between them; `fuel` is at least their number. -/
def joined (word : String) (item : Reader Condition) : Nat → Reader (List Condition)
  | 0 => return [← item]
  | fuel + 1 => do
    let x ← item
    if ← tryWord word then return x :: (← joined word item fuel) else pure [x]

/-- A condition; `AND` binds tighter than `OR`. -/
def condition : Nat → Reader Condition
  | 0 => refuse
  | fuel + 1 => do
    let atom : Reader Condition := do
      if ← trySign "(" then
        let c ← condition fuel
        sign ")"
        pure c
      else comparison
    let conjunction : Reader Condition := return grouped .all (← joined "AND" atom fuel)
    return grouped .any (← joined "OR" conjunction fuel)

/-- The conditions after `WHERE`, none without it. -/
def conditions : Reader (List Condition) := do
  if ← tryWord "WHERE" then
    match ← condition ((← get).tokens.length + 1) with
    | .all cs => pure cs
    | c => pure [c]
  else pure []

/-! ## Columns -/

/-- The words of a type. -/
def typeWords : Nat → Reader (List String)
  | 0 => pure []
  | fuel + 1 => do
    match ← peek with
    | some (.word s) => if isReserved s then pure [] else skip; return s :: (← typeWords fuel)
    | _ => pure []

/-- A literal. -/
def literal : Reader Cell := do
  match ← operand with
  | .literal v => pure v
  | .bound _ => refuse

/-- The constraints of a column. -/
def constraints : Nat → ColumnDef → Reader ColumnDef
  | 0, c => pure c
  | fuel + 1, c => do
    if ← tryWords ["NOT", "NULL"] then constraints fuel { c with notNull := true }
    else if ← tryWords ["PRIMARY", "KEY"] then constraints fuel { c with primaryKey := true }
    else if ← tryWord "DEFAULT" then
      let v ← literal
      constraints fuel { c with default := some v }
    else if ← tryWord "CHECK" then
      sign "("
      let _ ← name
      words ["IN"]
      let values ← group literal
      sign ")"
      let texts := values.filterMap fun
        | .text s => some s
        | _ => none
      constraints fuel { c with allowed := texts }
    else pure c

/-- The definition of a column. -/
def column : Reader ColumnDef := do
  let n ← name
  let type := " ".intercalate (← typeWords (← get).tokens.length)
  constraints 8 ⟨n, type, [], false, false, none⟩

/-! ## Statements -/

/-- A name for a column of an answer. -/
def label : Reader (Option String) := do
  if ← tryWord "AS" then return some (← name) else pure none

/-- One column of an answer. -/
def item : Reader Item := do
  match ← peek with
  | some (.word s) =>
    if upper s = "NULL" then return .value (← operand) (← label)
    else return .column (← name) (← label)
  | _ => return .value (← operand) (← label)

/-- The columns of an answer. -/
def output : Reader Output := do
  if ← trySign "*" then pure .all
  else
    match (← get).tokens with
    | .word w :: .sign "(" :: .sign "*" :: .sign ")" :: rest =>
      if upper w = "COUNT" then
        modify fun s => { s with tokens := rest }
        return .count ((← label).getD (w ++ "(*)"))
      else refuse
    | _ => return .columns (← list item)

/-- A sort term. -/
def sortTerm : Reader (String × Direction) := do
  let n ← name
  if ← tryWord "DESC" then pure (n, .descending)
  else
    let _ ← tryWord "ASC"
    pure (n, .ascending)

/-- A whole number. -/
def whole : Reader (Option Nat) := do
  match ← operand with
  | .literal (.int n) | .bound (.int n) => pure (if n.toInt < 0 then none else some n.toInt.toNat)
  | _ => throw .mismatch

/-- A query, after `SELECT`. -/
def query : Reader Query := do
  let columns ← output
  let table ← (do if ← tryWord "FROM" then return some (← name) else pure none)
  let cs ← conditions
  let order ← (do if ← tryWords ["ORDER", "BY"] then list sortTerm else pure [])
  let limit ← (do if ← tryWord "LIMIT" then whole else pure none)
  let offset ← (do if ← tryWord "OFFSET" then whole else pure none)
  pure ⟨columns, table, cs, .page order limit offset⟩

/-- An assignment. -/
def assignment : Reader Assignment := do
  let c ← name
  sign "="
  if ← tryWord "COALESCE" then
    sign "("
    let _ ← name
    sign ","
    let _ ← operand
    sign ")"
    sign "+"
    let _ ← operand
    pure (.increment c)
  else return .set c (← operand)

/-- `IF NOT EXISTS` or nothing. -/
def ifNotExists : Reader Bool := tryWords ["IF", "NOT", "EXISTS"]

/-- `IF EXISTS` or nothing. -/
def ifExists : Reader Bool := tryWords ["IF", "EXISTS"]

/-- An index, after `INDEX`. -/
def index (unique : Bool) : Reader Statement := do
  let absent ← ifNotExists
  let n ← name
  words ["ON"]
  let table ← name
  return .createIndex unique absent n table (← group name)

/-- A statement, without the sign that ends it. -/
def statement : Reader Statement := do
  if ← tryWord "SELECT" then return .select (← query)
  else if ← tryWord "INSERT" then
    let replace ← tryWords ["OR", "REPLACE"]
    words ["INTO"]
    let table ← name
    let columns ← (do if ← isSign "(" then group name else pure [])
    words ["VALUES"]
    return .insert replace table columns (← list (group operand))
  else if ← tryWord "UPDATE" then
    let table ← name
    words ["SET"]
    let assignments ← list assignment
    return .update table assignments (.every (← conditions))
  else if ← tryWord "DELETE" then
    words ["FROM"]
    let table ← name
    return .delete table (.every (← conditions))
  else if ← tryWord "CREATE" then
    if ← tryWord "TABLE" then
      let absent ← ifNotExists
      let table ← name
      return .createTable absent table (← group column)
    else if ← tryWord "UNIQUE" then
      words ["INDEX"]
      index true
    else
      words ["INDEX"]
      index false
  else if ← tryWord "DROP" then
    if ← tryWord "TABLE" then return .dropTable (← ifExists) (← name)
    else
      words ["INDEX"]
      return .dropIndex (← ifExists) (← name)
  else if ← tryWord "ALTER" then
    words ["TABLE"]
    let table ← name
    if ← tryWord "ADD" then
      let _ ← tryWord "COLUMN"
      return .addColumn table (← column)
    else
      words ["DROP"]
      let _ ← tryWord "COLUMN"
      return .dropColumn table (← name)
  else if ← tryWord "VACUUM" then pure .vacuum
  else if ← tryWord "PRAGMA" then
    words ["JOURNAL_MODE"]
    pure .journalMode
  else refuse

/-- A statement up to the sign that ends it, or to the end. -/
def closed : Reader Statement := do
  let s ← statement
  match ← peek with
  | none => pure s
  | some (.sign ";") => skip; pure s
  | some _ => refuse

end Reader

/-- The first statement of a list of words, with values for its marks, and what follows it; the
words have a statement. -/
def readNext? (tokens : List Token) (values : List Cell) :
    Except Fault (Statement × List Token) := do
  let (s, rest) ← Reader.closed.run ⟨tokens, values⟩
  pure (s, rest.tokens)

/-- The words without signs that end statements in front. -/
def dropEnds (tokens : List Token) : List Token := tokens.dropWhile (· = .sign ";")

/-- The first statement of a text, with values for its marks; none if there is no statement. -/
def readStatement? (text : String) (values : List Cell) : Except Fault (Option Statement) := do
  let cs := text.toList
  let tokens := readTokens cs.length cs
  if tokens.head?.isNone || tokens.head? = some (.sign ";") then pure none
  else return some (← readNext? tokens values).1

/-- All statements of a list of words, up to the first that cannot be read; `fuel` is at least their
number. -/
def readAll : Nat → List Token → List (Except Fault Statement)
  | 0, _ => []
  | fuel + 1, tokens =>
    match dropEnds tokens with
    | [] => []
    | tokens =>
      match readNext? tokens [] with
      | .ok (s, rest) => .ok s :: readAll fuel rest
      | .error fault => [.error fault]

/-- All statements of a text, up to the first that cannot be read. -/
def readScript (text : String) : List (Except Fault Statement) :=
  let cs := text.toList
  let tokens := readTokens cs.length cs
  readAll (tokens.length + 1) tokens

end Daybook.Sql
