import Daybook.Proofs.Sql.Token
import Daybook.Schema.Definition

/-!
# What the text of a table says

The text that makes a table is read here word by word: a name and a type for each column, and after
them the clauses of the column, up to a comma or the parenthesis at the end. What is read are the
columns of the schema, as far as a definition tells of them, whatever characters their texts have
(**`Schema.definitions_read`**).

* `Column.defined`: what a definition tells of a column;
* `Scan`, `Scan.step`: reading definitions; `readTable?`, `readAddition?`: reading statements;
* `columnTokens`, `isPhrase_definition`: the words of a definition.
-/

namespace Daybook

open Sql

/-- The column as far as its definition tells: a list of no texts restricts nothing, and indexes and
dates are not spoken of. -/
def Column.defined (c : Column) : Column where
  name := c.name
  type := c.type
  required := c.required
  default := c.default
  allowed := c.allowed.filter fun texts => !texts.isEmpty
  primaryKey := c.primaryKey

namespace Declaration

/-! ## Reading -/

/-- What comes next in the definitions of columns. -/
inductive Place where
  /-- The name of a column. -/
  | name
  /-- The type of a column. -/
  | type (name : String)
  /-- A clause of the column, or the end of its definition. -/
  | clause (c : Column)
  /-- The given words, and then another place. -/
  | due (expected : Token) (others : List Token) (next : Place)
  /-- The text of a default. -/
  | default (c : Column)
  /-- A text of a list. -/
  | item (c : Column)
  /-- A comma, or the end of a list. -/
  | afterItem (c : Column)
  /-- Nothing. -/
  | closed

/-- The place after the given words. -/
def Place.after (next : Place) : List Token → Place
  | [] => next
  | t :: ts => .due t ts next

/-- The place after the word that begins a clause. -/
def clause? (c : Column) (w : String) : Option Place :=
  if w = "CHECK" then
    some (.due (.sign "(") [.word c.name, .word "IN", .sign "("]
      (.item { c with allowed := some [] }))
  else if w = "NOT" then some (.due (.word "NULL") [] (.clause { c with required := true }))
  else if w = "PRIMARY" then some (.due (.word "KEY") [] (.clause { c with primaryKey := true }))
  else if w = "DEFAULT" then some (.default c)
  else none

/-- Definitions of which some words are read. -/
structure Scan where
  /-- The columns whose definitions are read. -/
  before : List Column := []
  place : Place := .name

namespace Scan

/-- Reads a word; none if it may not stand here. -/
def step (s : Scan) (t : Token) : Option Scan :=
  match s.place, t with
  | .name, .word w => some { s with place := .type w }
  | .type name, .word w =>
    (ColumnType.ofName? w).map fun type => { s with place := .clause { name, type } }
  | .clause c, .word w => (clause? c w).map fun place => { s with place }
  | .clause c, .sign w =>
    if w = "," then some ⟨s.before ++ [c], .name⟩
    else if w = ")" then some ⟨s.before ++ [c], .closed⟩
    else none
  | .due expected others next, t =>
    if t = expected then some { s with place := next.after others } else none
  | .default c, .quoted text => some { s with place := .clause { c with default := some text } }
  | .item c, .quoted text =>
    some { s with place := .afterItem { c with allowed := some (c.allowed.getD [] ++ [text]) } }
  | .afterItem c, .sign w =>
    if w = "," then some { s with place := .item c }
    else if w = ")" then some { s with place := .due (.sign ")") [] (.clause c) }
    else none
  | _, _ => none

/-- Reads words. -/
def run (s : Scan) (ts : List Token) : Option Scan := ts.foldlM step s

@[simp] theorem run_nil (s : Scan) : s.run [] = some s := rfl

@[simp] theorem run_cons (s : Scan) (t : Token) (ts : List Token) :
    s.run (t :: ts) = (s.step t).bind fun s' => s'.run ts := rfl

theorem run_append (s : Scan) (ts us : List Token) :
    s.run (ts ++ us) = (s.run ts).bind fun s' => s'.run us := List.foldlM_append

end Scan

/-- The table and the columns of the words of a statement that makes a table; none if they are no
such statement. -/
def readTable? : List Token → Option (String × List Column)
  | .word "CREATE" :: .word "TABLE" :: .word "IF" :: .word "NOT" :: .word "EXISTS" ::
      .word table :: .sign "(" :: rest =>
    match Scan.run {} rest with
    | some ⟨columns, .closed⟩ => some (table, columns)
    | _ => none
  | _ => none

/-- The table and the column of the words of a statement that adds a column; none if they are no
such statement. -/
def readAddition? : List Token → Option (String × Column)
  | .word "ALTER" :: .word "TABLE" :: .word table :: .word "ADD" :: .word "COLUMN" :: rest =>
    match Scan.run {} rest with
    | some ⟨[], .clause c⟩ => some (table, c)
    | _ => none
  | _ => none

/-! ## Words of definitions -/

/-- The words of the clause for the texts that a column accepts. -/
def checkTokens (name : String) (texts : List String) : List Token :=
  [.word "CHECK"] ++ (.sign "(" :: ([.word name] ++ [.word "IN"] ++
    (.sign "(" :: [.sign ","].intercalate (texts.map fun s => [.quoted s]) ++ [.sign ")"])) ++
      [.sign ")"])

/-- The words of the definition of a column. -/
def columnTokens (c : Column) : List Token :=
  [.word c.name] ++ [.word c.type.name] ++
    (if c.toDef.allowed.isEmpty then [] else checkTokens c.name c.toDef.allowed) ++
    (if c.required then [.word "NOT"] ++ [.word "NULL"] else []) ++
    (if c.primaryKey then [.word "PRIMARY"] ++ [.word "KEY"] else []) ++
    (match c.default with
      | some s => [.word "DEFAULT"] ++ [.quoted s]
      | none => [])

variable {c : Column}

theorem isClause_word (w : String) (h : isIdentifier w = true) : IsClause (" " ++ w) [.word w] :=
  (isPhrase_word w h).blank

theorem isClause_check {name : String} (h : isIdentifier name = true) (texts : List String) :
    IsClause (" CHECK(" ++ (name ++ " IN (" ++ commaList (texts.map quoteLiteral) ++ ")") ++ ")")
      (checkTokens name texts) := by
  have hitems : IsPhrase (commaList (texts.map quoteLiteral))
      ([.sign ","].intercalate (texts.map fun s => [.quoted s])) :=
    .commaList fun s _ => isPhrase_quoted s
  have hinside := ((isPhrase_word name h).append (isClause_word "IN" (by decide))).append
    hitems.parentheses.phrase.blank
  have htext : " CHECK(" ++ (name ++ " IN (" ++ commaList (texts.map quoteLiteral) ++ ")") ++ ")" =
      " " ++ "CHECK" ++ ("(" ++ (name ++ (" " ++ "IN") ++
        (" " ++ ("(" ++ commaList (texts.map quoteLiteral) ++ ")"))) ++ ")") := by
    rw [← String.toList_inj]
    simp
  rw [htext]
  exact (isClause_word "CHECK" (by decide)).append hinside.parentheses

theorem isClause_type (type : ColumnType) :
    IsClause (if type.name.isEmpty then "" else " " ++ type.name) [.word type.name] := by
  cases type <;> exact isClause_word _ (by decide)

/-- A clause of two words, which stands only under a condition. -/
theorem isClause_twoWords (v w : String) (h : isIdentifier v = true) (h' : isIdentifier w = true)
    (p : Bool) : IsClause (if p then " " ++ v ++ (" " ++ w) else "")
      (if p then [.word v] ++ [.word w] else []) :=
  .ite ((isClause_word v h).append (isClause_word w h')) isClause_empty

/-- **The text of a definition is split into its words**, whatever texts it has. -/
theorem isPhrase_definition (h : isIdentifier c.name = true) :
    IsPhrase c.toDef.text (columnTokens c) := by
  have hcheck : IsClause
      (if c.toDef.allowed.isEmpty then "" else " CHECK(" ++ c.toDef.checkText ++ ")")
      (if c.toDef.allowed.isEmpty then [] else checkTokens c.name c.toDef.allowed) :=
    isClause_empty.ite (isClause_check h c.toDef.allowed)
  have hrequired : IsClause (if c.toDef.notNull then " NOT NULL" else "")
      (if c.required then [.word "NOT"] ++ [.word "NULL"] else []) :=
    isClause_twoWords "NOT" "NULL" (by decide) (by decide) c.required
  have hkey : IsClause (if c.toDef.primaryKey then " PRIMARY KEY" else "")
      (if c.primaryKey then [.word "PRIMARY"] ++ [.word "KEY"] else []) :=
    isClause_twoWords "PRIMARY" "KEY" (by decide) (by decide) c.primaryKey
  have hfront := ((isPhrase_word c.name h).append (isClause_type c.type)).append hcheck
  refine ((hfront.append hrequired).append hkey).append ?_
  unfold Column.toDef
  cases c.default with
  | none => exact isClause_empty
  | some s =>
    have htext : " DEFAULT " ++ quoteLiteral s = " " ++ "DEFAULT" ++ (" " ++ quoteLiteral s) := by
      rw [← String.toList_inj]
      simp
    show IsClause (" DEFAULT " ++ quoteLiteral s) _
    rw [htext]
    exact (isClause_word "DEFAULT" (by decide)).append (isPhrase_quoted s).blank

/-! ## Reading definitions -/

theorem ofName?_name (type : ColumnType) : ColumnType.ofName? type.name = some type := by
  cases type <;> decide

/-- The texts of a list are read one after another. -/
theorem run_items (before : List Column) (c : Column) (s : String) (texts : List String) :
    Scan.run ⟨before, .item c⟩
        ([.sign ","].intercalate ((s :: texts).map fun s => [.quoted s])) =
      some ⟨before, .afterItem { c with allowed := some (c.allowed.getD [] ++ s :: texts) }⟩ := by
  induction texts generalizing c s with
  | nil => rfl
  | cons s' texts ih =>
    have hnext := ih { c with allowed := some (c.allowed.getD [] ++ [s]) } s'
    rw [List.map_cons, List.map_cons, List.intercalate_cons_cons]
    simp only [Option.getD_some, List.append_assoc, List.singleton_append] at hnext
    exact hnext

theorem run_check (before : List Column) (c : Column) {texts : List String} (h : texts ≠ []) :
    Scan.run ⟨before, .clause c⟩ (checkTokens c.name texts) =
      some ⟨before, .clause { c with allowed := some texts }⟩ := by
  obtain ⟨s, texts, rfl⟩ := List.exists_cons_of_ne_nil h
  have hopening : Scan.run ⟨before, .clause c⟩
      [.word "CHECK", .sign "(", .word c.name, .word "IN", .sign "("] =
        some ⟨before, .item { c with allowed := some [] }⟩ := by
    simp [Scan.step, clause?, Place.after]
  have hsplit : checkTokens c.name (s :: texts) =
      [.word "CHECK", .sign "(", .word c.name, .word "IN", .sign "("] ++
        [.sign ","].intercalate ((s :: texts).map fun s => [.quoted s]) ++
          [.sign ")", .sign ")"] := by
    simp [checkTokens]
  rw [hsplit, Scan.run_append, Scan.run_append, hopening, Option.bind_some, run_items,
    Option.bind_some]
  simp [Scan.step, Place.after]

/-- **The words of a definition are read as the column.** -/
theorem run_columnTokens (before : List Column) (c : Column) :
    Scan.run ⟨before, .name⟩ (columnTokens c) = some ⟨before, .clause c.defined⟩ := by
  have hhead : Scan.run ⟨before, .name⟩ ([.word c.name] ++ [.word c.type.name]) =
      some ⟨before, .clause { name := c.name, type := c.type }⟩ := by
    simp [Scan.step, ofName?_name]
  have hcheck : Scan.run ⟨before, .clause { name := c.name, type := c.type }⟩
      (if c.toDef.allowed.isEmpty then [] else checkTokens c.name c.toDef.allowed) =
        some ⟨before, .clause
          { name := c.name, type := c.type, allowed := c.defined.allowed }⟩ := by
    unfold Column.toDef Column.defined
    cases c.allowed with
    | none => rfl
    | some texts =>
      cases texts with
      | nil => rfl
      | cons s texts => exact run_check before _ (List.cons_ne_nil s texts)
  unfold columnTokens
  rw [Scan.run_append, Scan.run_append, Scan.run_append, Scan.run_append, hhead, Option.bind_some,
    hcheck, Option.bind_some]
  unfold Column.defined
  cases c.required <;> cases c.primaryKey <;> cases c.default <;> rfl

/-- The definitions of columns, with commas between them, are read as the columns. -/
theorem run_columns (before : List Column) (c : Column) (cs : List Column) :
    Scan.run ⟨before, .name⟩
        ([.sign ","].intercalate ((c :: cs).map columnTokens) ++ [.sign ")"]) =
      some ⟨before ++ (c :: cs).map Column.defined, .closed⟩ := by
  induction cs generalizing before c with
  | nil =>
    rw [List.map_singleton, List.intercalate_singleton, Scan.run_append, run_columnTokens]
    rfl
  | cons d cs ih =>
    rw [List.map_cons, List.map_cons, List.intercalate_cons_cons, List.append_assoc,
      List.append_assoc, Scan.run_append, run_columnTokens, Option.bind_some,
      List.singleton_append, Scan.run_cons]
    show Scan.run ⟨before ++ [c.defined], .name⟩ _ = _
    rw [← List.map_cons, ih, List.append_assoc]
    rfl

end Declaration

open Declaration

namespace Schema

variable {s : Schema}

/-- The words of the statement that makes the table. -/
theorem tokensOf_createTable (h : s.KeepsRules) : tokensOf s.createTable.text =
    [.word "CREATE", .word "TABLE", .word "IF", .word "NOT", .word "EXISTS", .word s.table] ++
      (.sign "(" :: [.sign ","].intercalate (s.columns.map columnTokens) ++ [.sign ")"]) := by
  have hcreate := (isPhrase_word "CREATE" (by decide)).append (isClause_word "TABLE" (by decide))
  have habsent := ((isClause_word "IF" (by decide)).append (isClause_word "NOT" (by decide))).append
    (isClause_word "EXISTS" (by decide))
  have hcolumns : IsPhrase (commaList (s.columns.map fun c => c.toDef.text))
      ([.sign ","].intercalate (s.columns.map columnTokens)) :=
    .commaList fun c hc => isPhrase_definition (h.names c hc)
  have htext : s.createTable.text =
      "CREATE" ++ (" " ++ "TABLE") ++ (" " ++ "IF" ++ (" " ++ "NOT") ++ (" " ++ "EXISTS")) ++
        (" " ++ s.table) ++
          (" " ++ ("(" ++ commaList (s.columns.map fun c => c.toDef.text) ++ ")")) := by
    have hhead : "CREATE TABLE " ++ "IF NOT EXISTS " = "CREATE" ++ (" " ++ "TABLE") ++
        (" " ++ "IF" ++ (" " ++ "NOT") ++ (" " ++ "EXISTS")) ++ " " := by decide
    show "CREATE TABLE " ++ "IF NOT EXISTS " ++ s.table ++ " " ++
      columnsText (s.columns.map Column.toDef) = _
    rw [hhead, columnsText, List.map_map]
    simp only [Function.comp_def, String.append_assoc]
  rw [htext]
  exact (((hcreate.append habsent).append (isClause_word s.table h.table)).append
    hcolumns.parentheses.phrase.blank).tokensOf_eq

/-- The words of the statement that adds a column. -/
theorem tokensOf_addColumn {c : Column} (htable : isIdentifier s.table = true)
    (hname : isIdentifier c.name = true) :
    tokensOf (Statement.addColumn s.table c.toDef).text =
      [.word "ALTER", .word "TABLE", .word s.table, .word "ADD", .word "COLUMN"] ++
        columnTokens c := by
  have halter := (isPhrase_word "ALTER" (by decide)).append (isClause_word "TABLE" (by decide))
  have hadd := (isClause_word "ADD" (by decide)).append (isClause_word "COLUMN" (by decide))
  have htext : (Statement.addColumn s.table c.toDef).text =
      "ALTER" ++ (" " ++ "TABLE") ++ (" " ++ s.table) ++ (" " ++ "ADD" ++ (" " ++ "COLUMN")) ++
        (" " ++ c.toDef.text) := by
    show "ALTER TABLE " ++ s.table ++ " ADD COLUMN " ++ c.toDef.text = _
    rw [← String.toList_inj]
    simp
  rw [htext]
  exact (((halter.append (isClause_word s.table htable)).append hadd).append
    (isPhrase_definition hname).blank).tokensOf_eq

/-- **The texts that define columns say what the schema declares.** Of a schema that breaks no rule,
whatever characters its defaults and the texts that its columns accept have: the statement that
makes the table is read as the columns in their order, each with its name, type, accepted texts,
default and whether it is required and the key, and the statement that adds a column other than a
key as that column. -/
theorem definitions_read (s : Schema) (h : s.fault? = none) :
    readTable? (tokensOf s.createTable.text) = some (s.table, s.columns.map Column.defined) ∧
    ∀ c : Column, c ∈ s.columns ∨ isIdentifier c.name = true → c.primaryKey = false →
      ∃ st, s.addColumn c = .ok st ∧
        readAddition? (tokensOf st.text) = some (s.table, c.defined) := by
  have hrules := fault?_eq_none_iff.1 h
  obtain ⟨c, cs, hcolumns⟩ := List.exists_cons_of_ne_nil hrules.columns_ne
  refine ⟨?_, fun c hc hkey => ⟨.addColumn s.table c.toDef, ?_, ?_⟩⟩
  · rw [tokensOf_createTable hrules, hcolumns]
    show (match Scan.run {}
        ([.sign ","].intercalate ((c :: cs).map columnTokens) ++ [.sign ")"]) with
      | some ⟨columns, .closed⟩ => some (s.table, columns)
      | _ => none) = _
    rw [run_columns]
    rfl
  · rw [addColumn, hkey]
    rfl
  · rw [tokensOf_addColumn hrules.table (hc.elim (hrules.names c) id)]
    show (match Scan.run {} (columnTokens c) with
      | some ⟨[], .clause c⟩ => some (s.table, c)
      | _ => none) = _
    rw [run_columnTokens]

/-- A table whose names are words of the language, with texts that look like the end of a literal,
of a list or of a statement. -/
def trap : Schema where
  entity := "Trap"
  table := "order"
  columns := [(Column.text "check").key,
    ((Column.text "default").oneOf ["it's", "', '", "'); DROP TABLE x; --", ""]).withDefault "', '",
    (Column.integer "_v").require.withDefault "/*"]

theorem definitions_read_trap :
    trap.fault? = none ∧
    readTable? (tokensOf trap.createTable.text) = some ("order", trap.columns) ∧
    ∃ st, trap.addColumn ((Column.text "x").withDefault "''") = .ok st ∧
      readAddition? (tokensOf st.text) = some ("order", (Column.text "x").withDefault "''") :=
  have hread := definitions_read trap (by decide)
  ⟨by decide, hread.1, hread.2 _ (.inr (by decide)) rfl⟩

end Schema
end Daybook
