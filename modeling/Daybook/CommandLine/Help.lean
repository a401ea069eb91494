import Daybook.CommandLine.Form

/-!
# Help pages

The help page of a command says what it is about, how it is used, and what its commands, places and
options are, in two columns.

* `Form.usage`: the line that says how a command is used;
* `Form.page`: the help page.
-/

namespace Daybook.CommandLine

/-! ## Columns -/

/-- Two blanks. -/
def gap : String := "  "

/-- The text with blanks after it, up to a width. -/
def padded (width : Nat) (s : String) : String :=
  s ++ String.ofList (List.replicate (width - s.length) ' ')

/-- Rows of two columns, the second of which begins in the same place in all rows. -/
def columns (rows : List (String × String)) : List String :=
  let width := (rows.map fun p => p.1.length).foldl max 0
  rows.map fun p => gap ++ padded width p.1 ++ gap ++ p.2

/-- A part of a page under a heading; nothing for no rows. -/
def part (heading : String) (rows : List (String × String)) : List String :=
  if rows.isEmpty then [] else ["", heading ++ ":"] ++ columns rows

/-! ## Rows -/

/-- The place as it stands in a page. -/
def Place.shown (p : Place) : String :=
  if p.repeats then "[" ++ p.name ++ "]..." else "<" ++ p.name ++ ">"

/-- The name of the value of an option: the name of the option in capital letters. -/
def OptionForm.valueName (o : OptionForm) : String :=
  String.ofList (o.long.toList.map fun c => if c = '-' then '_' else c.toUpper)

/-- The option as it stands in a page; the long names stand below each other. -/
def OptionForm.shown (o : OptionForm) : String :=
  (match o.short with
    | some c => String.ofList ['-', c, ',', ' ']
    | none => gap ++ gap) ++ "--" ++ o.long ++
    (match o.effect with
      | .value _ => " <" ++ o.valueName ++ ">"
      | _ => "")

/-- What a page says about an option. -/
def OptionForm.description (o : OptionForm) : String :=
  " ".intercalate (o.about :: o.notes.map fun note => "[" ++ note ++ "]")

/-! ## Pages -/

/-- The option does more than to ask about the program. -/
def OptionForm.isProper (o : OptionForm) : Bool := o.effect ≠ .help && o.effect ≠ .version

/-- The line that says how a command is used. -/
def Form.usage (f : Form) (path : List String) (hasCommands : Bool) : String :=
  " ".intercalate (["Usage:"] ++ path ++
    (if f.options.any OptionForm.isProper then ["[OPTIONS]"] else []) ++
    f.places.map Place.shown ++ (if hasCommands then ["<COMMAND>"] else []))

/-- The help page of a command that is reached by the given names. -/
def Form.page (f : Form) (path : List String) (commands : List Form) : String :=
  String.join ((([f.about, "", f.usage path (!commands.isEmpty)] ++
    part "Commands" (commands.map fun c => (c.name, c.about)) ++
    part "Arguments" (f.places.map fun p => (p.shown, p.about)) ++
    part "Options" (f.options.map fun o => (o.shown, o.description))).map (· ++ "\n")))

end Daybook.CommandLine
