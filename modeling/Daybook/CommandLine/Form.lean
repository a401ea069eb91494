/-!
# Forms of commands

What a command takes: options, which have names, and words, which have places.

* `Kind`, `Kind.accepts`: the values that an option or a place takes;
* `OptionForm`, `Place`, `Form`;
* `readCount?`: a whole number as a value.
-/

namespace Daybook.CommandLine

-- Powers are those of the core library.
attribute [local instance (high)] instPowNat instNatPowNat Int.instNatPow

/-! ## Values -/

/-- What a value may be. -/
inductive Kind where
  | text
  /-- A text that is not empty. -/
  | path
  /-- One of `true` and `false`. -/
  | truth
  /-- A whole number of 64 bits; a plus sign may stand in front. -/
  | count
  deriving DecidableEq, Repr

/-- The whole number of digits. -/
def readDigits? (digits : List Char) : Option Nat :=
  if digits.isEmpty || !digits.all Char.isDigit then none
  else some (digits.foldl (fun n c => 10 * n + (c.toNat - '0'.toNat)) 0)

/-- The whole number of 64 bits that a text is; a plus sign may stand in front. -/
def readCount? (s : String) : Option Nat :=
  let digits := match s.toList with
    | '+' :: rest => rest
    | cs => cs
  (readDigits? digits).filter fun n => n < 2 ^ (64 : Nat)

/-- A text is a value of the kind. -/
def Kind.accepts (kind : Kind) (value : String) : Bool :=
  match kind with
  | .text => true
  | .path => !value.isEmpty
  | .truth => value = "true" || value = "false"
  | .count => (readCount? value).isSome

/-! ## Options and places -/

/-- What giving an option means. -/
inductive Effect where
  /-- It has a value. -/
  | value (kind : Kind)
  /-- It is turned on. -/
  | switch
  /-- It asks for the help page. -/
  | help
  /-- It asks for the version. -/
  | version
  deriving DecidableEq, Repr

/-- An option: a long name, perhaps a letter, and what is said about it. -/
structure OptionForm where
  long : String
  short : Option Char := none
  effect : Effect
  about : String
  /-- What the help page says beside that, in brackets. -/
  notes : List String := []
  deriving DecidableEq, Repr

/-- The place of a word. -/
structure Place where
  name : String
  kind : Kind
  about : String
  /-- Any number of words stand here, also none. -/
  repeats : Bool := false
  deriving DecidableEq, Repr

/-- The form of a command. -/
structure Form where
  name : String
  about : String
  places : List Place := []
  options : List OptionForm := []
  deriving DecidableEq, Repr

namespace Form

/-- The option of a long name. -/
def long? (f : Form) (name : String) : Option OptionForm := f.options.find? fun o => o.long = name

/-- The option of a letter. -/
def short? (f : Form) (letter : Char) : Option OptionForm :=
  f.options.find? fun o => o.short = some letter

end Form
end Daybook.CommandLine
