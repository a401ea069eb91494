import Daybook.CommandLine.Form

/-!
# Reading arguments

Arguments are read from left to right. One that begins with a hyphen names options; two hyphens
alone end the options, and all that follows are words.

* `Arguments`: the options and words that were read;
* `Reading.take`: the effect of one argument;
* `Form.read`: all arguments up to the name of a further command;
* `UsageFault`: why arguments are refused.
-/

namespace Daybook.CommandLine

/-! ## What ends the reading -/

/-- Why arguments are refused. -/
inductive UsageFault where
  /-- An option or a word that nothing takes. -/
  | unexpected (argument : String)
  | valueMissing (option : String)
  | valueRefused (value name : String)
  /-- A value for an option that has none. -/
  | valueUnneeded (option : String)
  | givenTwice (option : String)
  | wordMissing (place : String)
  | commandMissing
  | commandUnknown (name : String)
  deriving DecidableEq, Repr

/-- The text of a refusal. -/
def UsageFault.message : UsageFault → String
  | unexpected argument => "unexpected argument '" ++ argument ++ "' found"
  | valueMissing option => "a value is required for '--" ++ option ++ "' but none was supplied"
  | valueRefused value name => "invalid value '" ++ value ++ "' for '" ++ name ++ "'"
  | valueUnneeded option => "unexpected value for '--" ++ option ++ "'"
  | givenTwice option => "the argument '--" ++ option ++ "' cannot be used multiple times"
  | wordMissing place => "the required argument <" ++ place ++ "> was not provided"
  | commandMissing => "a subcommand is required but none was provided"
  | commandUnknown name => "unrecognized subcommand '" ++ name ++ "'"

/-- Why reading ends early. -/
inductive Halt where
  | refused (fault : UsageFault)
  | help
  | version
  deriving DecidableEq, Repr

/-! ## Arguments -/

/-- The options and words that were read. -/
structure Arguments where
  /-- The values of options by their long names; a switch has the empty value. -/
  values : List (String × String) := []
  words : List String := []
  deriving DecidableEq, Repr, Inhabited

namespace Arguments

/-- The value of an option. -/
def value? (a : Arguments) (option : String) : Option String := a.values.lookup option

/-- An option was given. -/
def has (a : Arguments) (option : String) : Bool := (a.value? option).isSome

/-- The word of a place. -/
def word (a : Arguments) (place : Nat) : String := a.words.getD place ""

/-- The arguments with the value of one more option. -/
def record (a : Arguments) (option value : String) : Except Halt Arguments :=
  if a.has option then .error (.refused (.givenTwice option))
  else .ok { a with values := a.values ++ [(option, value)] }

end Arguments

/-! ## One argument -/

/-- How far the reading is. -/
structure Reading where
  arguments : Arguments := {}
  /-- The option whose value comes next. -/
  awaited : Option OptionForm := none
  /-- Options have ended. -/
  onlyWords : Bool := false

/-- An argument that names options; a hyphen alone is a word. -/
def namesOptions (argument : String) : Bool :=
  match argument.toList with
  | '-' :: _ :: _ => true
  | _ => false

namespace Reading

/-- Takes the value of an option. -/
def takeValue (r : Reading) (o : OptionForm) (kind : Kind) (value : String) :
    Except Halt Reading := do
  if !kind.accepts value then throw (.refused (.valueRefused value ("--" ++ o.long)))
  pure { r with arguments := ← r.arguments.record o.long value, awaited := none }

/-- Takes an option, with the value attached to it if there is one. -/
def takeOption (r : Reading) (o : OptionForm) (attached : Option String) : Except Halt Reading :=
  match o.effect, attached with
  | .value kind, some value => r.takeValue o kind value
  | .value _, none => .ok { r with awaited := some o }
  | .switch, none => (r.arguments.record o.long "").map fun a => { r with arguments := a }
  | .help, none => .error .help
  | .version, none => .error .version
  | _, some _ => .error (.refused (.valueUnneeded o.long))

/-- Takes options given by their letters; what follows the letter of an option with a value is the
value, and an equals sign may stand between them. -/
def takeLetters (form : Form) : Reading → List Char → Except Halt Reading
  | r, [] => .ok r
  | r, c :: rest =>
    match form.short? c with
    | none => .error (.refused (.unexpected (String.ofList ['-', c])))
    | some o =>
      match o.effect, rest with
      | .value _, '=' :: value => r.takeOption o (some (String.ofList value))
      | .value _, value@(_ :: _) => r.takeOption o (some (String.ofList value))
      | _, _ => do takeLetters form (← r.takeOption o none) rest

/-- Takes an option given by its long name; a value may follow an equals sign. -/
def takeLong (form : Form) (r : Reading) (text : List Char) : Except Halt Reading :=
  let name := String.ofList (text.takeWhile (· ≠ '='))
  match form.long? name with
  | none => .error (.refused (.unexpected ("--" ++ name)))
  | some o =>
    match text.dropWhile (· ≠ '=') with
    | [] => r.takeOption o none
    | _ :: value => r.takeOption o (some (String.ofList value))

/-- Takes a word. -/
def takeWord (form : Form) (r : Reading) (word : String) : Except Halt Reading :=
  match form.places[r.arguments.words.length]? with
  | none => .error (.refused (.unexpected word))
  | some p =>
    if p.kind.accepts word then
      .ok { r with arguments := { r.arguments with words := r.arguments.words ++ [word] } }
    else .error (.refused (.valueRefused word p.name))

/-- Takes one argument. -/
def take (form : Form) (r : Reading) (argument : String) : Except Halt Reading :=
  match r.awaited with
  | some o =>
    if namesOptions argument then .error (.refused (.valueMissing o.long))
    else r.takeOption o (some argument)
  | none =>
    if r.onlyWords then takeWord form r argument
    else
      match argument.toList with
      | ['-', '-'] => .ok { r with onlyWords := true }
      | '-' :: '-' :: text => takeLong form r text
      | '-' :: c :: rest => takeLetters form r (c :: rest)
      | _ => takeWord form r argument

/-- The next argument names a command, if it is one of the names. -/
def mayNameCommand (r : Reading) : Bool := r.awaited.isNone && !r.onlyWords

/-- What was read, with nothing left open. -/
def finish (form : Form) (r : Reading) : Except Halt Arguments :=
  match r.awaited with
  | some o => .error (.refused (.valueMissing o.long))
  | none =>
    match form.places[r.arguments.words.length]? with
    | some p => .error (.refused (.wordMissing p.name))
    | none => .ok r.arguments

end Reading

/-! ## All arguments -/

/-- Reads arguments up to the name of a command; answers what was read, and the name with the
arguments after it. -/
def Form.readUntil (form : Form) (isCommand : String → Bool) :
    Reading → List String → Except Halt (Reading × List String)
  | r, [] => .ok (r, [])
  | r, argument :: rest =>
    if r.mayNameCommand && isCommand argument then .ok (r, argument :: rest)
    else do readUntil form isCommand (← r.take form argument) rest

/-- Reads all arguments of a command. -/
def Form.read (form : Form) (arguments : List String) : Except Halt Arguments := do
  let (r, _) ← form.readUntil (fun _ => false) {} arguments
  r.finish form

end Daybook.CommandLine
