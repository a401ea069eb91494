import Daybook.CommandLine.Arguments
import Daybook.CommandLine.Help
import Daybook.Config

/-!
# The commands of the program

The program keeps a household's records in a database beside a file of settings. It has one command
for each thing that can be done with them.

* `Command`, `Invocation`;
* `Answer.ofArguments`: what arguments ask for.
-/

namespace Daybook.CommandLine

/-- The name of the program. -/
def programName : String := "spendwise-cli"

/-- The variables of the environment. -/
abbrev Environment := String → Option String

/-! ## Commands -/

/-- What can be done. -/
inductive Command where
  /-- Brings the tables in line with their schemas. -/
  | migrate (checkColumns : Bool)
  /-- Writes all records to a file. -/
  | save (path : String)
  /-- Takes over the records of a file. -/
  | load (path : String) (replace : Bool)
  /-- Prints the records of an entity. -/
  | find (entity : String) (filter sort : Option String) (descending : Bool) (limit : Option Nat)
  /-- Prints how many records there are, and where. -/
  | stats
  deriving DecidableEq, Repr

/-- A command with the files that it works on. -/
structure Invocation where
  databasePath : String
  settingsPath : String
  mode : String
  command : Command
  deriving DecidableEq, Repr

/-! ## Forms -/

/-- The option that asks for help. -/
def helpOption : OptionForm := ⟨"help", some 'h', .help, "Print help", []⟩

/-- The option that asks for the version. -/
def versionOption : OptionForm := ⟨"version", some 'V', .version, "Print version", []⟩

/-- An option of the program whose value may also come from a variable. -/
def variableOption (environment : Environment) (long key about : String) (notes : List String) :
    OptionForm :=
  ⟨long, none, .value .text, about,
    ("env: " ++ key ++ "=" ++ (environment key).getD "") :: notes⟩

/-- The variable that holds the path of the database. -/
def databaseVariable : String := "SPENDWISE_DB_PATH"

/-- The variable that holds the path of the settings. -/
def settingsVariable : String := "SPENDWISE_SETTINGS"

/-- The variable that holds the storage mode. -/
def modeVariable : String := "SPENDWISE_STORAGE_MODE"

/-- The form of the program before a command. -/
def programForm (environment : Environment) : Form where
  name := programName
  about := "SpendWise database maintenance"
  options := [
    variableOption environment "db-path" databaseVariable "Database path" [],
    variableOption environment "settings" settingsVariable
      "Settings file (holds the backup id and sync cursor)" [],
    variableOption environment "storage-mode" modeVariable
      "Journal mode: local (WAL) or cloud-safe (DELETE)" ["default: local"],
    helpOption, versionOption]

/-- The form of `migrate`. -/
def migrateForm : Form where
  name := "migrate"
  about := "Create or update tables for the built-in entities"
  options := [
    ⟨"check-update", none, .value .truth, "Also add/drop columns on existing tables",
      ["default: true", "possible values: true, false"]⟩,
    helpOption]

/-- The form of `export`. -/
def saveForm : Form where
  name := "export"
  about := "Export every table as a JSON document"
  places := [⟨"PATH", .path, "Output file", false⟩]
  options := [helpOption]

/-- The form of `import`. -/
def loadForm : Form where
  name := "import"
  about := "Import a JSON document (current or legacy layout)"
  places := [⟨"PATH", .path, "Input file", false⟩]
  options := [⟨"replace", none, .switch, "Clear every table first", []⟩, helpOption]

/-- An example of a filter. -/
def filterExample : String := "'\x7b\"price\": \x7b\"$gt\": 10000\x7d\x7d'"

/-- The form of `find`. -/
def findForm : Form where
  name := "find"
  about := "Query one entity"
  places := [⟨"ENTITY", .text, "Entity type, e.g. SpendItem", false⟩]
  options := [
    ⟨"filter", some 'f', .value .text, "Filter as JSON, e.g. " ++ filterExample, []⟩,
    ⟨"sort", some 's', .value .text, "Sort column", []⟩,
    ⟨"desc", none, .switch, "Sort descending", []⟩,
    ⟨"limit", some 'l', .value .count, "Maximum rows", []⟩,
    helpOption]

/-- The form of `stats`. -/
def statsForm : Form where
  name := "stats"
  about := "Row counts, database size and backup state"
  options := [helpOption]

/-- The form of `help`. -/
def helpForm : Form where
  name := "help"
  about := "Print this message or the help of the given subcommand(s)"
  places := [⟨"COMMAND", .text, "Print help for the subcommand(s)", true⟩]

/-- The commands, in the order of the help page. -/
def commandForms : List Form :=
  [migrateForm, saveForm, loadForm, findForm, statsForm, helpForm]

/-- The form of a command. -/
def commandForm? (name : String) : Option Form := commandForms.find? fun f => f.name = name

/-! ## Reading -/

/-- The command of a name with its arguments. -/
def Command.ofArguments (name : String) (a : Arguments) : Command :=
  match name with
  | "migrate" => .migrate (a.value? "check-update" ≠ some "false")
  | "export" => .save (a.word 0)
  | "import" => .load (a.word 0) (a.has "replace")
  | "find" =>
    .find (a.word 0) (a.value? "filter") (a.value? "sort") (a.has "desc")
      ((a.value? "limit").bind readCount?)
  | _ => .stats

/-- What arguments ask for. -/
inductive Answer where
  | run (invocation : Invocation)
  /-- To print a page. -/
  | page (text : String)
  | refused (fault : UsageFault)
  deriving DecidableEq, Repr

/-- The help page of the program. -/
def programPage (environment : Environment) : String :=
  (programForm environment).page [programName] commandForms

/-- The help page of a command. -/
def commandPage (f : Form) : String := f.page [programName, f.name] []

/-- The line that says which version this is. -/
def versionLine : String := programName ++ " " ++ Daybook.version ++ "\n"

/-- What ends the reading as an answer; a page is asked for by whom the help is about. -/
def Halt.answer (page : String) : Halt → Answer
  | refused fault => .refused fault
  | help => .page page
  | version => .page versionLine

/-- What the command `help` answers for the words after it. -/
def helpAnswer (environment : Environment) : List String → Answer
  | [] => .page (programPage environment)
  | name :: rest =>
    match commandForm? name, rest with
    | none, _ => .refused (.commandUnknown name)
    | some f, [] => .page (commandPage f)
    | some _, further :: _ => .refused (.commandUnknown further)

/-- A path, with a tilde in front standing for the home directory. -/
def expandTilde (environment : Environment) (path : String) : String :=
  match path.toList, environment "HOME" with
  | ['~'], some home => home
  | '~' :: '/' :: rest, some home => home ++ "/" ++ String.ofList rest
  | _, _ => path

/-- The path of a file in the directory for the data of programs. -/
def dataPath (environment : Environment) (name : String) : String :=
  let directory := match environment "XDG_DATA_HOME", environment "HOME" with
    | some directory, _ => directory
    | none, some home => home ++ "/.local/share"
    | none, none => "."
  directory ++ "/spendwise/" ++ name

/-- The command with the files that options and variables name. -/
def invocation (environment : Environment) (options : Arguments) (command : Command) :
    Invocation :=
  let path (option key name : String) : String :=
    expandTilde environment (((options.value? option).or (environment key)).getD
      (dataPath environment name))
  { databasePath := path "db-path" databaseVariable "spendwise.db"
    settingsPath := path "settings" settingsVariable "settings.json"
    mode := ((options.value? "storage-mode").or (environment modeVariable)).getD
      StorageMode.logged.name
    command }

/-- What arguments ask for. -/
def Answer.ofArguments (environment : Environment) (arguments : List String) : Answer :=
  let form := programForm environment
  match form.readUntil (fun name => (commandForm? name).isSome) {} arguments with
  | .error halt => halt.answer (programPage environment)
  | .ok (_, "help" :: rest) => helpAnswer environment rest
  | .ok (r, name :: rest) =>
    match commandForm? name with
    | none => .refused (.commandUnknown name)
    | some f =>
      match f.read rest with
      | .error halt => halt.answer (commandPage f)
      | .ok a => .run (invocation environment r.arguments (Command.ofArguments name a))
  | .ok (r, []) =>
    match r.finish form with
    | .error halt => halt.answer (programPage environment)
    | .ok _ => .refused .commandMissing

end Daybook.CommandLine
