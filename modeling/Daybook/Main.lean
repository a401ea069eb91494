import Daybook.CommandLine.Run
import Std.Time.DateTime.Timestamp

/-!
# The program

Reads the files that a command names, runs the command on them, and writes those that have changed.

* `main`.
-/

namespace Daybook.CommandLine

/-- The variables of the environment that the program looks at. -/
def readEnvironment : IO Environment := do
  let names := ["HOME", "XDG_DATA_HOME", databaseVariable, settingsVariable, modeVariable]
  let pairs ← names.filterMapM fun name => do
    return (← IO.getEnv name).map fun value => (name, value)
  pure fun name => pairs.lookup name

/-- The files with the one that a path leads to, if there is one. -/
def readFile (files : Files) (name : String) : IO Files := do
  try
    let bytes ← IO.FS.readBinFile name
    pure (files.put (Path.ofText name) (.bytes bytes.toList))
  catch
    | .noFileOrDirectory .. => pure files
    | _ => pure (files.put (Path.ofText name) .directory)

/-- Writes a file, and makes the directories on the way to it. -/
def writeFile (path : Path) (content : Content) : IO Unit :=
  match content.bytes? with
  | none => pure ()
  | some bytes => do
    if !path.parent.isEmpty then IO.FS.createDirAll path.parent.text
    IO.FS.writeBinFile path.text ⟨bytes.toArray⟩

/-- The present time, and identifiers that start at a random number. -/
def readMoment : IO Moment := do
  let time ← Std.Time.Timestamp.now
  let millis := time.toMillisecondsSinceUnixEpoch.val
  let seed := (← IO.getRandomBytes 16).toList.foldl (fun n b => 256 * n + b.toNat) 0
  pure
    { now := ((Calendar.Instant.ofMillis? millis).map Calendar.Instant.format).getD ""
      freshId := fun i => identifier (seed + i) }

/-- Runs a command; answers its status. -/
def perform (i : Invocation) : IO UInt32 := do
  let files ← i.paths.foldlM readFile {}
  let outcome := i.run (← readMoment) files
  for (path, content) in outcome.files.entries do
    if files.lookup? path ≠ some content then writeFile path content
  IO.print outcome.output
  IO.eprint outcome.errors
  pure outcome.status.toUInt32

end Daybook.CommandLine

/-- The program. -/
def main (arguments : List String) : IO UInt32 := do
  match Daybook.CommandLine.Answer.ofArguments (← Daybook.CommandLine.readEnvironment) arguments with
  | .refused fault =>
    IO.eprintln ("error: " ++ fault.message)
    pure 2
  | .page text =>
    IO.print text
    pure 0
  | .run i => Daybook.CommandLine.perform i
