import ResourceScaffold.Command.Run
import Std.Time.Format

/-!
# The command on real files

The command itself works on a file tree as a value. Here the places that a run looks at are read from the disk, the run
takes place, and what it changed is written back.
-/

namespace ResourceScaffold.Main

/-- What stands at a place on the disk. -/
def probe (here : Location) : IO (Option FileEntry) := do
  try
    return some (.file (.ofBytes (← IO.FS.readBinFile here.text).data.toList))
  catch
    | .noFileOrDirectory .. => return none
    | .inappropriateType .. => return some .directory
    | fault => throw fault

/-- A place and those above it, the highest first. -/
def lineage (here : Location) : List Location :=
  (List.range (here.length + 1)).map fun n => here.take n

/-- The places a path leads through from the directory `base`. -/
def visited (base : Location) (p : FilePath) : List Location :=
  (List.range (p.parts.length + 1)).map fun n => base.resolve { p with parts := p.parts.take n }

/-- The tree with what stands on the disk at some places and at those above them. -/
def observe (t : FileTree) (places : List Location) : IO FileTree :=
  (places.flatMap lineage).foldlM (fun t here => do
    if (t.get? here).isSome || !t.isDirectory here.dropLast then return t
    match ← probe here with
    | some entry => return t.set here entry
    | none => return t) t

/-- Writes back what a run changed. -/
def writeBack (before after : FileTree) : IO Unit :=
  after.entries.forM fun (here, entry) => do
    if before.get? here != some entry then
      match entry with
      | .directory => IO.FS.createDirAll here.text
      | .file content => IO.FS.writeBinFile here.text ⟨content.bytes.toArray⟩

/-- The time as a log line gives it, to the millisecond. -/
def timeText : IO String := do
  let now ← Std.Time.PlainDateTime.now
  return String.ofList ((now.toLeanDateTimeString.toList.take 23).map fun c =>
    if c = 'T' then ' ' else if c = '.' then ',' else c)

/-- The environment variables that are settings. -/
def environment : IO (List (String × String)) := do
  let names := ["app_env", "app_name", "output_dir", "log_level"]
  let found ← (names ++ names.map Text.upper).mapM fun name => do
    return (← IO.getEnv name).map (name, ·)
  return found.filterMap id

/-- The message about a failure. -/
def failureText : Failure → String
  | .file (.escapes path directory) => ((FileFault.escapes path directory).message?).getD ""
  | .file .notFound => "no such file or directory"
  | .file .notADirectory => "not a directory"
  | .file .isADirectory => "is a directory"
  | .file .alreadyExists => "a file is in the way of a directory"
  | .file .malformed => "a path holds a null character, or a file holds no text"
  | .file .nameTooLong => "a file name is too long"
  | .json .malformed => "the schema file is not JSON"
  | .json .tooManyDigits => "a number in the schema file is too long"
  | .json .tooDeep | .yaml .tooDeep => "the schema file is nested too deeply"
  | .yaml .malformed => "the schema file is not YAML"
  | .yaml _ => "a scalar in the schema file has no value"
  | .schema _ => "the schema file does not hold a schema"

/-- How the command is called. -/
def usage : String :=
  "usage: SCHEMA [--out DIR] [--log-level DEBUG|INFO|WARNING|ERROR]"

/-- Runs the command on the disk. -/
def run (arguments : List String) : IO UInt32 := do
  let base := Location.resolve [] (FilePath.ofString (toString (← IO.currentDir)))
  let settingsFile := base ++ [".env"]
  let t ← observe {} [base, settingsFile]
  let settings := Settings.load (← environment) (t.text? settingsFile)
  match Options.ofArguments settings arguments with
  | .error refusal =>
      if refusal = .help then IO.println usage else IO.eprintln usage
      return refusal.exitCode.toUInt32
  | .ok options =>
      let t ← observe t (visited base options.schema ++ visited base options.out)
      let rehearsal := Command.perform t base options
      let t ← observe t (rehearsal.tree.entries.map Prod.fst)
      let result := Command.perform t base options
      writeBack t result.tree
      for output in result.outputs do
        IO.println (output.text (← timeText) : String)
      match result.outcome with
      | .ok code => return code.toUInt32
      | .error failure =>
          IO.eprintln ("error: " ++ failureText failure)
          return 1

end ResourceScaffold.Main

/-- The command line. -/
def main (arguments : List String) : IO UInt32 :=
  ResourceScaffold.Main.run arguments
