import ResourceScaffold.Batch
import ResourceScaffold.Command.Options
import ResourceScaffold.Files.Store
import ResourceScaffold.Schema.File

/-!
# Runs of the command

A run of the command reads a schema file, generates the modules and stores them. It prints log lines and reports, changes
a file tree and ends with an exit code: 0 when the modules are stored, 1 when there is no schema file or the schema has
defects, and the code of the refusal when the arguments are not understood. Anything else that goes wrong ends the run
with a failure; what was stored before it stays. What is printed is a text of code points, and how the lines of an ill-formed
one come out is a matter of the terminal.
-/

namespace ResourceScaffold

/-- Something the command prints. -/
inductive Output where
  | record (r : LogRecord)
  | line (text : WideText)
  deriving DecidableEq, Repr

/-- The text of what is printed; a log line begins with the time. -/
def Output.text (time : String) : Output → WideText
  | record r => r.text time
  | line text => text

/-- Where only characters can be written, a text is shown. -/
instance : CoeOut WideText String := ⟨WideText.shown⟩

/-- What became of a run of the command. -/
structure CommandResult where
  tree : FileTree
  outputs : List Output
  /-- The exit code, or the failure that ended the run. -/
  outcome : Except Failure Nat

namespace Command

/-- The log lines of events from one logger, as far as a threshold lets them through. -/
def logged (t : Threshold) (logger : String) (events : List Event) : List Output :=
  (t.filter (events.map fun e => e.record logger)).map .record

/-- The report on the defects of a schema. -/
def defectReport (ds : List Defect) : List Output :=
  .line "Error: resource generation failed" :: ds.map fun d => .line ("  - " ++ d.message)

/-- The end of a run that met a failure: defects are reported, anything else ends the run. -/
def giveUp (t : FileTree) (outputs : List Output) : Failure → CommandResult
  | .schema (.defect d) => { tree := t, outputs := outputs ++ defectReport [d], outcome := .ok 1 }
  | .schema (.batch ds) => { tree := t, outputs := outputs ++ defectReport ds, outcome := .ok 1 }
  | failure => { tree := t, outputs, outcome := .error failure }

/-- Stores generated modules and reports their number. -/
def storeModules (t : FileTree) (base : Location) (out : FilePath) (threshold : Threshold) (outputs : List Output)
    (modules : List Code.SourceModule) : CommandResult :=
  let outputs := outputs ++ logged threshold generatorLogger [.writing modules.length out.text]
  let stored := store t base out (modules.map fun m => m.toDocument)
  match stored.outcome with
  | .error fault => giveUp stored.tree outputs (.file fault)
  | .ok written =>
      { tree := stored.tree
        outputs := outputs ++ logged threshold writerLogger [.wrote written.length modules.length] ++
          [.line ("Generated " ++ intText modules.length ++ " modules in " ++ out.text)]
        outcome := .ok 0 }

/-- Generates the modules of a schema and stores them. -/
def generateModules (t : FileTree) (base : Location) (out : FilePath) (threshold : Threshold) (schema : Schema) :
    CommandResult :=
  let run := schema.generate ResourceNaming.derive
  let outputs := logged threshold generatorLogger run.events
  match run.outcome with
  | .error fault => giveUp t outputs (.schema fault)
  | .ok modules => storeModules t base out threshold outputs modules

/-- Does what the options ask for, in the directory `base` of a file tree. -/
def perform (t : FileTree) (base : Location) (options : Options) : CommandResult :=
  match t.holds base options.schema with
  | .error fault => giveUp t [] (.file fault)
  | .ok false =>
      { tree := t
        outputs := [.line ("Error: schema file not found: " ++ options.schema.text)]
        outcome := .ok 1 }
  | .ok true =>
      match Schema.load t base options.schema with
      | .error failure => giveUp t [] failure
      | .ok schema => generateModules t base options.out (Threshold.ofName options.logLevel) schema

/-- Runs the command with arguments in the directory `base` of a file tree. -/
def run (settings : Settings) (t : FileTree) (base : Location) (arguments : List String) : CommandResult :=
  match Options.ofArguments settings arguments with
  | .error refusal => { tree := t, outputs := [], outcome := .ok refusal.exitCode }
  | .ok options => perform t base options

end Command

end ResourceScaffold
