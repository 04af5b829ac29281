import ResourceScaffold.Files.Tree
import ResourceScaffold.Json.Reader
import ResourceScaffold.Schema.Document
import ResourceScaffold.Text.Lines
import ResourceScaffold.Yaml.Reader

/-!
# Schema files

A schema is read from a file. The suffix of the file says whether it is written in YAML or in JSON; a YAML file that
says nothing describes a schema without entities.
-/

namespace ResourceScaffold

/-- Why work that begins with a schema file is given up. -/
inductive Failure where
  /-- A file could not be read or written. -/
  | file (fault : FileFault)
  /-- The schema file is not read as JSON. -/
  | json (error : Json.ReadError)
  /-- The schema file is not read as YAML. -/
  | yaml (error : Yaml.ReadError)
  /-- The schema, or what is generated from it, is faulty. -/
  | schema (fault : Fault)
  deriving Repr

/-- The suffixes of YAML files. -/
def yamlSuffixes : List String :=
  [".yaml", ".yml"]

/-- The document written in a text, by the suffix of the file that holds it. -/
def readDocument (suffix text : String) : Except Failure Value :=
  if yamlSuffixes.contains suffix then
    match Yaml.read (Text.universalNewlinesChars text.toList) with
    | .ok v => .ok (if v.isTruthy then v else .mapping [])
    | .error e => .error (.yaml e)
  else
    match Json.read text.toList with
    | .ok v => .ok v
    | .error e => .error (.json e)

/-- The schema written in a text, by the suffix of the file that holds it. -/
def Schema.ofText (suffix text : String) : Except Failure Schema := do
  let document ← readDocument suffix text
  match Schema.ofDocument document with
  | .ok schema => .ok schema
  | .error fault => .error (.schema fault)

/-- The schema in the file to which a path leads from the directory `base`. -/
def Schema.load (t : FileTree) (base : Location) (p : FilePath) : Except Failure Schema :=
  match t.read base p with
  | .ok text => Schema.ofText p.suffix text
  | .error fault => .error (.file fault)

end ResourceScaffold
