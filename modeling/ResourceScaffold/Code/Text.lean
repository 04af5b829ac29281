import ResourceScaffold.Code.Basic
import ResourceScaffold.Number.Text

/-!
# Text of generated modules

Each statement is written as lines; the text of a module is its lines, each ended by a line feed.
-/

namespace ResourceScaffold.Code

/-- The dotted name of the module that an import reads. -/
def Origin.dotted : Origin → String
  | library name => name
  | generated path => importPath path

/-- The line of an import. -/
def Import.line (i : Import) : String :=
  "from " ++ i.origin.dotted ++ " import " ++ String.intercalate ", " i.names

/-- The text of a type. -/
def TypeExpr.text (a : TypeExpr) : String :=
  let base := if a.isList then "List[" ++ a.name ++ "]" else a.name
  if a.optional then "Optional[" ++ base ++ "]" else base

/-- The default of an attribute. -/
def fieldDefault (a : TypeExpr) (requestName : Option String) : String :=
  if a.optional then
    match requestName with
    | some name => " = Field(None, alias=\"" ++ name ++ "\")"
    | none => " = None"
  else ""

/-- The lines of a member of a class body. -/
def Member.lines : Member → List String
  | blank => [""]
  | documentation text => ["    \"\"\"" ++ text ++ "\"\"\""]
  | modelConfig => ["    model_config = ConfigDict(populate_by_name=True)"]
  | pass => ["    pass"]
  | field name type requestName => ["    " ++ name ++ ": " ++ type.text ++ fieldDefault type requestName]
  | constant name value => ["    " ++ name ++ " = " ++ value]
  | method lines => lines.map fun line => if line.isEmpty then "" else "    " ++ line

/-- The first line of a class. -/
def ClassDefinition.heading (c : ClassDefinition) : String :=
  "class " ++ c.name ++ (if c.bases.isEmpty then "" else "(" ++ String.intercalate ", " c.bases ++ ")") ++ ":"

/-- The lines of a class. -/
def ClassDefinition.lines (c : ClassDefinition) : List String :=
  c.heading :: c.members.flatMap Member.lines

/-- The name of a request method. -/
def Method.name : Method → String
  | get => "get"
  | post => "post"
  | patch => "patch"
  | delete => "delete"

/-- A parameter with its type and default. -/
def Parameter.text (p : Parameter) : String :=
  p.name ++ ": " ++ p.type.text ++
    match p.default with
    | some value => " = " ++ value
    | none => ""

/-- The line that registers an endpoint. -/
def Endpoint.decorator (e : Endpoint) : String :=
  "@router." ++ e.method.name ++ "(\"" ++ e.path ++ "\"" ++
    (match e.response with
      | some model => ", response_model=" ++ model.text
      | none => "") ++
    (match e.status with
      | some code => ", status_code=" ++ intText code
      | none => "") ++ ")"

/-- The lines of a function's heading. -/
def Endpoint.signature (e : Endpoint) : List String :=
  let start := "async def " ++ e.name ++ "("
  let parameters := e.parameters.map Parameter.text
  match e.layout with
  | .inline => [start ++ String.intercalate ", " parameters ++ "):"]
  | .joined => [start, "    " ++ String.intercalate ", " parameters, "):"]
  | .stacked => start :: (parameters.map fun p => "    " ++ p ++ ",") ++ ["):"]

/-- The lines of an endpoint. -/
def Endpoint.lines (e : Endpoint) : List String :=
  e.decorator :: e.signature ++ e.body.map fun line => "    " ++ line

/-- The lines of a statement. -/
def Statement.lines : Statement → List String
  | blank => [""]
  | importModule name => ["import " ++ name]
  | importNames i => [i.line]
  | importForTypes imports => "if TYPE_CHECKING:" :: imports.map fun i => "    " ++ i.line
  | importLate i => [i.line ++ "  # noqa: E402"]
  | assign name value => [name ++ " = " ++ value]
  | define c => c.lines
  | function _ lines => lines
  | endpoint e => e.lines

/-- The lines of a module. -/
def SourceModule.lines (m : SourceModule) : List String :=
  m.body.flatMap Statement.lines

/-- The text of a module. -/
def SourceModule.content (m : SourceModule) : String :=
  String.intercalate "\n" m.lines ++ "\n"

/-- Imports in the order of their lines. -/
def sortImports (imports : List Import) : List Import :=
  imports.mergeSort fun i j => decide (i.line ≤ j.line)

end ResourceScaffold.Code
