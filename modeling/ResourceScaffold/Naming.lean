import ResourceScaffold.Text.Words
import ResourceScaffold.Text.Plural

/-!
# Names and paths of a resource

From the name of an entity follow the identifier of its resource, the segment of its URLs and the paths of its generated
modules. `ResourceNaming.derive` is the default choice; a batch can be generated with another one.
-/

namespace ResourceScaffold

/-- The identifiers and the wiring path of the resource of an entity. -/
structure ResourceNaming where
  /-- The name of the entity, as declared. -/
  entityType : String
  /-- The camelCase identifier. -/
  entityName : String
  /-- The plural kebab-case segment of URLs. -/
  resource : String
  /-- The path of the wiring module. -/
  modulePath : String
  deriving DecidableEq, Repr, Inhabited

/-- A choice of names for every entity name. -/
abbrev NamingStrategy := String → ResourceNaming

/-- The default names of an entity. -/
def ResourceNaming.derive : NamingStrategy := fun entityType =>
  let entityName := Text.camelCase entityType
  { entityType
    entityName
    resource := Text.pluralize (Text.kebabCase entityName)
    modulePath := entityName ++ "/" ++ entityName ++ "_module.py" }

/-- The path of the service module of a resource. -/
def servicePath (entityName : String) : String :=
  entityName ++ "/" ++ entityName ++ "_service.py"

/-- The path of the controller module of a resource. -/
def controllerPath (entityName : String) : String :=
  entityName ++ "/" ++ entityName ++ "_controller.py"

/-- The path of the test module of a resource. -/
def testPath (entityName : String) : String :=
  entityName ++ "/test_" ++ entityName ++ "_controller.py"

/-- The path of the module of a class of a resource. -/
def classPath (entityName className : String) : String :=
  entityName ++ "/base/" ++ className ++ ".py"

/-- A path without the suffix of a module file, if it has it. -/
def dropSuffix (path : List Char) : List Char :=
  if ['.', 'p', 'y'].isSuffixOf path then path.take (path.length - 3) else path

/-- The dotted path under which a module is imported. -/
def importPath (path : String) : String :=
  String.ofList ((dropSuffix path.toList).map fun c => if c = '/' then '.' else c)

end ResourceScaffold
