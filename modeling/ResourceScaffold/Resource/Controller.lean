import ResourceScaffold.Code.Text
import ResourceScaffold.Descriptor.Basic
import ResourceScaffold.Resource.Service
import ResourceScaffold.Schema.Relations
import ResourceScaffold.Value.Layout

/-!
# Controller modules

The controller of a resource answers requests: create and list, and, when the entity has an identifying field, read,
update and delete of single records and the routes of its relations. `Controller` holds what its text is made from;
`Controller.endpoints` are its routes.
-/

namespace ResourceScaffold

open Code

/-- The property by which routes address single records: `id` if it identifies, or else the first that does. -/
def Descriptor.keyProperty? (whereUnique : Descriptor) : Option Property :=
  match whereUnique.get? "id" with
  | some p => some p
  | none => whereUnique.properties.head?

/-- The parameter that addresses single records. -/
structure KeyParameter where
  name : String
  type : String
  deriving DecidableEq, Repr

/-- The parameter for a property; a property without a name gives none. -/
def KeyParameter.ofProperty? (p : Property) : Option KeyParameter :=
  match p.name with
  | .null => none
  | name => some { name := name.display, type := p.type.display }

/-- A relation of an entity, with the class of its target. -/
structure Relation where
  field : Field
  /-- The name of the target. -/
  entity : String
  target : Descriptor

/-- What a controller is made from. -/
structure Controller where
  resource : String
  entityName : String
  entityType : String
  service : String
  /-- The class that is read. -/
  read : Descriptor
  inputs : InputDescriptors
  /-- What the routes other than those of relations select. -/
  select : Value
  relations : List Relation

/-! ## What is selected -/

/-- Whether a property holds a scalar or an option, and not another entity. -/
def Property.isPlain (p : Property) : Bool :=
  match p.reference with
  | none => true
  | some r => r.kind == .enumeration

/-- Each name mapped to true. -/
def selectNames (names : List Value) : Value :=
  .mapping (names.map fun name => (name, .bool true))

/-- What is selected for a property: a scalar or an option as it is, of a single related entity its scalars and options,
and nothing of many. -/
def selectProperty (table : Table Descriptor) (p : Property) : Except Fault (List (Value × Value)) := do
  match p.reference with
  | some { kind := .entity, entity, .. } =>
      if p.isList then return []
      else
        let target ← table.lookup entity
        let names := (target.properties.filter Property.isPlain).map Property.name
        return [(p.name, .mapping [(.text "select", selectNames names)])]
  | _ => return [(p.name, .bool true)]

/-- What is selected when an entity is read. -/
def Descriptor.selection (d : Descriptor) (table : Table Descriptor) : Except Fault Value := do
  return .mapping (← d.properties.mapM (selectProperty table)).flatten

/-- What is selected of the target of a relation. -/
def Relation.selection (r : Relation) : Value :=
  selectNames ((r.target.properties.filter fun p => p.reference.isNone).map Property.name)

/-! ## Endpoints -/

/-- The class that identifies the target of a relation. -/
def Relation.uniqueClass (r : Relation) : String :=
  r.target.name.display ++ "WhereUniqueInput"

namespace Controller

/-- The name of the constant that holds the selection. -/
def selectName (c : Controller) : String :=
  Text.upper (Text.snakeCase c.entityType) ++ "_SELECT"

/-- The property that addresses single records. -/
def keyProperty? (c : Controller) : Option Property :=
  c.inputs.whereUniqueInput.keyProperty?

/-- The parameter that addresses single records. -/
def key? (c : Controller) : Option KeyParameter :=
  c.keyProperty?.bind KeyParameter.ofProperty?

/-- The class that is read, as the model of a response. -/
def readModel (c : Controller) : TypeExpr :=
  { name := c.read.name.display }

/-- The parameter through which a route gets the service. -/
def serviceParameter (c : Controller) : Parameter :=
  { name := "service", type := { name := serviceClass c.entityType }, default := some "Depends(get_service)" }

/-- The parameter of the body of a request, of a class of the operations. -/
def dataParameter (d : Descriptor) : Parameter :=
  { name := "data", type := { name := d.name.display } }

/-- The route that creates a record. -/
def createEndpoint (c : Controller) : Endpoint :=
  { method := .post
    path := ""
    response := some c.readModel
    status := some 201
    name := "create_" ++ c.entityName
    layout := .joined
    parameters := [dataParameter c.inputs.createInput, c.serviceParameter]
    body :=
      ["return await service.create(data=data.model_dump(by_alias=True, exclude_none=True), select=" ++
        c.selectName ++ ")"] }

/-- The route that lists records. -/
def listEndpoint (c : Controller) : Endpoint :=
  let filter := c.inputs.whereInput.name.display
  { method := .get
    path := ""
    response := some { c.readModel with isList := true }
    name := "find_many_" ++ c.entityName
    layout := .stacked
    parameters :=
      [{ name := "where", type := { name := "str", optional := true }, default := some "Query(None)" },
       { name := "skip", type := { name := "int" }, default := some "Query(0, ge=0)" },
       { name := "take", type := { name := "int", optional := true }, default := some "Query(None, ge=1)" },
       c.serviceParameter]
    body :=
      ["try:",
       "    args = " ++ filter ++ ".model_validate(json.loads(where)) if where else " ++ filter ++ "()",
       "except (ValueError, ValidationError) as e:",
       "    raise HTTPException(status_code=400, detail=str(e))",
       "return await service.find_many(",
       "    where=args.model_dump(by_alias=True, exclude_none=True), skip=skip, take=take, select=" ++ c.selectName,
       ")"] }

end Controller

namespace KeyParameter

/-- The parameter that addresses single records. -/
def parameter (key : KeyParameter) : Parameter :=
  { name := key.name, type := { name := key.type } }

/-- The path of a single record. -/
def path (key : KeyParameter) : String :=
  "/\x7b" ++ key.name ++ "\x7d"

/-- The condition that holds of a single record. -/
def condition (key : KeyParameter) : String :=
  "\x7b\"" ++ key.name ++ "\": " ++ key.name ++ "\x7d"

end KeyParameter

namespace Controller

/-- What a route of a single record does when there is none. -/
def unlessFound (c : Controller) (key : KeyParameter) : List String :=
  ["if result is None:",
   "    raise HTTPException(status_code=404, detail=f\"" ++ c.entityType ++ " with " ++ key.name ++ " \x7b" ++ key.name ++
     "\x7d not found\")"]

/-- The route that reads a record. -/
def readEndpoint (c : Controller) (key : KeyParameter) : Endpoint :=
  { method := .get
    path := key.path
    response := some c.readModel
    name := "find_one_" ++ c.entityName
    layout := .inline
    parameters := [key.parameter, c.serviceParameter]
    body :=
      ["result = await service.find_one(where=" ++ key.condition ++ ", select=" ++ c.selectName ++ ")"] ++
      c.unlessFound key ++ ["return result"] }

/-- The route that updates a record. -/
def updateEndpoint (c : Controller) (key : KeyParameter) : Endpoint :=
  { method := .patch
    path := key.path
    response := some c.readModel
    name := "update_" ++ c.entityName
    layout := .joined
    parameters := [key.parameter, dataParameter c.inputs.updateInput, c.serviceParameter]
    body :=
      ["result = await service.update(",
       "    where=" ++ key.condition ++ ", data=data.model_dump(by_alias=True, exclude_none=True), select=" ++ c.selectName,
       ")"] ++ c.unlessFound key ++ ["return result"] }

/-- The route that deletes a record. -/
def deleteEndpoint (c : Controller) (key : KeyParameter) : Endpoint :=
  { method := .delete
    path := key.path
    status := some 204
    name := "delete_" ++ c.entityName
    layout := .inline
    parameters := [key.parameter, c.serviceParameter]
    body :=
      ["result = await service.delete(where=" ++ key.condition ++ ")"] ++ c.unlessFound key ++ ["return None"] }

/-- The route that reads the targets of a relation. -/
def relatedEndpoint (c : Controller) (key : KeyParameter) (r : Relation) (name : String) : Endpoint :=
  let toMany := r.field.isToMany
  { method := .get
    path := key.path ++ "/" ++ Text.kebabCase name
    response := some { name := r.target.name.display, isList := toMany, optional := !toMany }
    name := "find_" ++ c.entityName ++ "_" ++ Text.snakeCase name
    layout := .inline
    parameters := [key.parameter, c.serviceParameter]
    body :=
      ["return await service.find_related(where=" ++ key.condition ++ ", field=\"" ++ name ++ "\", select=" ++
        r.selection.literal ++ ")"] }

/-- The route that connects or disconnects targets of a relation to many entities. -/
def linkEndpoint (c : Controller) (key : KeyParameter) (r : Relation) (name : String) (method : Method)
    (action : String) : Endpoint :=
  { method
    path := key.path ++ "/" ++ Text.kebabCase name
    status := some 204
    name := action ++ "_" ++ c.entityName ++ "_" ++ Text.snakeCase name
    layout := .joined
    parameters :=
      [key.parameter, { name := "body", type := { name := r.uniqueClass, isList := true } }, c.serviceParameter]
    body :=
      ["await service." ++ action ++ "(where=" ++ key.condition ++ ", field=\"" ++ name ++
        "\", targets=[item.model_dump(by_alias=True) for item in body])",
       "return None"] }

/-- The routes of a relation. -/
def relationEndpoints (c : Controller) (key : KeyParameter) (r : Relation) : Except Fault (List Endpoint) := do
  let name ← r.field.name.asText
  return c.relatedEndpoint key r name ::
    if r.field.isToMany then
      [c.linkEndpoint key r name .post "connect", c.linkEndpoint key r name .delete "disconnect"]
    else []

/-- The routes of a controller, in order. -/
def endpoints (c : Controller) : Except Fault (List Endpoint) := do
  let collection := [c.createEndpoint, c.listEndpoint]
  match c.key? with
  | none => return collection
  | some key =>
      let relations ← c.relations.mapM (c.relationEndpoints key)
      return collection ++ [c.readEndpoint key, c.updateEndpoint key, c.deleteEndpoint key] ++ relations.flatten

/-! ## The module -/

/-- The imports of the classes that a controller mentions, each once. -/
def classImports (c : Controller) : List Import :=
  let own := Text.camelCase c.entityType
  let classes := (c.read :: c.inputs.toList).map fun d => Import.ofClass own d.name.display
  let related := c.relations.flatMap fun r =>
    let owner := Text.camelCase r.entity
    Import.ofClass owner r.target.name.display ::
      if r.field.isToMany then [Import.ofClass owner (r.entity ++ "WhereUniqueInput")] else []
  distinctBy Import.line (classes ++ related)

/-- Whether the parameter that addresses single records is a date. -/
def keyIsDate (c : Controller) : Bool :=
  match c.keyProperty? with
  | some p => p.type.isText ScalarType.dateTime.typeName
  | none => false

/-- The statements before the routes. -/
def opening (c : Controller) : List Statement :=
  let service := serviceClass c.entityType
  [.importModule "json"] ++
  (if c.keyIsDate then [.importNames { origin := .library "datetime", names := ["datetime"] }] else []) ++
  [.importNames { origin := .library "typing", names := ["List", "Optional"] },
   .blank,
   .importNames { origin := .library "fastapi", names := ["APIRouter", "Depends", "HTTPException", "Query"] },
   .importNames { origin := .library "pydantic", names := ["ValidationError"] },
   .blank,
   .importNames { origin := .generated c.service, names := [service] }] ++
  c.classImports.map .importNames ++
  [.blank,
   .blank,
   .assign "router" ("APIRouter(prefix=\"/" ++ c.resource ++ "\", tags=[\"" ++ c.resource ++ "\"])"),
   .blank,
   .assign c.selectName c.select.layout,
   .blank,
   .blank,
   .function "get_service" ["def get_service() -> " ++ service ++ ":", "    return " ++ service ++ "()"]]

/-- The module of a controller with the given routes. -/
def moduleWith (c : Controller) (endpoints : List Endpoint) : SourceModule :=
  { path := controllerPath c.entityName
    body := c.opening ++ endpoints.flatMap fun e => [.blank, .blank, .endpoint e]
    dependencies := c.service :: c.classImports.filterMap Import.generatedPath? }

/-- The module of a controller. -/
def toModule (c : Controller) : Except Fault SourceModule := do
  return c.moduleWith (← c.endpoints)

/-- The relation of a field, with the class of its target. -/
def relationOf (e : Entity) (ids : Entries) (classes : Table Descriptor) (byName : Table Entity) (f : Field) :
    Except Fault Relation := do
  let related ← relatedEntity e f ids byName
  let target ← classes.lookup related.name
  let entity ← related.name.asText
  return { field := f, entity, target }

/-- The controller of an entity: its resource and identifier, its service module, the four classes of its operations, the
classes of all entities, the lookup of ids and the entities under their names. -/
def ofEntity (resource entityName service : String) (e : Entity) (inputs : InputDescriptors)
    (classes : Table Descriptor) (ids : Entries) (byName : Table Entity) : Except Fault Controller := do
  let read ← classes.lookup e.name
  let entityType ← e.name.asText
  let relations ← e.relationFields.mapM (relationOf e ids classes byName)
  let select ← read.selection classes
  return { resource, entityName, entityType, service, read, inputs, select, relations }

end Controller

end ResourceScaffold
