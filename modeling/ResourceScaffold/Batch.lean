import ResourceScaffold.Resource.DataModule
import ResourceScaffold.Resource.TestModule
import ResourceScaffold.Run

/-!
# Batches of entities

The modules of all entities of a schema are generated together. First the classes that are read are made for every
entity, because controllers refer to those of other entities; then each entity gets its modules. Every defect of a phase
is collected, and a batch with a defect returns no modules.
-/

namespace ResourceScaffold

open Code

/-! ## The classes of all entities -/

/-- What is known while the classes of a batch are made: the classes under the names of their entities, the entity that
owns each identifier, and the defects so far. -/
structure Registry where
  classes : Table Descriptor := []
  owners : List (String × Value) := []
  defects : List Defect := []

namespace Registry

/-- The registry with one more defect. -/
def withDefect (r : Registry) (d : Defect) : Registry :=
  { r with defects := r.defects ++ [d] }

/-- A result put into the registry, or its defect; a misuse ends the batch. -/
def record {α : Type} (r : Registry) (x : Except Fault α) (put : α → Registry) : Except Fault Registry :=
  match x with
  | .ok a => .ok (put a)
  | .error (.defect d) => .ok (r.withDefect d)
  | .error fault => .error fault

/-- The registry with an entity whose name passed its checks. An identifier is owned from here on, also when the class of
the entity fails. -/
def addNamed (ids : Entries) (naming : NamingStrategy) (r : Registry) (e : Entity) (name : String) :
    Except Fault Registry :=
  let identifier := (naming name).entityName
  if (r.classes.find? (.text name)).isSome then .ok (r.withDefect (.entityName e.name .repeated))
  else match r.owners.lookup identifier with
    | some owner => .ok (r.withDefect (.entityName e.name (.sharedIdentifier identifier owner)))
    | none =>
        let r := { r with owners := r.owners ++ [(identifier, e.name)] }
        r.record (entityDescriptor e ids) fun d => { r with classes := r.classes.insert e.name d }

/-- The registry with an entity. -/
def add (ids : Entries) (naming : NamingStrategy) (r : Registry) (e : Entity) : Except Fault Registry :=
  match checkEntityName e.name with
  | .error (.defect d) => .ok (r.withDefect d)
  | .error fault => .error fault
  | .ok () =>
      match e.name with
      | .text name => r.addNamed ids naming e name
      | _ => .error (.misuse .wrongOperand)

end Registry

/-- The class that is read of every entity, under the names of the entities. -/
def entityClasses (entities : List Entity) (ids : Entries) (naming : NamingStrategy) :
    Except Fault (Table Descriptor) := do
  let r ← entities.foldlM (Registry.add ids naming) {}
  if r.defects.isEmpty then return r.classes else .error (.batch r.defects)

/-! ## The modules of one entity -/

/-- The modules of the classes of the operations on an entity and of its enumerations. -/
def dataModules (e : Entity) (inputs : InputDescriptors) (entityName : String) :
    Except Fault (List SourceModule) := do
  let enumerations ← e.enumFields.mapM (EnumDescriptor.ofField e)
  let modules ← inputs.toList.mapM fun d => d.toModule entityName
  return modules ++ enumerations.map fun d => d.toModule entityName

/-- The modules of an entity: its data classes, service, controller, wiring and tests. -/
def resourceModules (ids : Entries) (classes : Table Descriptor) (byName : Table Entity) (naming : NamingStrategy)
    (e : Entity) : Run (List SourceModule) := do
  Run.ofExcept (checkEntityName e.name)
  let entityType ← Run.ofExcept e.name.asText
  Run.report (.creating entityType)
  let names := naming entityType
  let inputs ← Run.ofExcept (inputDescriptors e ids)
  let data ← Run.ofExcept (dataModules e inputs names.entityName)
  Run.report (.rendered entityType data.length)
  let service := serviceModule names.entityName entityType
  let controller ← Run.ofExcept
    (Controller.ofEntity names.resource names.entityName service.path e inputs classes ids byName)
  let controller ← Run.ofExcept controller.toModule
  let wiring := wiringModule names.modulePath entityType service.path controller.path
  let tests ← Run.ofExcept (testModule names.resource names.entityName service.path wiring.path e ids)
  return data ++ [service, controller, wiring, tests]

/-! ## All modules -/

/-- The misuse of a failed result. -/
def misuse? {α : Type} : Except Fault α → Option Misuse
  | .error (.misuse m) => some m
  | _ => none

/-- The defects of a failed result. -/
def defectsOf {α : Type} : Except Fault α → List Defect
  | .error (.defect d) => [d]
  | .error (.batch ds) => ds
  | _ => []

/-- The results of a batch: all of them if none failed, otherwise the first misuse, otherwise all defects. -/
def gather {α : Type} (results : List (Except Fault α)) : Except Fault (List α) :=
  match results.mapM id, results.findSome? misuse? with
  | .ok values, _ => .ok values
  | .error _, some m => .error (.misuse m)
  | .error _, none => .error (.batch (results.flatMap defectsOf))

/-- The module of the class that is read of each entity. -/
def classModules (classes : Table Descriptor) (naming : NamingStrategy) : Except Fault (List SourceModule) :=
  classes.mapM fun (name, d) => d.toModule (naming name.display).entityName

/-- The modules of all entities of a schema: those of each entity, in order, and then one for the class that is read of
each entity. -/
def Schema.generate (schema : Schema) (naming : NamingStrategy) : Run (List SourceModule) := do
  let byName ← Run.ofExcept (entitiesByName schema.entities)
  Run.report (.building schema.entities.length)
  let classes ← Run.ofExcept (entityClasses schema.entities schema.ids naming)
  let results ← Run.all (schema.entities.map (resourceModules schema.ids classes byName naming))
  let modules ← Run.ofExcept (gather results)
  let shared ← Run.ofExcept (classModules classes naming)
  let all := modules.flatten ++ shared
  Run.report (.generated all.length schema.entities.length)
  return all

end ResourceScaffold
