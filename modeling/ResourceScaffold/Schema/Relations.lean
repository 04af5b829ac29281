import ResourceScaffold.Schema.Basic
import ResourceScaffold.Value.Access

/-!
# Targets of relations and options of enumerations
-/

namespace ResourceScaffold

/-- The name of the entity that a relation field leads to, by the lookup of ids. -/
def relatedName (e : Entity) (f : Field) (ids : Entries) : Except Fault Value :=
  let id := f.properties.getD "relatedEntityId"
  if !id.isTruthy then .error (.ofField e.name f.name .noTarget)
  else do
    match ids.find? (← id.asKey) with
    | some name => return name
    | none => .error (.defect (.relationTarget e.name f.name id))

/-- The entity that a relation field leads to. -/
def relatedEntity (e : Entity) (f : Field) (ids : Entries) (byName : Table Entity) : Except Fault Entity := do
  let name ← relatedName e f ids
  match byName.find? (← name.asKey) with
  | some target => return target
  | none => .error (.defect (.relationTarget e.name f.name name))

/-- The options of an enumeration field: a value that counts as true. -/
def enumOptions (e : Entity) (f : Field) : Except Fault Value :=
  let options := f.properties.getD "options"
  if options.isTruthy then .ok options else .error (.ofField e.name f.name .noOptions)

/-- The entities under their names; of entities with equal names the last one. -/
def entitiesByName (entities : List Entity) : Except Fault (Table Entity) :=
  entities.foldlM (fun (table : Table Entity) e => do
    let _ ← e.name.asKey
    return table.insert e.name e) []

end ResourceScaffold
