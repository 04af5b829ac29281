import ResourceScaffold.Schema.Basic
import ResourceScaffold.Value.Access

/-!
# Schemas from documents

A schema document is an object with `entities` and `entityIdToName`. An entity with an id is filed under it in the lookup
unless `entityIdToName` maps that id to a name of its own.
-/

namespace ResourceScaffold

/-- The data type of a field, given by its name. -/
def DataType.ofValue? : Value → Option DataType
  | .text s => ofName? s
  | _ => none

/-- A flag of a field: whether the member counts as true, or the default if there is none. -/
def Field.flag (members : Entries) (name : String) (default : Bool) : Bool :=
  ((members.get? name).map Value.isTruthy).getD default

/-- The name of an entity or field; a missing name is the empty text. -/
def nameMember (members : Entries) : Value :=
  (members.get? "name").getD (.text "")

/-- A field of the entity with the given name. -/
def Field.ofValue (entity : Value) (v : Value) : Except Fault Field := do
  let members ← v.members
  let name := nameMember members
  let type := members.getD "dataType"
  match DataType.ofValue? type with
  | none => .error (.ofField entity name (.unknownDataType type))
  | some dataType =>
      let properties := members.getD "properties"
      let entries ← if properties.isTruthy then Entries.update [] properties else .ok []
      return {
        name
        dataType
        required := Field.flag members "required" false
        unique := Field.flag members "unique" false
        searchable := Field.flag members "searchable" true
        properties := entries }

/-- An entity with its fields. -/
def Entity.ofValue (v : Value) : Except Fault Entity := do
  let members ← v.members
  let name := nameMember members
  let fields ← ((members.get? "fields").getD (.list [])).elements
  let fields ← fields.mapM (Field.ofValue name)
  return { name, fields, id := members.getD "id" }

/-- The names of the entities that declare an id, under their ids. -/
def Schema.declaredIds (entities : List Entity) : Except Fault Entries :=
  (entities.filter fun e => match e.id with
    | .null => false
    | _ => true).foldlM (fun (ids : Entries) e => do
      let _ ← e.id.asKey
      return ids.insert e.id e.name) []

/-- The schema that a document describes. -/
def Schema.ofDocument (v : Value) : Except Fault Schema := do
  let members ← v.members
  let entities ← ((members.get? "entities").getD (.list [])).elements
  let entities ← entities.mapM Entity.ofValue
  let ids ← Schema.declaredIds entities
  let overrides := members.getD "entityIdToName"
  let ids ← if overrides.isTruthy then ids.update overrides else .ok ids
  return { entities, ids }

end ResourceScaffold
