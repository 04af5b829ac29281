import ResourceScaffold.Descriptor.Enumeration
import ResourceScaffold.Descriptor.Filter
import ResourceScaffold.Schema.Names

/-!
# Data classes of an entity

The five data classes of an entity: what is read, what creates it, what updates it, what filters it and what identifies
it. Each is a function of the entity and the lookup of ids.
-/

namespace ResourceScaffold

/-- A property of a scalar field. -/
def scalarProperty (f : Field) (t : ScalarType) (optional : Bool) : Property :=
  { name := f.name, type := .text t.typeName, optional }

/-- A property of an enumeration field. -/
def enumProperty (e : Entity) (f : Field) (many optional : Bool) : Except Fault Property := do
  let name ← enumName e f
  return {
    name := f.name
    type := name
    optional
    isList := many
    reference := some { name, kind := .enumeration, entity := e.name } }

/-- A property of a relation field: the class of the target with the given suffix. -/
def relationProperty (e : Entity) (f : Field) (ids : Entries) (suffix : String) (kind : ReferenceKind)
    (optional isList : Bool) : Except Fault Property := do
  let target ← relatedName e f ids
  let name := Value.text (target.display ++ suffix)
  return {
    name := f.name
    type := name
    optional
    isList
    reference := some { name, kind, entity := target } }

/-- The property of a field in the class that is read. -/
def readProperty (e : Entity) (ids : Entries) (f : Field) : Except Fault Property := do
  checkFieldName e f
  match f.kind with
  | .relation => relationProperty e f ids "" .entity true f.isToMany
  | .enumeration many => enumProperty e f many (!f.required)
  | .scalar t => return scalarProperty f t (!f.required)

/-- The class that is read: all fields of the entity. -/
def entityDescriptor (e : Entity) (ids : Entries) : Except Fault Descriptor := do
  let properties ← e.fields.mapM (readProperty e ids)
  return { name := e.name, kind := .entity, entity := e.name, properties }

/-- The property of a field in a class that is written. A relation is connected by the identifying class of its target,
and one to many entities may always be left out. -/
def writeProperty (e : Entity) (ids : Entries) (allOptional : Bool) (f : Field) : Except Fault Property :=
  let optional := allOptional || !f.required
  match f.kind with
  | .relation => relationProperty e f ids "WhereUniqueInput" .whereUnique (optional || f.isToMany) f.isToMany
  | .enumeration many => enumProperty e f many optional
  | .scalar t => .ok (scalarProperty f t optional)

/-- The name of an entity with a suffix. -/
def Entity.nameWith (e : Entity) (suffix : String) : Value :=
  .text (e.name.display ++ suffix)

/-- The class that creates an entity: the fields that clients may set. -/
def createDescriptor (e : Entity) (ids : Entries) : Except Fault Descriptor := do
  let properties ← (e.fields.filter Field.isEditable).mapM (writeProperty e ids false)
  return { name := e.nameWith "CreateInput", kind := .createInput, entity := e.name, properties }

/-- The class that updates an entity: the same fields, all optional. -/
def updateDescriptor (e : Entity) (ids : Entries) : Except Fault Descriptor := do
  let properties ← (e.fields.filter Field.isEditable).mapM (writeProperty e ids true)
  return { name := e.nameWith "UpdateInput", kind := .updateInput, entity := e.name, properties }

/-- The property of a field in the class that filters. -/
def whereProperty (e : Entity) (ids : Entries) (f : Field) : Except Fault Property :=
  match f.kind with
  | .relation => relationProperty e f ids "WhereInput" .whereInput true false
  | .enumeration many => enumProperty e f many true
  | .scalar t =>
      match t.filter? with
      | some filter =>
          .ok {
            name := f.name
            type := .text filter.name
            optional := true
            reference := some { name := .text filter.name, kind := .filter, entity := .null } }
      | none => .error (.misuse .absentKey)

/-- The class that filters entities: the filterable fields, all optional. -/
def whereDescriptor (e : Entity) (ids : Entries) : Except Fault Descriptor := do
  let properties ← (e.fields.filter Field.isFilterable).mapM (whereProperty e ids)
  return { name := e.nameWith "WhereInput", kind := .whereInput, entity := e.name, properties }

/-- The property of a field in the class that identifies: required and compared by equality. -/
def whereUniqueProperty (f : Field) : Except Fault Property :=
  match f.kind with
  | .scalar t => .ok (scalarProperty f t false)
  | _ => .error (.misuse .absentKey)

/-- The class that identifies an entity: its filterable identifying fields. -/
def whereUniqueDescriptor (e : Entity) : Except Fault Descriptor := do
  let properties ← (e.fields.filter fun f => f.isFilterable && f.isIdentifying).mapM whereUniqueProperty
  return { name := e.nameWith "WhereUniqueInput", kind := .whereUniqueInput, entity := e.name, properties }

/-- The four classes of the operations on an entity. -/
def inputDescriptors (e : Entity) (ids : Entries) : Except Fault InputDescriptors := do
  let createInput ← createDescriptor e ids
  let updateInput ← updateDescriptor e ids
  let whereInput ← whereDescriptor e ids
  let whereUniqueInput ← whereUniqueDescriptor e
  return { createInput, updateInput, whereInput, whereUniqueInput }

end ResourceScaffold
