import ResourceScaffold.Schema.DataType
import ResourceScaffold.Value.Key

/-!
# Schemas

A schema is a list of entities with fields, and a lookup from stable entity ids to entity names. Names are values of the
document: nothing here requires that they are texts, the checks on names do.
-/

namespace ResourceScaffold

/-- A field of an entity. -/
structure Field where
  name : Value
  dataType : DataType
  required : Bool
  unique : Bool
  searchable : Bool
  properties : Entries
  deriving Repr, Inhabited

/-- An entity of a schema; a missing id is null. -/
structure Entity where
  name : Value
  fields : List Field
  id : Value
  deriving Repr, Inhabited

/-- A schema: its entities and the lookup from entity ids to entity names. -/
structure Schema where
  entities : List Entity
  ids : Entries
  deriving Repr, Inhabited

namespace Field

/-- The kind of a field. -/
def kind (f : Field) : FieldKind :=
  f.dataType.kind

/-- Whether a relation leads to many entities. -/
def isToMany (f : Field) : Bool :=
  (f.properties.getD "allowMultipleSelection").isTruthy

/-- Whether clients may set the field. -/
def isEditable (f : Field) : Bool :=
  !f.dataType.isServerManaged

/-- Whether a field holds options of an enumeration. -/
def isEnumeration (f : Field) : Bool :=
  match f.kind with
  | .enumeration _ => true
  | _ => false

/-- Whether a field leads to other entities. -/
def isRelation (f : Field) : Bool :=
  match f.kind with
  | .relation => true
  | _ => false

/-- Whether a field identifies an entity: a scalar that is an id or declared unique. -/
def isIdentifying (f : Field) : Bool :=
  match f.kind with
  | .scalar _ => f.dataType == .id || f.unique
  | _ => false

/-- Whether entities can be filtered by a field. Identifying fields are filterable even when they are not searchable;
documents never are. -/
def isFilterable (f : Field) : Bool :=
  f.dataType != .json && (f.searchable || f.isIdentifying)

end Field

namespace Entity

/-- The fields that hold options, in order. -/
def enumFields (e : Entity) : List Field :=
  e.fields.filter Field.isEnumeration

/-- The fields that lead to other entities, in order. -/
def relationFields (e : Entity) : List Field :=
  e.fields.filter Field.isRelation

end Entity

end ResourceScaffold
