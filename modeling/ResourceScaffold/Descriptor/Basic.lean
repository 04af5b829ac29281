import ResourceScaffold.Value.Key

/-!
# Descriptors of generated classes

A descriptor says which properties a generated data class has; an enumeration descriptor which members.
-/

namespace ResourceScaffold

/-- What a property refers to. -/
inductive ReferenceKind where
  | entity
  | whereUnique
  | whereInput
  | enumeration
  | filter
  deriving DecidableEq, Repr, Inhabited

/-- Whether references of the kind can form import cycles between entities. -/
def ReferenceKind.isDeferred : ReferenceKind → Bool
  | entity | whereInput => true
  | whereUnique | enumeration | filter => false

/-- A reference of a property to another class. -/
structure Reference where
  name : Value
  kind : ReferenceKind
  /-- The entity that owns the class; null for filters, which belong to none. -/
  entity : Value
  deriving Repr, Inhabited

/-- A property of a class; `type` annotates a single value. -/
structure Property where
  name : Value
  type : Value
  optional : Bool
  isList : Bool := false
  reference : Option Reference := none
  deriving Repr, Inhabited

/-- What a data class is used for. -/
inductive DescriptorKind where
  | entity
  | createInput
  | updateInput
  | whereInput
  | whereUniqueInput
  deriving DecidableEq, Repr, Inhabited

/-- The name of a kind of data class. -/
def DescriptorKind.name : DescriptorKind → String
  | entity => "entity"
  | createInput => "create_input"
  | updateInput => "update_input"
  | whereInput => "where_input"
  | whereUniqueInput => "where_unique_input"

/-- The name of a kind of reference. -/
def ReferenceKind.name : ReferenceKind → String
  | entity => "entity_dto"
  | whereUnique => "where_unique"
  | whereInput => "where"
  | enumeration => "enum"
  | filter => "filter"

/-- All kinds of data classes. -/
def DescriptorKind.all : List DescriptorKind :=
  [entity, createInput, updateInput, whereInput, whereUniqueInput]

/-- All kinds of references. -/
def ReferenceKind.all : List ReferenceKind :=
  [entity, whereUnique, whereInput, enumeration, filter]

/-- A data class of an entity. -/
structure Descriptor where
  name : Value
  kind : DescriptorKind
  entity : Value
  properties : List Property
  deriving Repr, Inhabited

namespace Descriptor

/-- The names of the properties, in order. -/
def propertyNames (d : Descriptor) : List Value :=
  d.properties.map Property.name

/-- The first property with a name. -/
def get? (d : Descriptor) (name : String) : Option Property :=
  d.properties.find? fun p => p.name.isText name

end Descriptor

/-- A member of an enumeration. -/
structure EnumMember where
  name : String
  value : WideText
  deriving DecidableEq, Repr, Inhabited

/-- An enumeration class. -/
structure EnumDescriptor where
  name : Value
  members : List EnumMember
  deriving Repr, Inhabited

/-- The four classes of the operations on an entity. -/
structure InputDescriptors where
  createInput : Descriptor
  updateInput : Descriptor
  whereInput : Descriptor
  whereUniqueInput : Descriptor
  deriving Repr, Inhabited

/-- The four classes, in the order of their modules. -/
def InputDescriptors.toList (ds : InputDescriptors) : List Descriptor :=
  [ds.createInput, ds.updateInput, ds.whereInput, ds.whereUniqueInput]

end ResourceScaffold
