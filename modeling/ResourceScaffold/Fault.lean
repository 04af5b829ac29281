import ResourceScaffold.Value.Literal

/-!
# What can be wrong

A `Defect` is a fault of a schema that is reported by a message. A `Misuse` is an operation on a value of the document
that the value does not support. A computation fails with a `Fault`: one defect, the defects of a whole batch, or a
misuse.
-/

namespace ResourceScaffold

/-- Why the name of an entity is refused. -/
inductive NameFault where
  /-- The name is missing, empty or another value that counts as false. -/
  | empty
  /-- The name is not a letter followed by letters, digits and underscores. -/
  | malformed
  /-- The name, or its camelCase form, is a keyword. -/
  | keyword
  /-- The name is one that generated code imports. -/
  | reserved
  /-- Another entity has the same name. -/
  | repeated
  /-- Another entity has the same identifier. -/
  | sharedIdentifier (identifier : String) (owner : Value)
  deriving Repr

/-- Why a field is refused. -/
inductive FieldFault where
  | unknownDataType (type : Value)
  | noTarget
  | noOptions
  | notIdentifier
  /-- The name means something else in a class of the generated code. -/
  | modelAttribute
  | repeated
  | badEnumName (name : Value)
  | optionWithoutValue
  | repeatedOption (member : String)
  deriving Repr

/-- A fault of a schema. -/
inductive Defect where
  | entityName (name : Value) (reason : NameFault)
  | relationTarget (entity field target : Value)
  | field (entity field : Value) (reason : FieldFault)
  deriving Repr

/-- An operation on a value that the value does not support. -/
inductive Misuse where
  /-- The value has no such operation or member. -/
  | missingOperation
  /-- The operation does not accept the value. -/
  | wrongOperand
  /-- A pair of a key and a value does not have two parts. -/
  | notAPair
  /-- Nothing is filed under the key. -/
  | absentKey
  /-- No field has the name that addresses records. -/
  | absentKeyField
  /-- A number that is not finite is written where only finite ones can be. -/
  | notFinite
  /-- A text that has a surrogate is encoded. -/
  | noEncoding
  deriving DecidableEq, Repr

/-- Why a computation fails. -/
inductive Fault where
  | defect (d : Defect)
  | batch (ds : List Defect)
  | misuse (m : Misuse)
  deriving Repr

/-- The reason in the message about an entity name. -/
def NameFault.reason : NameFault → String
  | empty => "name must not be empty"
  | malformed => "name must start with a letter and contain only letters, digits and underscores"
  | keyword => "name is a Python keyword"
  | reserved => "name is reserved"
  | repeated => "name is declared more than once"
  | sharedIdentifier identifier owner =>
      "name maps to " ++ Text.quoted identifier ++ ", already used by " ++ owner.literal

/-- The reason in the message about a field. -/
def FieldFault.reason : FieldFault → String
  | unknownDataType type => "unknown data type " ++ type.literal
  | noTarget => "relation field has no relatedEntityId"
  | noOptions => "enum field has no options"
  | notIdentifier => "field name is not a valid identifier"
  | modelAttribute => "field name clashes with a pydantic model attribute"
  | repeated => "field name is declared more than once"
  | badEnumName name => "enum name " ++ name.literal ++ " is not an identifier"
  | optionWithoutValue => "enum option has no value"
  | repeatedOption member => "duplicate enum option " ++ member

/-- The message about a defect. The names of an entity and of its field stand in it as they are, and a literal is made of
printable characters; so an ill-formed name of a field makes an ill-formed message. -/
def Defect.message : Defect → WideText
  | .entityName name reason => "Invalid entity name " ++ name.literal ++ ": " ++ reason.reason
  | .relationTarget entity name target =>
      "Field " ++ entity.wide ++ "." ++ name.wide ++ " references unknown entity " ++ target.literal
  | .field entity name reason =>
      "Malformed field " ++ entity.wide ++ "." ++ name.wide ++ ": " ++ reason.reason

/-- The message about the defects of a batch, one line for each. -/
def Defect.batchMessage (ds : List Defect) : WideText :=
  "Resource generation failed with " ++ intText ds.length ++ " error(s):\n" ++
    .intercalate "\n" (ds.map fun d => "  - " ++ d.message)

/-- A defect of an entity name. -/
def Fault.ofName (name : Value) (reason : NameFault) : Fault :=
  .defect (.entityName name reason)

/-- A defect of a field. -/
def Fault.ofField (entity field : Value) (reason : FieldFault) : Fault :=
  .defect (.field entity field reason)

end ResourceScaffold
