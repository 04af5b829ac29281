/-!
# Data types of fields

The data types that a schema may give to a field, their kinds, and the types of scalar values.
-/

namespace ResourceScaffold

/-- The type of a scalar value in generated code. -/
inductive ScalarType where
  | text
  | integer
  | number
  | dateTime
  | boolean
  | json
  deriving DecidableEq, Repr, Inhabited

/-- The name of a scalar type in generated code. -/
def ScalarType.typeName : ScalarType → String
  | text => "str"
  | integer => "int"
  | number => "float"
  | dateTime => "datetime"
  | boolean => "bool"
  | json => "Dict[str, Any]"

/-- What a field holds: a scalar, one or many of a fixed set of options, or other entities. -/
inductive FieldKind where
  | scalar (type : ScalarType)
  | enumeration (many : Bool)
  | relation
  deriving DecidableEq, Repr, Inhabited

/-- The name of a kind of field. -/
def FieldKind.name : FieldKind → String
  | scalar _ => "scalar"
  | enumeration _ => "enum"
  | relation => "relation"

/-- A data type of a field. -/
inductive DataType where
  | id
  | createdAt
  | updatedAt
  | singleLineText
  | multiLineText
  | email
  | wholeNumber
  | decimalNumber
  | dateTime
  | boolean
  | json
  | optionSet
  | multiSelectOptionSet
  | lookup
  deriving DecidableEq, Repr, Inhabited

namespace DataType

/-- All data types. -/
def all : List DataType :=
  [id, createdAt, updatedAt, singleLineText, multiLineText, email, wholeNumber, decimalNumber, dateTime, boolean, json,
   optionSet, multiSelectOptionSet, lookup]

/-- The name of a data type in a schema. -/
def name : DataType → String
  | id => "Id"
  | createdAt => "CreatedAt"
  | updatedAt => "UpdatedAt"
  | singleLineText => "SingleLineText"
  | multiLineText => "MultiLineText"
  | email => "Email"
  | wholeNumber => "WholeNumber"
  | decimalNumber => "DecimalNumber"
  | dateTime => "DateTime"
  | boolean => "Boolean"
  | json => "Json"
  | optionSet => "OptionSet"
  | multiSelectOptionSet => "MultiSelectOptionSet"
  | lookup => "Lookup"

/-- The data type with a name. -/
def ofName? (s : String) : Option DataType :=
  all.find? fun t => t.name == s

/-- The kind of a data type. -/
def kind : DataType → FieldKind
  | id | singleLineText | multiLineText | email => .scalar .text
  | createdAt | updatedAt | dateTime => .scalar .dateTime
  | wholeNumber => .scalar .integer
  | decimalNumber => .scalar .number
  | boolean => .scalar .boolean
  | json => .scalar .json
  | optionSet => .enumeration false
  | multiSelectOptionSet => .enumeration true
  | lookup => .relation

/-- Whether the server, and not the client, sets fields of the type. -/
def isServerManaged : DataType → Bool
  | id | createdAt | updatedAt => true
  | _ => false

/-- Every data type is listed. -/
theorem mem_all (t : DataType) : t ∈ all := by
  cases t <;> decide

/-- A data type is found again under its name. -/
theorem ofName?_name (t : DataType) : ofName? t.name = some t := by
  cases t <;> decide

end DataType

end ResourceScaffold
