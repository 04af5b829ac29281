import ResourceScaffold.Schema.DataType

/-!
# Filters of scalar values

A where input filters a scalar by a filter class, which offers one property for each operator.
-/

namespace ResourceScaffold

/-- A filter class. -/
inductive Filter where
  | string
  | int
  | float
  | dateTime
  | boolean
  deriving DecidableEq, Repr, Inhabited

/-- An operator of a filter. -/
structure Operator where
  name : String
  /-- Whether the operator takes a list of values. -/
  isList : Bool := false
  /-- The name in requests, if it is not the name in code. -/
  requestName : Option String := none
  deriving DecidableEq, Repr, Inhabited

namespace Filter

/-- All filters. -/
def all : List Filter :=
  [string, int, float, dateTime, boolean]

/-- The name of a filter class. -/
def name : Filter → String
  | string => "StringFilter"
  | int => "IntFilter"
  | float => "FloatFilter"
  | dateTime => "DateTimeFilter"
  | boolean => "BooleanFilter"

/-- The filter with a name. -/
def ofName? (s : String) : Option Filter :=
  all.find? fun f => f.name == s

/-- The type of the values that a filter compares with. -/
def valueType : Filter → ScalarType
  | string => .text
  | int => .integer
  | float => .number
  | dateTime => .dateTime
  | boolean => .boolean

/-- Equality. -/
def equals : Operator :=
  { name := "equals" }

/-- Membership; its name in code ends in an underscore. -/
def isIn : Operator :=
  { name := "in_", isList := true, requestName := some "in" }

/-- The operators of a filter, in order. -/
def operators : Filter → List Operator
  | string => [equals, isIn, { name := "contains" }, { name := "startsWith" }, { name := "endsWith" }]
  | int | float | dateTime =>
      [equals, isIn, { name := "lt" }, { name := "lte" }, { name := "gt" }, { name := "gte" }]
  | boolean => [equals]

end Filter

/-- The filter of a scalar type; documents have none. -/
def ScalarType.filter? : ScalarType → Option Filter
  | text => some .string
  | integer => some .int
  | number => some .float
  | dateTime => some .dateTime
  | boolean => some .boolean
  | json => none

/-- The filter of a scalar type compares values of this type. -/
theorem ScalarType.valueType_of_filter? {t : ScalarType} {f : Filter} (h : t.filter? = some f) : f.valueType = t := by
  cases t <;> cases h <;> rfl

end ResourceScaffold
