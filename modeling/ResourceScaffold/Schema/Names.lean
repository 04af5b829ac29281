import ResourceScaffold.Schema.Basic
import ResourceScaffold.Value.Access
import ResourceScaffold.Text.Words
import ResourceScaffold.Text.Identifier

/-!
# Checks on names

An entity name has to be usable for classes and modules of the generated code, a field name for an attribute of its
model classes.
-/

namespace ResourceScaffold

/-- The names that generated modules import or define themselves. -/
def reservedNames : List String :=
  ["Any", "APIRouter", "BaseModel", "Depends", "Dict", "Enum", "FastAPI", "Field", "HTTPException", "List", "Optional",
   "Query", "TestClient", "date", "datetime", "router", "service"]

/-- The attributes of model classes that do not begin with an underscore or with `model_`. -/
def modelAttributes : List String :=
  ["construct", "copy", "dict", "from_orm", "json", "mro", "parse_file", "parse_obj", "parse_raw", "register", "schema",
   "schema_json", "update_forward_refs", "validate"]

/-- Whether a text is an ASCII letter followed by ASCII letters, digits and underscores; one line feed may end it. -/
def isEntityWord (s : List Char) : Bool :=
  match s with
  | [] => false
  | c :: rest =>
      let tail := if rest.getLast? = some '\n' then rest.dropLast else rest
      c.isAlpha && tail.all fun d => d.isAlphanum || d == '_'

/-- Checks the name of an entity. -/
def checkEntityName (name : Value) : Except Fault Unit :=
  if !name.isTruthy then .error (.ofName name .empty)
  else do
    let s ← name.asShownText
    if !isEntityWord s.toList then .error (.ofName name .malformed)
    else if Text.isKeyword s || Text.isKeyword (Text.camelCase s) then .error (.ofName name .keyword)
    else if reservedNames.contains s then .error (.ofName name .reserved)
    else .ok ()

/-- Whether a field name means something else in a model class. -/
def isModelAttribute (s : String) : Bool :=
  "_".toList.isPrefixOf s.toList || "model_".toList.isPrefixOf s.toList || modelAttributes.contains s

/-- Checks the name of a field of an entity. -/
def checkFieldName (e : Entity) (f : Field) : Except Fault Unit :=
  match f.name with
  | .text s =>
      if !Text.isIdentifier s || Text.isKeyword s then .error (.ofField e.name f.name .notIdentifier)
      else if isModelAttribute s then .error (.ofField e.name f.name .modelAttribute)
      else if 1 < (e.fields.filter fun g => g.name.isText s).length then .error (.ofField e.name f.name .repeated)
      else .ok ()
  | .illFormed _ => .error (.ofField e.name f.name .notIdentifier)
  | _ => .error (.misuse .missingOperation)

end ResourceScaffold
