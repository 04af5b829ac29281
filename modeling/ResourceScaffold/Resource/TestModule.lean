import ResourceScaffold.Code.Basic
import ResourceScaffold.Descriptor.Classes
import ResourceScaffold.Json.Writer
import ResourceScaffold.Resource.Controller
import ResourceScaffold.Resource.Wiring
import ResourceScaffold.Sample

/-!
# Test modules

The tests of a resource send requests to its router with a service that answers with a sample record. `TestPlan` holds
the samples and the address of the record.
-/

namespace ResourceScaffold

open Code

/-- How the tests address the sample record. -/
structure TestKey where
  /-- The name of the field. -/
  name : Value
  /-- The value of the field in the record. -/
  value : Value

/-- The samples of the tests of an entity. -/
structure TestPlan where
  payload : Entries
  record : Entries
  key : Option TestKey

namespace TestPlan

/-- The record with a value under the name of a property. A value that is not read back is the sample of the first field
with that name. -/
def withKey (e : Entity) (ids : Entries) (record : Entries) (name : Value) : Except Fault Entries := do
  let key ← name.asKey
  match record.find? key with
  | some _ => return record
  | none =>
      match e.fields.find? fun f => f.name.sameKey name with
      | some f => return record.insert name (← Sample.value e f ids)
      | none => .error (.misuse .absentKeyField)

/-- The samples of an entity. -/
def ofEntity (e : Entity) (ids : Entries) : Except Fault TestPlan := do
  let payload ← Sample.payload e ids
  let record ← Sample.record e ids
  let unique ← whereUniqueDescriptor e
  match unique.keyProperty? with
  | none => return { payload, record, key := none }
  | some p =>
      let record ← withKey e ids record p.name
      return { payload, record, key := some { name := p.name, value := ← Table.lookup record p.name } }

end TestPlan

/-- The text of a key in URLs: a text as it is, other values by their JSON text. -/
def TestKey.segment (key : TestKey) : String :=
  match key.value with
  | .text s => s
  | .illFormed t => t.text.shown
  | v => Json.write v

/-- A test, as the lines of a function and two blank lines before it. -/
def testFunction (name : String) (body : List String) : List Statement :=
  [.blank, .blank, .function name (("def " ++ name ++ "():") :: body.map fun line => "    " ++ line)]

/-- The tests of single records. -/
def recordTests (resource entityName : String) (key : TestKey) : List Statement :=
  let url := "\"/" ++ resource ++ "/" ++ key.segment ++ "\""
  let field := key.name.literal
  testFunction ("test_find_one_" ++ entityName)
    ["service = make_service(find_one=RESULT)",
     "response = make_client(service).get(" ++ url ++ ")",
     "assert response.status_code == 200",
     "assert response.json()[" ++ field ++ "] == RESULT[" ++ field ++ "]"] ++
  testFunction ("test_find_one_" ++ entityName ++ "_not_found")
    ["service = make_service(find_one=None)",
     "response = make_client(service).get(" ++ url ++ ")",
     "assert response.status_code == 404"] ++
  testFunction ("test_delete_" ++ entityName)
    ["service = make_service(delete=RESULT)",
     "response = make_client(service).delete(" ++ url ++ ")",
     "assert response.status_code == 204"]

/-- The test module with the given samples, for the service and wiring modules at the given paths. -/
def TestPlan.moduleWith (plan : TestPlan) (resource entityName entityType service wiring : String) : SourceModule :=
  { path := testPath entityName
    body :=
      [.importNames { origin := .library "unittest.mock", names := ["AsyncMock", "MagicMock"] },
       .blank,
       .importNames { origin := .library "fastapi", names := ["FastAPI"] },
       .importNames { origin := .library "fastapi.testclient", names := ["TestClient"] },
       .blank,
       .importNames { origin := .generated wiring, names := [wiringClass entityType] },
       .importNames { origin := .generated service, names := [serviceClass entityType] },
       .blank,
       .assign "CREATE_INPUT" (Value.mapping plan.payload).layout,
       .blank,
       .assign "RESULT" (Value.mapping plan.record).layout,
       .blank,
       .blank,
       .function "make_client"
         ["def make_client(service):",
          "    app = FastAPI()",
          "    " ++ wiringClass entityType ++ "(service).register(app)",
          "    return TestClient(app)"],
       .blank,
       .blank,
       .function "make_service"
         ["def make_service(**methods):",
          "    service = MagicMock(spec=" ++ serviceClass entityType ++ ")",
          "    for name, value in methods.items():",
          "        setattr(service, name, AsyncMock(return_value=value))",
          "    return service"]] ++
      testFunction ("test_create_" ++ entityName)
        ["service = make_service(create=RESULT)",
         "response = make_client(service).post(\"/" ++ resource ++ "\", json=CREATE_INPUT)",
         "assert response.status_code == 201",
         "service.create.assert_awaited_once()"] ++
      testFunction ("test_find_many_" ++ entityName)
        ["service = make_service(find_many=[RESULT])",
         "response = make_client(service).get(\"/" ++ resource ++ "\")",
         "assert response.status_code == 200",
         "assert len(response.json()) == 1"] ++
      (match plan.key with
        | some key => recordTests resource entityName key
        | none => [])
    dependencies := [service, wiring] }

/-- The test module of an entity, for the service and wiring modules at the given paths. -/
def testModule (resource entityName service wiring : String) (e : Entity) (ids : Entries) :
    Except Fault SourceModule := do
  let plan ← TestPlan.ofEntity e ids
  return plan.moduleWith resource entityName e.name.display service wiring

end ResourceScaffold
