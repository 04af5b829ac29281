import ResourceScaffold.Batch
import ResourceScaffold.Http.Body
import ResourceScaffold.Json.Reader
import ResourceScaffold.Settings.Basic

/-!
# Answers to requests

There are two endpoints: one says that the server is well, the other generates the modules of the schema in the body of a
request and answers with them, or with the messages about the defects of the schema. An answer is sent as encoded JSON, which
can hold neither an ill-formed text nor a number that is not finite: a request whose answer has one is not answered.
-/

namespace ResourceScaffold.Http

/-! ## Requests -/

/-- A request: its method, the path with what may follow it, and the text of its body. -/
structure Request where
  method : String
  target : String
  body : String
  deriving DecidableEq, Repr

/-- An endpoint. -/
inductive Endpoint where
  | health
  | generate
  deriving DecidableEq, Repr

/-- The path of an endpoint. -/
def Endpoint.path : Endpoint → String
  | health => "/v1/health"
  | generate => "/v1/resources/generate"

/-- The method of an endpoint. -/
def Endpoint.method : Endpoint → String
  | health => "GET"
  | generate => "POST"

/-- All endpoints. -/
def Endpoint.all : List Endpoint :=
  [health, generate]

/-- A text with the characters that are written as a percent sign and two hexadecimal digits, as far as they are ASCII. -/
def decodePercents : List Char → List Char
  | '%' :: a :: b :: rest =>
      match Text.hexNumber? [a, b] with
      | some n => if n < 128 then Char.ofNat n :: decodePercents rest else '%' :: decodePercents (a :: b :: rest)
      | none => '%' :: decodePercents (a :: b :: rest)
  | c :: rest => c :: decodePercents rest
  | [] => []

/-- The path of a target: without a query or fragment, and without slashes at its end. -/
def Request.path (r : Request) : String :=
  let path := r.target.toList.takeWhile fun c => c != '?' && c != '#'
  String.ofList ((decodePercents path).reverse.dropWhile (· == '/')).reverse

/-- The endpoint at the path of a request. -/
def Request.endpoint? (r : Request) : Option Endpoint :=
  Endpoint.all.find? fun e => e.path == r.path

/-- Whether a request has the method of an endpoint. -/
def Request.hasMethodOf (r : Request) (e : Endpoint) : Bool :=
  Text.upper r.method == e.method

/-! ## Answers -/

/-- An answer to a request. -/
inductive Answer where
  | healthy
  | generated (modules : List Code.SourceModule)
  /-- The schema has defects. -/
  | rejected (ds : List Defect)
  /-- The body of the request does not describe a schema. -/
  | invalid (findings : List Finding)
  /-- The body of the request cannot be read. -/
  | unreadable
  | notFound
  | methodNotAllowed
  deriving Repr

/-- The status code of an answer. -/
def Answer.status : Answer → Nat
  | healthy | generated _ => 200
  | rejected _ | invalid _ => 422
  | unreadable => 400
  | notFound => 404
  | methodNotAllowed => 405

/-- A JSON object. -/
def object (members : List (String × Value)) : Value :=
  .mapping (members.map fun (name, v) => (.text name, v))

/-- A place as a list of names and positions. -/
def placeValue (place : Place) : Value :=
  .list (place.map fun
    | .key name => .ofWide name
    | .position i => .int i)

/-- A generated module in an answer. -/
def moduleValue (m : Code.SourceModule) : Value :=
  object [("path", .text m.path), ("content", .text m.content), ("dependencies", .list (m.dependencies.map .text))]

/-- What is found wrong with the body of a request, in an answer. It quotes the value; a sentence that explains the complaint
is left out. -/
def findingValue (f : Finding) : Value :=
  object [("type", .text f.complaint.name), ("loc", placeValue f.place), ("input", f.value)]

/-- The body of an answer. -/
def Answer.body : Answer → Value
  | healthy => object [("status", .text "ok")]
  | generated modules =>
      object [("total", .int modules.length), ("modules", .list (modules.map moduleValue))]
  | rejected ds =>
      object [("detail", .text "Resource generation failed"), ("errors", .list (ds.map fun d => .ofWide d.message))]
  | invalid findings => object [("detail", .list (findings.map findingValue))]
  | unreadable => object [("detail", .text "There was an error parsing the body")]
  | notFound => object [("detail", .text "Not Found")]
  | methodNotAllowed => object [("detail", .text "Method Not Allowed")]

/-! ## Sending -/

mutual

/-- Whether everything in a value that is no collection has a property. -/
def consistsOf (p : Value → Bool) : Value → Bool
  | .list items => itemsConsistOf p items
  | .pair first second => consistsOf p first && consistsOf p second
  | .set items => itemsConsistOf p items
  | .mapping entries => entriesConsistOf p entries
  | .marked _ v => consistsOf p v
  | v => p v

/-- The same for the items of a list. -/
def itemsConsistOf (p : Value → Bool) : List Value → Bool
  | [] => true
  | item :: rest => consistsOf p item && itemsConsistOf p rest

/-- The same for the keys and values of a mapping. -/
def entriesConsistOf (p : Value → Bool) : List (Value × Value) → Bool
  | [] => true
  | entry :: rest => entryConsistsOf p entry && entriesConsistOf p rest

/-- The same for one entry of a mapping. -/
def entryConsistsOf (p : Value → Bool) : Value × Value → Bool
  | (key, v) => consistsOf p key && consistsOf p v

end

/-- Whether a value is not a number or a finite one. -/
def isFinite : Value → Bool
  | .float (.finite ..) => true
  | .float _ => false
  | _ => true

/-- Whether a value is not a text or a well-formed one. -/
def isWellFormed : Value → Bool
  | .illFormed _ => false
  | _ => true

/-- An answer, if it can be sent. It is written before it is encoded. -/
def Answer.send (answer : Answer) : Except Fault Answer :=
  if !consistsOf isFinite answer.body then .error (.misuse .notFinite)
  else if !consistsOf isWellFormed answer.body then .error (.misuse .noEncoding)
  else .ok answer

/-! ## Answering -/

/-- The place of the whole body. -/
def bodyPlace : Place :=
  [.key "body"]

/-- A text without the mark of its byte order, if it begins with one. -/
def dropByteOrderMark (s : List Char) : List Char :=
  match s with
  | c :: rest => if c.toNat = 0xfeff then rest else s
  | [] => []

/-- The schema in the text of a body, or the answer that refuses it. -/
def readBody (body : String) : Except Answer Schema :=
  if body.isEmpty then .error (.invalid [{ complaint := .missing, place := bodyPlace, value := .null }])
  else match Json.read (dropByteOrderMark body.toList) with
    | .error .malformed => .error (.invalid [{ complaint := .notJson, place := bodyPlace, value := .mapping [] }])
    | .error .tooManyDigits | .error .tooDeep => .error .unreadable
    | .ok v =>
        match checkBody bodyPlace v with
        | .valid schema => .ok schema
        | .invalid findings => .error (.invalid findings)

/-- The answer to the request for the modules of a schema. A misuse of a value leaves it as a fault. -/
def generate (schema : Schema) : Run Answer :=
  let run := schema.generate ResourceNaming.derive
  match run.outcome with
  | .ok modules => { events := run.events, outcome := (Answer.generated modules).send }
  | .error (.defect d) =>
      { events := run.events ++ [.rejected d.message], outcome := (Answer.rejected [d]).send }
  | .error (.batch ds) =>
      { events := run.events ++ [.rejected (Defect.batchMessage ds)], outcome := (Answer.rejected ds).send }
  | .error (.misuse m) => { events := run.events, outcome := .error (.misuse m) }

/-- The answer to a request. -/
def respond (r : Request) : Run Answer :=
  match r.endpoint? with
  | none => Run.result .notFound
  | some endpoint =>
      if !r.hasMethodOf endpoint then Run.result .methodNotAllowed
      else match endpoint with
        | .health => Run.result .healthy
        | .generate =>
            match readBody r.body with
            | .error answer => Run.ofExcept answer.send
            | .ok schema => generate schema

/-- What the server reports from its start to its end. -/
def lifetime (settings : Settings) : List Event :=
  [.starting settings.appEnv, .stopping]

end ResourceScaffold.Http
