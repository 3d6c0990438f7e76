import SearchBox.Json.Decoding
import SearchBox.Service.Answer
import SearchBox.Service.Target
import SearchBox.Settings
import SearchBox.Text.Case

/-!
This module contains the service over HTTP. A session goes through requests and through changes of
what the requests see: the environment, the settings that are kept from one request to the next, and
settings that are given in place of those.
-/

namespace SearchBox.Http

/--
The reason for which a body cannot be decoded.
-/
inductive Undecodable where
  /--
  The text is not JSON. The reason for that shows at a place in it.
  -/
  | malformed (position : Nat) (reason : String)
  /--
  The bytes are no text, or there is too long a number in the text or too deep a nesting.
  -/
  | unreadable
  deriving DecidableEq, Repr

/--
The body of a request, which is sent as JSON: the value that is written there, or the reason for
which there is none. What is not a number counts as an infinite one.
-/
inductive Body where
  | missing
  | json (written : Json)
  | faulty (reason : Undecodable)

instance : Coe (Option Json) Body where
  coe body := body.elim .missing .json

def Body.decode : Body → Except Undecodable (Option Json)
  | .missing => .ok none
  | .json written =>
    match written.decode? with
    | some value => .ok (some value)
    | none => .error .unreadable
  | .faulty reason => .error reason

structure Request where
  method : String
  target : Target
  body : Body := .missing

def Request.verb (request : Request) : String :=
  Text.upper request.method

structure Response where
  status : Nat
  body : Json

inductive Endpoint where
  | health
  | parse
  | operators
  deriving DecidableEq, Repr

def Endpoint.path : Endpoint → String
  | .health => "/health"
  | .parse => "/parse"
  | .operators => "/operators"

def Endpoint.method : Endpoint → String
  | .health => "GET"
  | .parse => "POST"
  | .operators => "POST"

/--
The part of a path that names an endpoint. Slashes at the end of a path do not count, nor does a
single line break before them.
-/
def endpointPath (path : List Char) : List Char :=
  match path.reverse.dropWhile (· == '/') with
  | '\n' :: cs => cs.reverse
  | cs => cs.reverse

def Endpoint.ofTarget? (target : Target) : Option Endpoint :=
  let path := String.ofList (endpointPath target.path.toList)
  [Endpoint.health, .parse, .operators].find? (fun endpoint => endpoint.path == path)

structure BodyFault where
  field : Option String
  fault : Fault
  input : Json

def BodyFault.toJson (fault : BodyFault) : Json :=
  .object [("type", .string fault.fault.code),
    ("loc", .array (.string "body" :: fault.field.toList.map .string)),
    ("msg", .string fault.fault.message),
    ("input", fault.input)]

def Response.ok (body : Json) : Response :=
  ⟨200, body⟩

def Response.notFound : Response :=
  ⟨404, .object [("detail", .string "Not Found")]⟩

def Response.methodNotAllowed : Response :=
  ⟨405, .object [("detail", .string "Method Not Allowed")]⟩

def Response.serverError : Response :=
  ⟨500, .string "Internal Server Error"⟩

/--
The answer to a body with faults. It shows what is at fault, unless that cannot be written.
-/
def Response.unprocessable (faults : List BodyFault) : Response :=
  if faults.all (·.input.isWritable) then
    ⟨422, .object [("detail", .array (faults.map BodyFault.toJson))]⟩
  else
    .serverError

def Response.undecodable : Undecodable → Response
  | .malformed position reason =>
    ⟨422, .object [("detail", .array [.object [("type", .string "json_invalid"),
      ("loc", .array [.string "body", .ofNat position]),
      ("msg", .string "JSON decode error"),
      ("input", .object []),
      ("ctx", .object [("error", .string reason)])]])]⟩
  | .unreadable => ⟨400, .object [("detail", .string "There was an error parsing the body")]⟩

/--
Check a body: it has to be an object, and `read` has to find what it needs among the members.
-/
def checkBody {α : Type} (read : List (String × Json) → Checked α)
    : Option Json → Except (List BodyFault) α
  | none => .error [⟨none, .missing, .null⟩]
  | some .null => .error [⟨none, .missing, .null⟩]
  | some (.object members) =>
    (read members).mapError (List.map (fun fault => ⟨some fault.field, fault.fault, fault.input⟩))
  | some body => .error [⟨none, .notObject, body⟩]

def respond {α : Type} (read : List (String × Json) → Checked α) (answer : α → Json)
    (body : Option Json) : Response :=
  match checkBody read body with
  | .ok value => .ok (answer value)
  | .error faults => .unprocessable faults

def readQuery (members : List (String × Json)) : Checked String :=
  Checked.ofField? "query" Json.readString "" (Json.member? members "query")

def readMode (members : List (String × Json)) (field : String) : Checked (Option Bool) :=
  Checked.ofField? field (Json.readNullable Json.readBool) none (Json.member? members field)

def readQueryModes (members : List (String × Json)) : Checked (String × Modes) :=
  .map₂ Prod.mk (readQuery members)
    (.map₂ Modes.mk (readMode members "match_case") (readMode members "match_whole_word"))

structure Session where
  environment : Environment := []
  /--
  The settings that an earlier request loaded.
  -/
  kept : Option Settings := none
  /--
  The values that are given in place of the kept settings.
  -/
  override : Option (List (String × Json)) := none

/--
The settings for a request, if they are valid, and the session after it.
-/
def Session.settings (session : Session) : Session × Option Settings :=
  match session.override with
  -- with an override the settings are loaded anew and not kept
  | some given => (session, (Settings.load session.environment given).toOption)
  | none =>
    match session.kept with
    | some settings => (session, some settings)
    | none =>
      let loaded := (Settings.load session.environment []).toOption
      ({ session with kept := loaded }, loaded)

/--
The answer of an endpoint. The body is decoded before anything else is looked at.
-/
def Session.serve (session : Session) (endpoint : Endpoint) (body : Body) : Session × Response :=
  match endpoint, body.decode with
  | .health, _ => (session, .ok (.object [("status", .string "ok")]))
  | _, .error reason => (session, .undecodable reason)
  | .parse, .ok body => (session, Http.respond readQuery Answer.filters body)
  | .operators, .ok body =>
    -- only this endpoint needs the settings, and it needs them before the body is checked
    match session.settings with
    | (session, none) => (session, .serverError)
    | (session, some settings) =>
      let answer := fun (query, modes) => Answer.operators (settings.optionsFor modes) query
      (session, Http.respond readQueryModes answer body)

def Session.handle (session : Session) (request : Request) : Session × Response :=
  match Endpoint.ofTarget? request.target with
  | none => (session, .notFound)
  | some endpoint =>
    if request.verb != endpoint.method then
      (session, .methodNotAllowed)
    else
      session.serve endpoint request.body

def Session.respond (session : Session) (request : Request) : Session × Response :=
  let (session, response) := session.handle request
  -- the answer to a request for the head of a response has no body
  (session,
    if request.verb == "HEAD" then { response with body := .string "" } else response)

inductive Step where
  | setEnvironment (environment : Environment)
  | forget
  | setOverride (given : Option (List (String × Json)))
  | request (request : Request)

def Session.step (session : Session) : Step → Session × Option Response
  | .setEnvironment environment => ({ session with environment }, none)
  | .forget => ({ session with kept := none }, none)
  | .setOverride override => ({ session with override }, none)
  | .request request =>
    let (session, response) := session.respond request
    (session, some response)

def Session.run (session : Session) : List Step → List (Option Response)
  | [] => []
  | step :: steps =>
    let (session, response) := session.step step
    response :: session.run steps

end SearchBox.Http
