import ScanService.Api.Form
import ScanService.Api.MediaType
import ScanService.Api.Response
import ScanService.Service.Admission
import ScanService.Service.Registration
import ScanService.Text.Percent

/-!
# Requests and what they are answered

`Route.ofPath?` finds the route of a path, and `respond` answers a request: it refuses those that no
route takes, whose method a route does not know, or whose form cannot be read, and else does what the
route is for.
-/

namespace ScanService
namespace Api

open Service (Action)

/-- A request. -/
structure Request where
  /-- The method. -/
  method : String
  /-- The path, and the query behind it. -/
  target : String
  /-- The media type of the body, if it has one. -/
  contentType : Option String
  /-- The body. -/
  body : String

/-- What the service calls the parts it is made of. -/
structure Parts where
  /-- The name of the store. -/
  store : String
  /-- The name of the execution backend. -/
  backend : String

/-- The name of the service. -/
def serviceName : String := "scanforge"

/-- The version of the service. -/
def serviceVersion : String := "0.1.0"

/-- What a request can be for. -/
inductive Route where
  /-- Whether the service is alive. -/
  | live
  /-- Whether the service is ready. -/
  | ready
  /-- Which version the service is of. -/
  | version
  /-- Starting an analysis. -/
  | analyses
  /-- Reading an analysis. -/
  | analysis (rid : List Char)
  /-- Registering a repository. -/
  | repositories
  /-- Registering a security test. -/
  | securityTests
  deriving DecidableEq, Repr

namespace Route

/-- The path of a target: what stands in front of the query. -/
def pathOf (target : String) : List Char :=
  target.toList.takeWhile fun c => c != '?' && c != '#'

/-- What follows a word in a text that begins with it. -/
def after? (word : String) (s : List Char) : Option (List Char) :=
  if word.toList.isPrefixOf s then some (s.drop word.length) else none

/-- The route of a path. -/
def ofPath? (path : List Char) : Option Route :=
  if path = "/health/live".toList then some .live
  else if path = "/health/ready".toList then some .ready
  else if path = "/version".toList then some .version
  else if path = "/analysis".toList then some .analyses
  else if path = "/repository".toList then some .repositories
  else if path = "/securitytest".toList then some .securityTests
  else
    match after? "/analysis/" path with
    | some rid => if rid ≠ [] ∧ '/' ∉ rid then some (.analysis rid) else none
    | none => none

/-- The method of a route. -/
def method : Route → String
  | live | ready | version | analysis _ => "GET"
  | analyses | repositories | securityTests => "POST"

/-- Whether a route takes a method; what can be read takes `HEAD` too. -/
def takes (route : Route) (method : String) : Bool :=
  method == route.method || (method == "HEAD" && route.method == "GET")

end Route

namespace Response

/-- A refusal. -/
def refuse (status : Nat) : Response := ⟨status, .refusal⟩

/-- The same answer without its body. -/
def withoutBody (r : Response) : Response :=
  ⟨r.status, if 200 ≤ r.status ∧ r.status < 300 then .text "" else .refusal⟩

end Response

/-- Answers with what an action gives, or with its error. -/
def answerWith {α : Type} [ToJson α] (status : Nat) (action : Action α) : Service.Task Response :=
  action.run.bind fun
    | .ok a => .done (Response.success status a)
    | .error e => .done (Response.ofError e)

/-- Reads the form of a request: its body has to be JSON. -/
def readForm {α : Type} [Form α] (r : Request) : Except Response α :=
  if (r.contentType.bind fun t => MediaType.parse? t.toList).any MediaType.isJson then
    match (Form.read r.body : Except Json.Fault α) with
    | .ok form => .ok form
    | .error .syntaxError => .error (.refuse 400)
    | .error .data => .error (.refuse 422)
  else .error (.refuse 415)

/-- Answers a request that carries a form. -/
def withForm {α : Type} [Form α] (r : Request) (next : α → Service.Task Response) : Service.Task Response :=
  match (readForm r : Except Response α) with
  | .ok form => next form
  | .error refusal => .done refusal

/-- How a part of the service is, in words. -/
def condition (name : String) : Except String Unit → String
  | .ok _ => name ++ ": connected"
  | .error message => "error: " ++ message

/-- Asks the store and the backend whether they are there. -/
def checkReady (parts : Parts) : Service.Task Response := do
  let store : Except ServiceError Unit ← Service.Task.store .ping
  let backend : Except BackendError Unit ← Service.Task.backend .ping
  return Response.success 200 (Json.object
    [("status", .text "ok"),
      ("store", .text (condition parts.store (store.mapError (·.message)))),
      ("execution_backend", .text (condition parts.backend (backend.mapError (·.message))))])

/-- Starts an analysis. -/
def startAnalysis (form : AnalysisForm) : Action Json := do
  let url := Text.trim form.url
  if url.isEmpty then throw (.validation "repositoryURL is required")
  let rid ← Service.admitAnalysis url
  return .object [("RID", toJson rid)]

/-- Does what a route is for. -/
def follow (parts : Parts) (r : Request) : Route → Service.Task Response
  | .live => .done ⟨200, .text "OK"⟩
  | .ready => checkReady parts
  | .version =>
    .done (Response.success 200 (Json.object
      [("name", .text serviceName), ("version", .text serviceVersion)]))
  | .analyses => withForm r fun form => answerWith 201 (startAnalysis form)
  | .analysis rid =>
    match Uuid.parse? (Text.percentDecode rid) with
    | some rid => answerWith 200 (Service.status rid)
    | none => .done (.refuse 400)
  | .repositories => withForm r fun form => answerWith 201 (Service.registerRepository form)
  | .securityTests => withForm r fun form => answerWith 201 (Service.registerSecurityTest form)

/-- Answers a request. -/
def respond (parts : Parts) (r : Request) : Service.Task Response :=
  match Route.ofPath? (Route.pathOf r.target) with
  | none => .done (.refuse 404)
  | some route =>
    if route.takes r.method then
      if r.method = "HEAD" then (follow parts r route).bind fun a => .done a.withoutBody
      else follow parts r route
    else .done (.refuse 405)

end Api
end ScanService
