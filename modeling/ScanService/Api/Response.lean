import ScanService.Error
import ScanService.Json.Read

/-!
# Responses

Every JSON answer of the service is an envelope with two members, `data` and `error`, one of which is
`null`.  Each service error has a status, a code, and a message that may go to the client; what went
wrong inside the service stays inside.
-/

namespace ScanService
namespace Api

/-- The body of a response. -/
inductive Body where
  /-- A JSON value. -/
  | json (v : Json)
  /-- A plain text. -/
  | text (s : String)
  /-- A text of the framework that explains why it refused the request. -/
  | refusal

/-- A response. -/
structure Response where
  /-- Its status. -/
  status : Nat
  /-- Its body. -/
  body : Body

namespace Response

/-- The envelope of some data. -/
def dataEnvelope (data : Json) : Json := .object [("data", data), ("error", .null)]

/-- The envelope of an error. -/
def errorEnvelope (code message : String) : Json :=
  .object
    [("data", .null), ("error", .object [("code", .text code), ("message", .text message)])]

/-- A response with data. -/
def success {α : Type} [ToJson α] (status : Nat) (data : α) : Response :=
  ⟨status, .json (dataEnvelope (toJson data))⟩

/-- The status and the code of a service error, and what its client is told. -/
def describe : ServiceError → Nat × String × String
  | .notFound m => (404, "NOT_FOUND", m)
  | .validation m => (400, "VALIDATION_ERROR", m)
  | .conflict m => (409, "CONFLICT", m)
  | .environment _ => (502, "ENVIRONMENT_FAILURE", "The execution backend is unavailable")
  | .timeout m => (504, "TIMEOUT", m)
  | .parse m => (422, "PARSE_FAILURE", m)
  | .unknownTool name => (422, "UNKNOWN_TOOL", (ServiceError.unknownTool name).detail)
  | .database _ | .persistence _ => (500, "INTERNAL_ERROR", "An internal error occurred")

/-- The response that a service error makes. -/
def ofError (e : ServiceError) : Response :=
  let (status, code, message) := describe e
  ⟨status, .json (errorEnvelope code message)⟩

end Response
end Api
end ScanService
