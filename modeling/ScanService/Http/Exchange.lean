import ScanService.Error
import ScanService.Http.Address
import ScanService.Json.Basic
import ScanService.Program

/-!
# Exchanges over the web

An exchange is a request and what comes of it: a response whose body may still fail to arrive, or no
response at all.
-/

namespace ScanService
namespace Http

/-- The methods of requests. -/
inductive Method where
  | get
  | post
  deriving DecidableEq, Repr

/-- The name of a method. -/
def Method.name : Method → String
  | get => "GET"
  | post => "POST"

/-- A request. -/
structure Request where
  /-- The method. -/
  method : Method
  /-- Where it goes. -/
  address : Address
  /-- The JSON value it carries, if any. -/
  body : Option Json
  /-- How long the response may take, body included. -/
  timeout : Option Duration

/-- Why something did not arrive. -/
inductive Loss where
  /-- It was not there in time. -/
  | late
  /-- It failed. -/
  | failed (fault : RequestFault)
  deriving DecidableEq, Repr

/-- A response. -/
structure Response where
  /-- Its status. -/
  status : Nat
  /-- Its body, if that arrived. -/
  body : Except Loss String

namespace Response

/-- Whether the request was successful. -/
def isSuccess (r : Response) : Bool := 200 ≤ r.status && r.status < 300

/-- The text of a body: without the mark that may stand in front of it. -/
def text (r : Response) : Except Loss String :=
  r.body.map fun s =>
    match s.toList with
    | '\ufeff' :: rest => String.ofList rest
    | _ => s

end Response

/-- Exchanges as questions. -/
def exchange : Interface := ⟨Request, fun _ => Except Loss Response⟩

end Http
end ScanService
