import ScanService.Execution.Backend
import ScanService.Execution.Image
import ScanService.Http.Exchange
import ScanService.Json.Read

/-!
# Docker as the execution backend

`Docker.answer` answers the calls of an execution backend by exchanges with a Docker daemon.  A unit is
a container that runs its command in a shell on a terminal, so that its log is what it printed.

A daemon refuses with a status and a message; an image that is not there and a unit that has been
started already are no failures.
-/

namespace ScanService
namespace Execution

open Http (Address Method Request Response Loss)

/-- A daemon, by the URL under which it is reached. -/
structure Docker where
  /-- The URL, without slashes at its end. -/
  base : String
  deriving DecidableEq, Repr

/-- Calls to a daemon that may fail. -/
abbrev Dialogue (α : Type) : Type := ExceptT BackendError (Program Http.exchange) α

/-! ## What a daemon sends -/

/-- The answer to the creation of a container. -/
structure CreatedContainer where
  /-- Its identifier. -/
  id : String

instance : FromJson CreatedContainer where
  read? levels d := do
    let r ← Record.ofDocument? [⟨"Id", []⟩] levels d
    return { id := ← r.required "Id" }

/-- Why a container ended in a way it should not. -/
structure ContainerFault where
  /-- What the daemon says about it. -/
  message : Option String

instance : FromJson ContainerFault where
  read? levels d := do
    let r ← Record.ofDocument? [⟨"Message", []⟩] levels d
    return { message := ← r.optional "Message" }

/-- The answer when a container has ended. -/
structure EndedContainer where
  /-- The status its command ended with; scan tools end with one of their own when they find
  something. -/
  statusCode : Int64
  /-- What went wrong with the container itself. -/
  error : Option ContainerFault

instance : FromJson EndedContainer where
  read? levels d := do
    let r ← Record.ofDocument? [⟨"StatusCode", []⟩, ⟨"Error", []⟩] levels d
    return { statusCode := ← r.required "StatusCode", error := ← r.optional "Error" }

/-- What a daemon says when it refuses. -/
structure DaemonMessage where
  /-- The message. -/
  message : String

instance : FromJson DaemonMessage where
  read? levels d := do
    let r ← Record.ofDocument? [⟨"message", []⟩] levels d
    return { message := ← r.required "message" }

namespace Docker

/-- The daemon under a URL. -/
def ofUrl (url : String) : Docker :=
  ⟨String.ofList ((url.toList.reverse.dropWhile (· == '/')).reverse)⟩

/-- The label of containers that names the analysis they belong to. -/
def ridLabel : String := "scanforge.rid"

/-- What a container is created from. -/
def containerPayload (ctx : UnitContext) (image command : String) : Json :=
  .object
    [("Image", .text image), ("Tty", .bool true),
      ("Cmd", .array [.text "/bin/sh", .text "-c", .text (renderCommand ctx command)]),
      ("Labels", .object [(ridLabel, .text ctx.rid.text)])]

/-- What a loss means where nothing is waited for. -/
def lossError : Loss → BackendError
  | .late => .request .slowConnection
  | .failed fault => .request fault

/-- What a loss means where a unit is waited for. -/
def waitError (timeout : Duration) : Loss → BackendError
  | .late => .timeout timeout
  | .failed fault => .request fault

/-- Sends a request. -/
def send (d : Docker) (onLoss : Loss → BackendError) (method : Method) (path : String)
    (body : Option Json) (timeout : Option Duration) : Dialogue Response :=
  ExceptT.mk (match Address.parse? (d.base ++ path).toList with
    | none => .done (.error (.request .address))
    | some address =>
      .ask (I := Http.exchange) ⟨method, address, body, timeout⟩ fun r =>
        .done (r.mapError onLoss))

/-- Sends a request that need not be answered in time. -/
def ask (d : Docker) (method : Method) (path : String) (body : Option Json) : Dialogue Response :=
  d.send lossError method path body none

/-- What a daemon says in a body: its message, or else the body itself. -/
def refusalMessage (body : String) : String :=
  match (FromJson.ofText? body : Option DaemonMessage) with
  | some m => m.message
  | none => body

/-- Fails with what a response refuses. -/
def check (r : Response) : Except BackendError Response :=
  if r.isSuccess then .ok r
  else
    let body := match r.text with
      | .ok body => body
      | .error _ => ""
    .error (.api r.status (refusalMessage body))

/-- Reads the body of a response. -/
def readBody {α : Type} [FromJson α] (onLoss : Loss → BackendError) (r : Response) :
    Except BackendError α :=
  match r.body with
  | .error loss => .error (onLoss loss)
  | .ok body =>
    match (FromJson.ofText? body : Option α) with
    | some a => .ok a
    | none => .error (.request .answer)

/-- Whether an image is there. -/
def imageIsLoaded (d : Docker) (image : String) : Dialogue Bool := do
  let r ← d.ask .get ("/images/" ++ image ++ "/json") none
  if r.status = 404 then return false
  let _ ← check r
  return true

/-- Asks for an image. -/
def pullImage (d : Docker) (image : String) : Dialogue Unit := do
  let (name, tag) := splitImage image
  let r ← d.ask .post ("/images/create?fromImage=" ++ name ++ "&tag=" ++ tag) none
  let _ ← check r
  return ()

/-- Creates a unit. -/
def createUnit (d : Docker) (ctx : UnitContext) (image command : String) : Dialogue String := do
  let r ← d.ask .post "/containers/create" (some (containerPayload ctx image command))
  let r ← check r
  let created : CreatedContainer ← readBody lossError r
  return created.id

/-- Starts a unit; status 304 says that it has been started. -/
def startUnit (d : Docker) (id : String) : Dialogue Unit := do
  let r ← d.ask .post ("/containers/" ++ id ++ "/start") none
  if r.status = 304 then return ()
  let _ ← check r
  return ()

/-- Waits for a unit. -/
def waitUnit (d : Docker) (id : String) (timeout : Duration) : Dialogue Unit := do
  let r ← d.send (waitError timeout) .post ("/containers/" ++ id ++ "/wait") none (some timeout)
  let r ← check r
  let ended : EndedContainer ← readBody (waitError timeout) r
  match ended.error.bind (·.message) with
  | some message => if message.isEmpty then return () else throw (.abnormal message)
  | none => return ()

/-- Reads what a unit has printed. -/
def readOutput (d : Docker) (id : String) : Dialogue String := do
  let r ← d.ask .get ("/containers/" ++ id ++ "/logs?stdout=true&stderr=true") none
  let r ← check r
  r.text.mapError lossError

/-- Asks whether the daemon is there. -/
def ping (d : Docker) : Dialogue Unit := do
  let r ← d.ask .get "/_ping" none
  let _ ← check r
  return ()

/-- Answers a call by exchanges with the daemon. -/
def answer (d : Docker) : (c : Call) → Program Http.exchange c.Answer
  | .imageIsLoaded image => (d.imageIsLoaded image).run
  | .pullImage image => (d.pullImage image).run
  | .createUnit ctx image command => (d.createUnit ctx image command).run
  | .startUnit id => (d.startUnit id).run
  | .waitUnit id timeout => (d.waitUnit id timeout).run
  | .readOutput id => (d.readOutput id).run
  | .ping => d.ping.run

end Docker
end Execution
end ScanService
