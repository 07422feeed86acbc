import ScanService.Http.Socket
import ScanService.Service.Config
import ScanService.Service.Defaults

/-!
# Starting the service

The service starts in steps: it reads its configuration, registers the built-in tests that are missing,
asks whether the execution backend is there, and finds the address at which it listens.  A backend that
is not there is only noted; every other step that fails ends the start.

`start` is that sequence as a task.  What it notes on its way is a list of notices, in order, whether
the start succeeds or not.
-/

namespace ScanService
namespace Service

/-- How much a notice matters. -/
inductive Level where
  | info
  | warn
  deriving DecidableEq, Repr

/-- The word for a level. -/
def Level.name : Level → String
  | info => "INFO"
  | warn => "WARN"

/-- What the service notes while it starts. -/
inductive Notice where
  /-- A built-in test was missing. -/
  | defaultRegistered (name : String)
  /-- All built-in tests are there; so many were missing. -/
  | defaultsChecked (registered : Nat)
  /-- The execution backend does not answer. -/
  | backendUnreachable (why : BackendError)
  /-- The service listens. -/
  | listening (address : Http.Socket)
  deriving DecidableEq

namespace Notice

/-- How much a notice matters. -/
def level : Notice → Level
  | defaultRegistered _ | backendUnreachable _ => .warn
  | defaultsChecked _ | listening _ => .info

/-- What a notice says. -/
def message : Notice → String
  | defaultRegistered _ => "Default security test missing, inserted"
  | defaultsChecked _ => "Default security tests checked"
  | backendUnreachable _ => "Execution backend not reachable at startup"
  | listening _ => "Starting scanforge API server"

/-- What a notice is about. -/
def subject : Notice → String × Json
  | defaultRegistered name => ("security_test", .text name)
  | defaultsChecked registered => ("inserted", toJson registered)
  | backendUnreachable why => ("error", .text why.message)
  | listening address => ("host", .text address.text)

end Notice

/-- Why the service does not start. -/
inductive StartupError where
  /-- There is no configuration. -/
  | unconfigured (why : ConfigError)
  /-- The built-in tests could not be registered. -/
  | failed (why : ServiceError)
  /-- There is no such address to listen at. -/
  | badAddress
  deriving DecidableEq, Repr

/-- The text of an error. -/
def StartupError.message : StartupError → String
  | unconfigured _ => "DATABASE_URL must be set"
  | failed why => why.message
  | badAddress => "Invalid BACKEND_HOST/BACKEND_PORT"

/-- What came of a start. -/
structure Startup where
  /-- What was noted, in order. -/
  notices : List Notice
  /-- The address at which the service listens, or why it does not. -/
  outcome : Except StartupError Http.Socket

namespace Startup

/-- A start that failed. -/
def failed (notices : List Notice) (e : StartupError) : Startup := ⟨notices, .error e⟩

end Startup

/-- The address that a configuration names. -/
def Config.socket? (c : Config) : Option Http.Socket :=
  Http.Socket.parse? (c.host.toList ++ ':' :: Text.decimal c.port)

/-- What is noted when built-in tests have been registered. -/
def Ensured.notices (e : Ensured) : List Notice :=
  e.registered.map .defaultRegistered
    ++ if e.failure.isNone then [.defaultsChecked e.registered.length] else []

/-- Starts the service under a configuration. -/
def startConfigured (c : Config) : Task Startup := do
  let ensured ← ensureTests builtinTests
  match ensured.failure with
  | some e => return .failed ensured.notices (.failed e)
  | none =>
    let answer : Except BackendError Unit ← Task.backend .ping
    let notices := ensured.notices ++ match answer with
      | .ok _ => []
      | .error e => [.backendUnreachable e]
    match c.socket? with
    | none => return .failed notices .badAddress
    | some address => return ⟨notices ++ [.listening address], .ok address⟩

/-- Starts the service in an environment. -/
def start (env : String → Variable) : Task Startup :=
  match Config.ofEnvironment env with
  | .error e => return .failed [] (.unconfigured e)
  | .ok c => startConfigured c

end Service
end ScanService
