import ScanService.Duration

/-!
# What can go wrong

`ServiceError` is what an operation of the service fails with, `BackendError` what a call to the
execution backend fails with, and `DatabaseError` what the database reports.  Each has one text.

A backend error becomes a service error where a job records it: a timeout stays one, and everything
else is a failure of the environment.
-/

namespace ScanService

/-- What the database fails with. -/
inductive DatabaseError where
  /-- A row that had to be there was not. -/
  | rowNotFound
  /-- The pool of connections is closed. -/
  | poolClosed
  /-- No connection came free in time. -/
  | poolTimedOut
  /-- The server sent something that is not understood. -/
  | protocol (message : String)
  /-- The rows lack a column. -/
  | columnNotFound (name : String)
  /-- The server itself refused a statement, with the code of its reason. -/
  | reported (code message : String)
  /-- A row does not have the shape of its record. -/
  | undecodable
  deriving DecidableEq, Repr

namespace DatabaseError

/-- The text of a database error. -/
def message : DatabaseError → String
  | rowNotFound => "no rows returned by a query that expected to return at least one row"
  | poolClosed => "attempted to acquire a connection on a closed pool"
  | poolTimedOut => "pool timed out while waiting for an open connection"
  | protocol m => "encountered unexpected or invalid data: " ++ m
  | columnNotFound name => "no column found for name: " ++ name
  | reported _ m => "error returned from database: " ++ m
  | undecodable => "error occurred while decoding a column"

end DatabaseError

/-- What an operation of the service fails with. -/
inductive ServiceError where
  | notFound (what : String)
  | validation (report : String)
  | conflict (what : String)
  | environment (what : String)
  | timeout (what : String)
  | parse (what : String)
  | unknownTool (name : String)
  | database (error : DatabaseError)
  | persistence (what : String)
  deriving DecidableEq, Repr

namespace ServiceError

/-- What an error says beyond its kind. -/
def detail : ServiceError → String
  | notFound m | validation m | conflict m | environment m | timeout m | parse m | persistence m =>
    m
  | unknownTool name => "No parser registered for security test '" ++ name ++ "'"
  | database e => e.message

/-- The text of an error. -/
def message (e : ServiceError) : String :=
  match e with
  | notFound m => "Not found: " ++ m
  | validation m => "Validation error: " ++ m
  | conflict m => "Conflict: " ++ m
  | environment m => "Execution environment failure: " ++ m
  | timeout m => "Timed out: " ++ m
  | parse m => "Unparseable tool output: " ++ m
  | unknownTool _ => e.detail
  | database d => "Database error: " ++ d.message
  | persistence m => "Persistence error: " ++ m

/-- Whether something was not there. -/
def isNotFound : ServiceError → Bool
  | notFound _ => true
  | _ => false

/-- Whether something was there already. -/
def isConflict : ServiceError → Bool
  | conflict _ => true
  | _ => false

end ServiceError

/-- Why a request never got an answer that is understood. -/
inductive RequestFault where
  /-- There is no such address. -/
  | address
  /-- The connection failed. -/
  | connection
  /-- No connection came about in time. -/
  | slowConnection
  /-- The answer was cut short, or is not what was asked for. -/
  | answer
  deriving DecidableEq, Repr

namespace RequestFault

/-- The text of a fault. -/
def message : RequestFault → String
  | address => "builder error"
  | connection | slowConnection => "error sending request"
  | answer => "error decoding response body"

end RequestFault

/-- What a call to the execution backend fails with. -/
inductive BackendError where
  /-- The request got no proper answer. -/
  | request (fault : RequestFault)
  /-- The backend refused the call. -/
  | api (status : Nat) (message : String)
  /-- The unit did not end in time. -/
  | timeout (after : Duration)
  /-- The unit did not end as it should. -/
  | abnormal (message : String)
  deriving DecidableEq, Repr

namespace BackendError

/-- The text of a backend error. -/
def message : BackendError → String
  | request fault => "Request to execution backend failed: " ++ fault.message
  | api status m => "Execution backend returned " ++ Text.decimalText status ++ ": " ++ m
  | timeout after => "Execution timed out after " ++ after.text
  | abnormal m => "Unit terminated abnormally: " ++ m

/-- Whether another attempt may help: not after a timeout, nor after a refusal. -/
def isTransient : BackendError → Bool
  | request fault => fault ≠ .slowConnection
  | api status _ => 500 ≤ status
  | timeout _ | abnormal _ => false

/-- The service error that a job records. -/
def toServiceError : BackendError → ServiceError
  | timeout after => .timeout ("unit still running after " ++ after.text)
  | e => .environment e.message

end BackendError

end ScanService
