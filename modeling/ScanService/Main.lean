import ScanService.Service.Startup
import ScanService.Store.Memory

/-!
# The command line

Goes through the start of the service with a store in memory and without an execution backend, which
tells whether a configuration is one that the service starts with.  What is noted on the way goes to
the standard output, a JSON object a line; an error that ends the start goes to the standard error.
-/

namespace ScanService
namespace Rehearse

open Service (Call Notice Variable)

/-- The time of day of a start, which nothing in it asks for. -/
def timeOfDay : Timestamp := .unixEpoch

/-- Answers the questions of a start. -/
def attend : (c : Call) → Store.Memory → c.Answer × Store.Memory
  | .store c, m => m.answer c
  | .backend _, m => (.error (.request .connection), m)
  | .readClock, m => (timeOfDay, m)
  | .readTimer, m => (⟨0⟩, m)
  | .drawRid, m => (Uuid.zero, m)
  | .sleep _, m | .launch _ _, m | .enterGate, m | .leaveGate, m => ((), m)

/-- The line of a notice. -/
def line (n : Notice) : String :=
  let (key, value) := n.subject
  (Json.object
    [("level", .text n.level.name), ("message", .text n.message), (key, value)]).toText

/-- The variables of the environment. -/
def readVariables : List String → IO (List (String × Variable))
  | [] => return []
  | name :: rest => do
    let value ← IO.getEnv name
    let more ← readVariables rest
    return (name, value.elim .unset .text) :: more

end Rehearse
end ScanService

open ScanService in
/-- Rehearses a start in the environment of the process. -/
def main : IO UInt32 := do
  let values ← Rehearse.readVariables Service.Config.variableNames
  let env (name : String) : Service.Variable := (values.lookup name).getD .unset
  let (startup, _) :=
    Program.run (I := Service.activity) Rehearse.attend (Service.start env) Store.Memory.empty
  for notice in startup.notices do
    IO.println (Rehearse.line notice)
  match startup.outcome with
  | .ok _ => return 0
  | .error e =>
    IO.eprintln ("Error: " ++ e.message)
    return 1
