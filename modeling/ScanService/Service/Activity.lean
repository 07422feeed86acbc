import ScanService.Execution.Backend
import ScanService.Store.Call

/-!
# What the service's tasks ask

A task of the service is a program over `activity`: it asks the store and the execution backend,
reads clocks, sleeps, draws identifiers, launches runs of security tests as tasks of their own, and
passes the gate that lets in one admission at a time.
-/

namespace ScanService
namespace Service

open Execution (UnitContext)

/-- A question of a task. -/
inductive Call where
  /-- Asks the store. -/
  | store (c : Store.Call)
  /-- Asks the execution backend. -/
  | backend (c : Execution.Call)
  /-- The time of day. -/
  | readClock
  /-- The time since the service was started. -/
  | readTimer
  /-- Sleeps. -/
  | sleep (d : Duration)
  /-- Draws a fresh identifier. -/
  | drawRid
  /-- Launches a run of a test as a task of its own. -/
  | launch (ctx : UnitContext) (test : SecurityTest)
  /-- Passes the gate of admission, once nobody else is behind it. -/
  | enterGate
  /-- Leaves the gate to others. -/
  | leaveGate

namespace Call

/-- The answer to a question. -/
@[reducible]
def Answer : Call → Type
  | store c => c.Answer
  | backend c => c.Answer
  | readClock => Timestamp
  | readTimer => Duration
  | drawRid => Uuid
  | _ => Unit

end Call

/-- The questions of the service's tasks. -/
abbrev activity : Interface := ⟨Call, Call.Answer⟩

/-- A task of the service. -/
abbrev Task (α : Type) : Type := Program activity α

/-- A task that may fail. -/
abbrev Action (α : Type) : Type := ExceptT ServiceError (Program activity) α

namespace Task

/-- Asks the store. -/
def store (c : Store.Call) : Task c.Answer := Program.call (I := activity) (.store c)

/-- Asks the execution backend. -/
def backend (c : Execution.Call) : Task c.Answer := Program.call (I := activity) (.backend c)

/-- Reads the time of day. -/
def readClock : Task Timestamp := Program.call (I := activity) .readClock

/-- Reads the time since the service was started. -/
def readTimer : Task Duration := Program.call (I := activity) .readTimer

/-- Sleeps. -/
def sleep (d : Duration) : Task Unit := Program.call (I := activity) (.sleep d)

/-- Draws a fresh identifier. -/
def drawRid : Task Uuid := Program.call (I := activity) .drawRid

/-- Launches a run of a test. -/
def launch (ctx : UnitContext) (test : SecurityTest) : Task Unit :=
  Program.call (I := activity) (.launch ctx test)

/-- Runs a task behind the gate of admission. -/
def gated {α : Type} (t : Task α) : Task α :=
  .ask (I := activity) .enterGate fun _ =>
    t.bind fun a => .ask (I := activity) .leaveGate fun _ => .done a

end Task

namespace Action

/-- Asks the store, and fails as it does. -/
def store (c : Store.Call) : Action c.Result := ExceptT.mk (Task.store c)

/-- A task that does not fail. -/
def ofTask {α : Type} (t : Task α) : Action α := ExceptT.lift t

/-- Runs an action for each element of a list, in order, until one fails. -/
def forEach {α : Type} (f : α → Action Unit) : List α → Action Unit
  | [] => pure ()
  | a :: rest => do
    f a
    forEach f rest

end Action
end Service
end ScanService
