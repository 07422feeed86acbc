import ScanService.Execution.Rehearsal
import ScanService.Service.Retry
import ScanService.Service.Runner
import ScanService.Store.Faulty

/-!
# The service in simulated time

A `Simulation` runs tasks of the service against a store in memory and a backend on script, in time
that passes only while all tasks sleep.  One task runs at a time, until it sleeps or ends; tasks that
are launched queue behind those that are ready, and of tasks that wake at the same instant the one
that fell asleep first goes on first.

* `World.answer` answers one question of a task.
* `World.proceed` runs a task until it ends, sleeps, or waits at the gate.
* `Simulation.perform` runs a task of the foreground to its end, and others as far as that takes.
* `Simulation.advance` lets time pass for all.

The number of turns that tasks may take is limited by an argument, for nothing else tells how many
tasks the tasks may launch.
-/

namespace ScanService
namespace Service

open Execution (UnitContext Rehearsal)

/-- What the tasks of a simulation share. -/
structure World where
  /-- The store. -/
  store : Store.Faulty
  /-- The backend. -/
  backend : Rehearsal
  /-- The time since the start. -/
  clock : Duration
  /-- The time of day, which a simulation does not move. -/
  timeOfDay : Timestamp
  /-- The number of identifiers drawn. -/
  drawn : Nat
  /-- Whether somebody is behind the gate of admission. -/
  gateTaken : Bool
  /-- The calls to the backend and their times, latest first. -/
  log : List (Duration × Execution.Call)
  /-- Runs launched and not yet queued, latest first. -/
  launched : List (UnitContext × SecurityTest)

/-- A reply to a question. -/
inductive Reply (α : Type) where
  /-- An answer. -/
  | now (answer : α)
  /-- An answer that takes time. -/
  | after (d : Duration) (answer : α)
  /-- The question has to be asked again when the gate is free. -/
  | later

/-- The identifier drawn after so many others. -/
def freshRid (n : Nat) : Uuid := .ofNat (0x6b0de1f3c52a4e7d9a41f08c00000000 + n)

namespace World

/-- The reply to a question, and the world after it. -/
def answer : (c : Call) → World → Reply c.Answer × World
  | .store c, w =>
    let (r, s) := w.store.answer c
    (.now r, { w with store := s })
  | .backend c, w =>
    let ((d, r), b) := w.backend.answer c
    (.after d r, { w with backend := b, log := (w.clock, c) :: w.log })
  | .readClock, w => (.now w.timeOfDay, w)
  | .readTimer, w => (.now w.clock, w)
  | .sleep d, w => (.after d (), w)
  | .drawRid, w => (.now (freshRid w.drawn), { w with drawn := w.drawn + 1 })
  | .launch ctx test, w => (.now (), { w with launched := (ctx, test) :: w.launched })
  | .enterGate, w => if w.gateTaken then (.later, w) else (.now (), { w with gateTaken := true })
  | .leaveGate, w => (.now (), { w with gateTaken := false })

/-- Where a task stands when it lets go. -/
inductive Stop (α : Type) where
  /-- At its end. -/
  | ended (value : α)
  /-- Asleep until an instant. -/
  | asleep (due : Duration) (rest : Task α)
  /-- In front of the gate. -/
  | atGate (rest : Task α)

/-- Runs a task until it lets go. -/
def proceed {α : Type} : Task α → World → Stop α × World
  | .done a, w => (.ended a, w)
  | .ask c next, w =>
    match w.answer c with
    | (.now r, w') => proceed (next r) w'
    | (.after d r, w') =>
      if d.nanos = 0 then proceed (next r) w' else (.asleep (w.clock + d) (next r), w')
    | (.later, w') => (.atGate (.ask c next), w')

end World

/-- A task on its way: one of the foreground, whose end is waited for, or one of the background. -/
inductive Strand (α : Type) where
  | foreground (t : Task α)
  | background (t : Task Unit)

namespace Strand

/-- The task of a strand of the background. -/
def background? {α : Type} : Strand α → Option (Task Unit)
  | background t => some t
  | foreground _ => none

end Strand

/-- Tasks in simulated time; `α` is what the foreground gives. -/
structure Simulation (α : Type) where
  /-- What the tasks share. -/
  world : World
  /-- How a launched run goes on. -/
  launch : UnitContext → SecurityTest → Task Unit
  /-- The strands that can go on, in order. -/
  ready : List (Strand α)
  /-- The strands that sleep and when they wake, in the order in which they fell asleep. -/
  sleeping : List (Duration × Strand α)
  /-- The strands in front of the gate, in order. -/
  atGate : List (Strand α)

namespace Simulation

variable {α β : Type}

/-- A simulation without tasks. -/
def start (world : World) (launch : UnitContext → SecurityTest → Task Unit) : Simulation α :=
  ⟨world, launch, [], [], []⟩

/-- Queues the runs launched, and the first strand in front of the gate if that is free. -/
def queueNew (s : Simulation α) : Simulation α :=
  let runs := s.world.launched.reverse.map fun (ctx, test) => Strand.background (s.launch ctx test)
  let (admitted, atGate) := if s.world.gateTaken then ([], s.atGate) else s.atGate.splitAt 1
  { s with
    world := { s.world with launched := [] }
    ready := s.ready ++ runs ++ admitted
    atGate := atGate }

/-- Lets one strand go on; gives what the foreground has ended with, if it has. -/
def turn (strand : Strand α) (s : Simulation α) : Option α × Simulation α :=
  match strand with
  | .foreground t =>
    match World.proceed t s.world with
    | (.ended a, w) => (some a, queueNew { s with world := w })
    | (.asleep due rest, w) =>
      (none, queueNew { s with world := w, sleeping := s.sleeping ++ [(due, .foreground rest)] })
    | (.atGate rest, w) =>
      (none, queueNew { s with world := w, atGate := s.atGate ++ [.foreground rest] })
  | .background t =>
    match World.proceed t s.world with
    | (.ended _, w) => (none, queueNew { s with world := w })
    | (.asleep due rest, w) =>
      (none, queueNew { s with world := w, sleeping := s.sleeping ++ [(due, .background rest)] })
    | (.atGate rest, w) =>
      (none, queueNew { s with world := w, atGate := s.atGate ++ [.background rest] })

/-- The instant at which the next sleeper wakes. -/
def nextDue? (s : Simulation α) : Option Duration :=
  match s.sleeping.map (·.1) with
  | [] => none
  | d :: ds => some (ds.foldl (fun a b => if b < a then b else a) d)

/-- Moves the clock to an instant and wakes the strands that are due. -/
def wake (due : Duration) (s : Simulation α) : Simulation α :=
  { s with
    world := { s.world with clock := due }
    ready := s.ready ++ (s.sleeping.filter fun e => e.1 ≤ due).map (·.2)
    sleeping := s.sleeping.filter fun e => !(e.1 ≤ due) }

/-- Lets strands take turns until the foreground has ended, or nothing is left to happen before a
limit. -/
def drive (limit : Option Duration) : Nat → Simulation α → Option α × Simulation α
  | 0, s => (none, s)
  | turns + 1, s =>
    match s.ready with
    | strand :: rest =>
      match turn strand { s with ready := rest } with
      | (some a, s') => (some a, s')
      | (none, s') => drive limit turns s'
    | [] =>
      match s.nextDue? with
      | none => (none, s)
      | some due =>
        if limit.all fun l => due ≤ l then drive limit turns (s.wake due) else (none, s)

/-- The simulation with its background alone. -/
def settle (s : Simulation α) : Simulation β :=
  { world := s.world
    launch := s.launch
    ready := s.ready.filterMap fun t => t.background?.map .background
    sleeping := s.sleeping.filterMap fun e => e.2.background?.map fun t => (e.1, .background t)
    atGate := s.atGate.filterMap fun t => t.background?.map .background }

/-- Adds a task of the background. -/
def spawn (t : Task Unit) (s : Simulation α) : Simulation α :=
  { s with ready := s.ready ++ [.background t] }

/-- Runs a task in the foreground, at once, to its end. -/
def perform (turns : Nat) (t : Task β) (s : Simulation α) : Option β × Simulation α :=
  let s' : Simulation β := s.settle
  let (result, s') := drive none turns { s' with ready := .foreground t :: s'.ready }
  (result, s'.settle)

/-- Lets everything happen that is due within a time, and moves the clock by it. -/
def advance (turns : Nat) (d : Duration) (s : Simulation α) : Simulation α :=
  let target := s.world.clock + d
  let (_, s') := drive (some target) turns s
  { s' with world := { s'.world with clock := target } }

/-- Takes the log of the calls to the backend. -/
def takeLog (s : Simulation α) : List (Duration × Execution.Call) × Simulation α :=
  (s.world.log.reverse, { s with world := { s.world with log := [] } })

end Simulation
end Service
end ScanService
