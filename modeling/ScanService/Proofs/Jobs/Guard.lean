import ScanService.Proofs.Stages.Run

/-!
# The guard of job entries

A run changes its job and the entry of it by `moveJob`, which does nothing if the status of the job
must not move so.  That never happens: whatever else were done in that case, the run would be the
same program.

## What is here

* `Mover.KeepsToGuard` — a way of changing jobs that is that of `moveJob` wherever its guard lets a
  job be changed.
* `Runner.runWith_eq` — **a run that changes its job in such a way is the run itself.**
-/

namespace ScanService
namespace Service

open Execution (UnitContext)
open Store (JobPatch)

/-- It is that of `moveJob` wherever the guard lets a job be changed. -/
def Mover.KeepsToGuard (move : Mover) : Prop :=
  ∀ ctx (job : Job) (patch : JobPatch) next, patch.status = some next →
    job.status.canMoveTo next = true → move ctx job patch = moveJob ctx job patch

/-! ## The guard lets every change be made -/

variable {move : Mover} (hmove : move.KeepsToGuard) {ctx : UnitContext} {test : SecurityTest}
  {job : Job}

include hmove

theorem failJob_congr (hm : job.status.canMoveTo .error = true) (output : String) :
    failJob move ctx job output = failJob moveJob ctx job output := by
  refine congrArg (Program.bind Task.readClock) (funext fun now => ?_)
  rw [hmove ctx job _ .error rfl hm]

namespace Runner

variable (r : Runner)

theorem recordReport_congr (hm : job.status = .running) (report : String) :
    r.recordReport move ctx test job report = r.recordReport moveJob ctx test job report := by
  have hmoved : ∀ patch : JobPatch, patch.status = some .finished →
      move ctx job patch = moveJob ctx job patch := fun patch hp =>
    hmove ctx job patch .finished hp (by rw [hm]; rfl)
  simp only [recordReport, hmoved]

theorem readReport_congr (hm : job.status = .running) (id : String) :
    r.readReport move ctx test id job = r.readReport moveJob ctx test id job := by
  refine congrArg (Program.bind (Task.backend (.readOutput id))) (funext fun answer => ?_)
  cases answer with
  | ok report => exact recordReport_congr hmove r hm report
  | error e => exact failJob_congr hmove (by rw [hm]; rfl) _

theorem awaitUnit_congr (hm : job.status = .running) (id : String) :
    r.awaitUnit move ctx test id job = r.awaitUnit moveJob ctx test id job := by
  refine congrArg (Program.bind (Task.backend (.waitUnit id test.timeout)))
    (funext fun answer => ?_)
  cases answer with
  | ok u => exact readReport_congr hmove r hm id
  | error e =>
    cases e with
    | timeout after =>
      refine congrArg (Program.bind Task.readClock) (funext fun now => ?_)
      rw [hmove ctx job _ .finished rfl (by rw [hm]; rfl)]
    | _ => exact failJob_congr hmove (by rw [hm]; rfl) _

theorem startUnit_congr (id : String) :
    r.startUnit move ctx test id (.created test id) =
      r.startUnit moveJob ctx test id (.created test id) := by
  refine congrArg (Program.bind (Task.backend (.startUnit id))) (funext fun answer => ?_)
  cases answer with
  | ok u =>
    refine congrArg (Program.bind Task.readClock) (funext fun now => ?_)
    have hid : (Job.created test id).executionId = some id := rfl
    have hallowed : (Job.created test id).status.canMoveTo .running = true := rfl
    rw [hmove ctx _ _ .running rfl hallowed, RunStage.moveJob_eq_of_canMoveTo hid rfl hallowed]
    -- the job has been changed, whether or not its entry has been
    refine congrArg (Program.bind (Task.store _)) (funext fun _ => ?_)
    exact awaitUnit_congr hmove r rfl id
  | error e => exact failJob_congr hmove rfl _

/-- **The guard never keeps a run from changing its job:** a run is the same program, whatever is
done where the guard does not let a job be changed. -/
theorem runWith_eq (ctx : UnitContext) (test : SecurityTest) :
    r.runWith move ctx test = r.run ctx test := by
  refine congrArg (Program.bind (ensureImage r.settings test.imageRef)) (funext fun _ => ?_)
  refine congrArg (Program.bind (Task.backend _)) (funext fun answer => ?_)
  cases answer with
  | ok id =>
    exact congrArg (Program.bind (Task.store _)) (funext fun _ => startUnit_congr hmove r id)
  | error e => rfl

end Runner
end Service
end ScanService
