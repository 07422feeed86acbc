import ScanService.Distinct
import ScanService.Aggregate
import ScanService.Report.Registry
import ScanService.Service.Selection

/-!
# Running a security test

A run makes its image available, creates a unit and records a job entry for it, starts the unit, waits
for it, reads its output and records what the output says.  Each way out of the run but the first is a
change of the entry that ends it; when the unit cannot be created the entry is recorded as ended.
Nothing that fails stops another run, and nothing is reported to anybody but the entry.

When the detector has passed, the tests for the languages it found are recorded and launched before
its own entry ends, so that no reader sees the analysis complete in between.

* `Runner.run` is the whole run; the definitions before it are its stages, last first.
* `moveJob` changes an entry, and does nothing if the job's status must not move so.
-/

namespace ScanService
namespace Service

open Execution (UnitContext)
open Store (Filter JobPatch RepositoryPatch AnalysisPatch)

/-- How runs are to be made. -/
structure RunnerSettings where
  /-- What stands for the secret's placeholder in commands. -/
  secret : String
  /-- How long to sleep before looking for an image again. -/
  pollInterval : Duration
  /-- How long to go on looking; then the run goes on without the image. -/
  pullCeiling : Duration
  deriving DecidableEq

namespace RunnerSettings

/-- The settings where nothing else is said. -/
def standard : RunnerSettings := ⟨"", .ofSeconds 5, .ofSeconds 120⟩

/-- The diagnostic text of the settings, without the secret. -/
def debugText (s : RunnerSettings) : String :=
  "RunnerConfig \x7b secret: \"<redacted>\", pull_poll_interval: " ++ s.pollInterval.text
    ++ ", pull_ceiling: " ++ s.pullCeiling.text ++ " \x7d"

end RunnerSettings

/-- What runs have in common. -/
structure Runner where
  /-- How runs are to be made. -/
  settings : RunnerSettings
  /-- The readers of the tools' reports. -/
  readers : Report.Registry

/-- The output recorded when a unit outlives the time its test allows. -/
def waitTimeoutOutput : String := "wait timeout"

/-! ## Job entries -/

/-- Changes a job and its entry.  A move its status must not make changes nothing; if the entry cannot
be changed, the job is changed all the same. -/
def moveJob (ctx : UnitContext) (job : Job) (patch : JobPatch) : Task Job :=
  if patch.status.any fun next => !job.status.canMoveTo next then return job
  else
    match job.executionId with
    | none => return patch.apply job
    | some id => do
      let _ ← Task.store (.updateJob (.job ctx.rid id) patch)
      return patch.apply job

/-- A way of changing a job and its entry. -/
abbrev Mover : Type := UnitContext → Job → JobPatch → Task Job

/-- Ends a job in error. -/
def failJob (move : Mover) (ctx : UnitContext) (job : Job) (output : String) : Task Unit := do
  let now ← Task.readClock
  let _ ← move ctx job
    { status := some .error, verdict := some .error, output := some output, finishedAt := some now }

/-! ## Images -/

/-- Whether an image is there, as far as the backend can say. -/
def imageIsThere (image : String) : Task Bool := do
  match ← Task.backend (.imageIsLoaded image) with
  | .ok there => return there
  | .error _ => return false

/-- Sleeps and looks for an image until it is there or the deadline has come.  Each round takes the
poll interval, so it suffices to allow one round more than there are nanoseconds to the deadline. -/
def pollImage (interval deadline : Duration) (image : String) : Nat → Task Unit
  | 0 => return ()
  | rounds + 1 => do
    Task.sleep interval
    if ← imageIsThere image then return ()
    let now ← Task.readTimer
    if deadline ≤ now then return ()
    pollImage interval deadline image rounds

/-- Makes an image available, or gives up in time: one pull is asked for if the image is not there. -/
def ensureImage (s : RunnerSettings) (image : String) : Task Unit := do
  if ← imageIsThere image then return ()
  let _ ← Task.backend (.pullImage image)
  let now ← Task.readTimer
  pollImage s.pollInterval (now + s.pullCeiling) image (s.pullCeiling.nanos + 1)

/-! ## Follow-up tests -/

/-- The tests to run besides those already scheduled: each name once, the detector never. -/
def followUps (scheduled : List String) (selected : List SecurityTest) : List SecurityTest :=
  firstBy (·.name) scheduled (selected.filter fun t => t.name != SecurityTest.detectorName)

/-- The names of the tests that an analysis is already to run; none if it cannot be found. -/
def scheduledNames (rid : Uuid) : Task (List String) := do
  match ← Task.store (.findAnalysis (.rid rid)) with
  | .ok (some analysis) => return analysis.pendingNames
  | _ => return []

/-- Records the languages of a repository and launches the tests that they ask for. -/
def enqueueFollowUps (ctx : UnitContext) (languages : List String) : Task Unit := do
  let selected ← selectTests languages
  let _ ← Task.store (.updateRepository (.url ctx.repositoryUrl)
    { languages := some languages, securityTests := some selected })
  let scheduled ← scheduledNames ctx.rid
  let tests := followUps scheduled selected
  if tests.isEmpty then return ()
  match ← Task.store (.updateAnalysis (.rid ctx.rid) { append := tests }) with
  | .ok _ => Program.forEach (Task.launch ctx) tests
  | .error _ => return ()

/-! ## The stages of a run

All stages change jobs in one way, which is a parameter of them. -/

namespace Runner

/-- What is recorded of a tool's report. -/
def evaluate (r : Runner) (test : SecurityTest) (report : String) : Report.Evaluation :=
  match r.readers.dispatch test.name report with
  | .ok e => e
  | .error e => ⟨some .error, e.message, [], []⟩

/-- Records what a report says, after launching what it asks for. -/
def recordReport (r : Runner) (move : Mover) (ctx : UnitContext) (test : SecurityTest) (job : Job)
    (report : String) : Task Unit := do
  let e := r.evaluate test report
  if test.name = SecurityTest.detectorName ∧ e.verdict = some .passed then
    enqueueFollowUps ctx e.languages
  let now ← Task.readClock
  let _ ← move ctx job
    { status := some .finished, verdict := e.verdict, output := some e.output,
      issues := some e.issues, finishedAt := some now }

/-- Reads the output of a unit that has ended. -/
def readReport (r : Runner) (move : Mover) (ctx : UnitContext) (test : SecurityTest) (id : String)
    (job : Job) : Task Unit := do
  match ← Task.backend (.readOutput id) with
  | .ok report => r.recordReport move ctx test job report
  | .error e => failJob move ctx job e.toServiceError.message

/-- Waits for a unit that is running. -/
def awaitUnit (r : Runner) (move : Mover) (ctx : UnitContext) (test : SecurityTest) (id : String)
    (job : Job) : Task Unit := do
  match ← Task.backend (.waitUnit id test.timeout) with
  | .ok _ => r.readReport move ctx test id job
  | .error (.timeout _) =>
    let now ← Task.readClock
    let _ ← move ctx job
      { status := some .finished, verdict := some .error, output := some waitTimeoutOutput,
        finishedAt := some now }
  | .error e => failJob move ctx job e.toServiceError.message

/-- Starts a unit that has been created. -/
def startUnit (r : Runner) (move : Mover) (ctx : UnitContext) (test : SecurityTest) (id : String)
    (job : Job) : Task Unit := do
  match ← Task.backend (.startUnit id) with
  | .ok _ =>
    let now ← Task.readClock
    let job ← move ctx job { status := some .running, startedAt := some now }
    r.awaitUnit move ctx test id job
  | .error e => failJob move ctx job e.toServiceError.message

/-- The command of a test with the secret in place of its placeholder.  It goes to the backend only;
records keep the template. -/
def command (r : Runner) (test : SecurityTest) : String :=
  Text.replaceAll test.cmd SecurityTest.secretPlaceholder r.settings.secret

/-- Creates a unit for a test and records an entry for it. -/
def createUnit (r : Runner) (move : Mover) (ctx : UnitContext) (test : SecurityTest) :
    Task Unit := do
  match ← Task.backend (.createUnit ctx test.imageRef (r.command test)) with
  | .ok id =>
    let job := Job.created test id
    let _ ← Task.store (.pushJob (.rid ctx.rid) job)
    r.startUnit move ctx test id job
  | .error e =>
    let now ← Task.readClock
    let _ ← Task.store (.pushJob (.rid ctx.rid) (.notCreated test e.toServiceError.message now))

/-- Runs a test for an analysis and changes its job in some way. -/
def runWith (r : Runner) (move : Mover) (ctx : UnitContext) (test : SecurityTest) : Task Unit := do
  ensureImage r.settings test.imageRef
  r.createUnit move ctx test

/-- Runs a test for an analysis. -/
def run (r : Runner) (ctx : UnitContext) (test : SecurityTest) : Task Unit :=
  r.runWith moveJob ctx test

end Runner
end Service
end ScanService
