import ScanService.Proofs.Turns

/-!
# The stages of a run

Between two turns a run stands before the question that it asks next.  A `RunStage` says which one
that is, `RunStage.task` is what is left to do there, and `RunStage.Step` is the chart of the run:
from which stage which answer leads where, and which tests are launched on the way.

## What is here

* `Ending` — the ways in which a run with a unit can end, each with the patch that it makes.
* `FollowStage` — what a detector that has passed does before its entry ends.
* `RunStage.entry?` — the job as the run itself knows it, once it has asked for its entry.
* `RunStage.step_of_settles` — **what a run does between two turns is a step of the chart.**

A stage also remembers what the run has read and which tests were registered then (`Reading`).  That
has no effect on what is left to do, but later on it says what a detector had to take notice of.
-/

namespace ScanService
namespace Service

open Execution (UnitContext)
open Store (Filter JobPatch RepositoryPatch AnalysisPatch)

/-! ## Endings -/

/-- A report that a run has read, and the tests that were registered when it did. -/
structure Reading where
  /-- The report. -/
  report : String
  /-- The tests that were registered. -/
  known : List SecurityTest

/-- How a run ends that has a unit. -/
inductive Ending where
  /-- The backend failed. -/
  | failed (reason : String)
  /-- The unit did not end in time. -/
  | timedOut
  /-- A report was read. -/
  | reported (reading : Reading)

namespace Ending

/-- What an ending makes of the job. -/
def patch (r : Runner) (test : SecurityTest) (now : Timestamp) : Ending → JobPatch
  | failed reason =>
    { status := some .error, verdict := some .error, output := some reason,
      finishedAt := some now }
  | timedOut =>
    { status := some .finished, verdict := some .error, output := some waitTimeoutOutput,
      finishedAt := some now }
  | reported reading =>
    { status := some .finished, verdict := (r.evaluate test reading.report).verdict,
      output := some (r.evaluate test reading.report).output,
      issues := some (r.evaluate test reading.report).issues, finishedAt := some now }

/-- The status that an ending leaves is terminal. -/
theorem exists_status_patch (r : Runner) (test : SecurityTest) (now : Timestamp) (e : Ending) :
    ∃ status, (e.patch r test now).status = some status ∧ status.isTerminal = true := by
  cases e with
  | failed reason => exact ⟨.error, rfl, rfl⟩
  | timedOut => exact ⟨.finished, rfl, rfl⟩
  | reported reading => exact ⟨.finished, rfl, rfl⟩

end Ending

/-- The patch that a run makes when its unit has been started. -/
def startPatch (now : Timestamp) : JobPatch := { status := some .running, startedAt := some now }

/-- The job of a unit as its run knows it, before and after the unit has been started. -/
def knownJob (test : SecurityTest) (id : String) : Option Timestamp → Job
  | none => .created test id
  | some startedAt => (startPatch startedAt).apply (.created test id)

@[simp] theorem executionId_knownJob (test : SecurityTest) (id : String)
    (startedAt : Option Timestamp) : (knownJob test id startedAt).executionId = some id := by
  cases startedAt <;> rfl

@[simp] theorem securityTest_knownJob (test : SecurityTest) (id : String)
    (startedAt : Option Timestamp) : (knownJob test id startedAt).securityTest = test := by
  cases startedAt <;> rfl

/-- A unit that has been created, or started, has not ended. -/
@[simp] theorem isTerminal_status_knownJob (test : SecurityTest) (id : String)
    (startedAt : Option Timestamp) : (knownJob test id startedAt).status.isTerminal = false := by
  cases startedAt <;> rfl

/-! ## Follow-up tests -/

/-- What is left to do when the names that are scheduled are known. -/
def recordTests (ctx : UnitContext) (tests : List SecurityTest) : Task Unit := do
  if tests.isEmpty then return ()
  match ← Task.store (.updateAnalysis (.rid ctx.rid) { append := tests }) with
  | .ok _ => Program.forEach (Task.launch ctx) tests
  | .error _ => return ()

/-- What is left to do when the tests have been selected. -/
def recordSelection (ctx : UnitContext) (languages : List String) (selected : List SecurityTest) :
    Task Unit := do
  let _ ← Task.store (.updateRepository (.url ctx.repositoryUrl)
    { languages := some languages, securityTests := some selected })
  let scheduled ← scheduledNames ctx.rid
  recordTests ctx (followUps scheduled selected)

/-- Where a detector that has passed stands with its follow-up tests. -/
inductive FollowStage where
  /-- Looks up the default tests of some languages, having selected those of others. -/
  | lookUp (languages : List String) (selected : List SecurityTest)
  /-- Asks which tests are scheduled. -/
  | readScheduled (selected : List SecurityTest)
  /-- Records the tests that are to follow. -/
  | recordTests (tests : List SecurityTest)

/-- What is left to do for the follow-up tests. -/
def FollowStage.task (ctx : UnitContext) (languages : List String) : FollowStage → Task Unit
  | lookUp rest selected =>
    (defaultsForAll rest).bind fun more => recordSelection ctx languages (selected ++ more)
  | readScheduled selected =>
    (scheduledNames ctx.rid).bind fun scheduled =>
      Service.recordTests ctx (followUps scheduled selected)
  | recordTests tests => Service.recordTests ctx tests

theorem enqueueFollowUps_eq (ctx : UnitContext) (languages : List String) :
    enqueueFollowUps ctx languages =
      (FollowStage.lookUp (lookups languages) []).task ctx languages := rfl

theorem FollowStage.lookUp_nil_task (ctx : UnitContext) (languages : List String)
    (selected : List SecurityTest) :
    (FollowStage.lookUp [] selected).task ctx languages =
      recordSelection ctx languages selected :=
  congrArg (recordSelection ctx languages) (List.append_nil selected)

/-! ## Stages -/

/-- Questions about images. -/
def Call.concernsImages : Call → Prop
  | .backend (.imageIsLoaded _) | .backend (.pullImage _) | .readTimer | .sleep _ => True
  | _ => False

/-- Where a run stands: before which question, or at which end. -/
inductive RunStage where
  /-- Asks for its image; when that is done, for a unit. -/
  | prepare (images : Task Unit) (h : images.OnlyAsks Call.concernsImages)
  /-- Records that there is no unit. -/
  | recordFailure (reason : String) (now : Timestamp)
  /-- Records its unit. -/
  | recordUnit (id : String)
  /-- Starts its unit. -/
  | startUnit (id : String)
  /-- Records that its unit has been started. -/
  | recordStart (id : String) (now : Timestamp)
  /-- Waits for its unit. -/
  | awaitUnit (id : String) (startedAt : Timestamp)
  /-- Reads what its unit has printed. -/
  | readReport (id : String) (startedAt : Timestamp)
  /-- Sees to the follow-up tests. -/
  | follow (id : String) (startedAt : Timestamp) (reading : Reading) (stage : FollowStage)
  /-- Records its end. -/
  | recordEnd (id : String) (startedAt : Option Timestamp) (ending : Ending) (now : Timestamp)
  /-- Has ended without a unit. -/
  | noUnit (reason : String) (now : Timestamp)
  /-- Has ended. -/
  | ended (id : String) (startedAt : Option Timestamp) (ending : Ending) (now : Timestamp)

namespace RunStage

variable (r : Runner) (ctx : UnitContext) (test : SecurityTest)

/-- Records what has been read, as the last thing. -/
def recordReading (id : String) (startedAt : Timestamp) (reading : Reading) : Task Unit := do
  let now ← Task.readClock
  let _ ← moveJob ctx (knownJob test id (some startedAt))
    ((Ending.reported reading).patch r test now)

/-- What is left to do. -/
def task : RunStage → Task Unit
  | prepare images _ => images.bind fun _ => r.createUnit moveJob ctx test
  | recordFailure reason now => do
    let _ ← Task.store (.pushJob (.rid ctx.rid) (.notCreated test reason now))
  | recordUnit id => do
    let _ ← Task.store (.pushJob (.rid ctx.rid) (.created test id))
    r.startUnit moveJob ctx test id (knownJob test id none)
  | startUnit id => r.startUnit moveJob ctx test id (knownJob test id none)
  | recordStart id now => do
    let _ ← Task.store (.updateJob (.job ctx.rid id) (startPatch now))
    r.awaitUnit moveJob ctx test id (knownJob test id (some now))
  | awaitUnit id startedAt => r.awaitUnit moveJob ctx test id (knownJob test id (some startedAt))
  | readReport id startedAt => r.readReport moveJob ctx test id (knownJob test id (some startedAt))
  | follow id startedAt reading stage =>
    (stage.task ctx (r.evaluate test reading.report).languages).bind fun _ =>
      recordReading r ctx test id startedAt reading
  | recordEnd id _ ending now => do
    let _ ← Task.store (.updateJob (.job ctx.rid id) (ending.patch r test now))
  | noUnit _ _ | ended _ _ _ _ => return ()

/-- The job as the run knows it, once it has asked for its entry. -/
def entry? : RunStage → Option Job
  | prepare _ _ | recordFailure _ _ | recordUnit _ => none
  | startUnit id | recordStart id _ => some (knownJob test id none)
  | awaitUnit id startedAt | readReport id startedAt | follow id startedAt _ _ =>
    some (knownJob test id (some startedAt))
  | recordEnd id startedAt _ _ => some (knownJob test id startedAt)
  | noUnit reason now => some (.notCreated test reason now)
  | ended id startedAt ending now =>
    some ((ending.patch r test now).apply (knownJob test id startedAt))

/-- Whether the run has ended. -/
def isEnded : RunStage → Bool
  | noUnit _ _ | ended _ _ _ _ => true
  | _ => false

/-- What the run has read, once it has. -/
def reading? : RunStage → Option Reading
  | follow _ _ reading _ | recordEnd _ _ (.reported reading) _ | ended _ _ (.reported reading) _ =>
    some reading
  | _ => none

/-- The chart of a run: the stage, the question and its answer, the next stage and the tests that
are launched before it.  When a report is read, the tests in `known` are registered. -/
inductive Step (known : List SecurityTest) :
    RunStage → (c : Call) → c.Answer → RunStage → List SecurityTest → Prop where
  | image {images images' : Task Unit} {h : images.OnlyAsks Call.concernsImages}
    {h' : images'.OnlyAsks Call.concernsImages} {c : Execution.Call} {answer : c.Answer}
    (hc : Call.concernsImages (.backend c)) :
    Step known (prepare images h) (.backend c) answer (prepare images' h') []
  | unitCreated {h : (Program.done () : Task Unit).OnlyAsks Call.concernsImages} (id : String) :
    Step known (prepare (.done ()) h)
      (.backend (.createUnit ctx test.imageRef (r.command test))) (.ok id) (recordUnit id) []
  | unitRefused {h : (Program.done () : Task Unit).OnlyAsks Call.concernsImages} (e : BackendError)
    (now : Timestamp) :
    Step known (prepare (.done ()) h)
      (.backend (.createUnit ctx test.imageRef (r.command test))) (.error e)
      (recordFailure e.toServiceError.message now) []
  | failureRecorded {reason : String} {now : Timestamp} (answer : Except ServiceError Unit) :
    Step known (recordFailure reason now)
      (.store (.pushJob (.rid ctx.rid) (.notCreated test reason now))) answer (noUnit reason now) []
  | unitRecorded {id : String} (answer : Except ServiceError Unit) :
    Step known (recordUnit id) (.store (.pushJob (.rid ctx.rid) (.created test id))) answer
      (startUnit id) []
  | started {id : String} (now : Timestamp) :
    Step known (startUnit id) (.backend (.startUnit id)) (.ok ()) (recordStart id now) []
  | startFailed {id : String} (e : BackendError) (now : Timestamp) :
    Step known (startUnit id) (.backend (.startUnit id)) (.error e)
      (recordEnd id none (.failed e.toServiceError.message) now) []
  | startRecorded {id : String} {now : Timestamp} (answer : Except ServiceError Unit) :
    Step known (recordStart id now) (.store (.updateJob (.job ctx.rid id) (startPatch now))) answer
      (awaitUnit id now) []
  | awaited {id : String} {startedAt : Timestamp} :
    Step known (awaitUnit id startedAt) (.backend (.waitUnit id test.timeout)) (.ok ())
      (readReport id startedAt) []
  | timedOut {id : String} {startedAt : Timestamp} (after : Duration) (now : Timestamp) :
    Step known (awaitUnit id startedAt) (.backend (.waitUnit id test.timeout))
      (.error (.timeout after)) (recordEnd id (some startedAt) .timedOut now) []
  | waitFailed {id : String} {startedAt : Timestamp} {e : BackendError} (he : ∀ d, e ≠ .timeout d)
    (now : Timestamp) :
    Step known (awaitUnit id startedAt) (.backend (.waitUnit id test.timeout)) (.error e)
      (recordEnd id (some startedAt) (.failed e.toServiceError.message) now) []
  | detected {id : String} {startedAt : Timestamp} (report : String)
    (hd : test.name = SecurityTest.detectorName ∧ (r.evaluate test report).verdict = some .passed) :
    Step known (readReport id startedAt) (.backend (.readOutput id)) (.ok report)
      (follow id startedAt ⟨report, known⟩
        (.lookUp (lookups (r.evaluate test report).languages) [])) []
  | read {id : String} {startedAt : Timestamp} (report : String)
    (hd : ¬(test.name = SecurityTest.detectorName ∧
      (r.evaluate test report).verdict = some .passed)) (now : Timestamp) :
    Step known (readReport id startedAt) (.backend (.readOutput id)) (.ok report)
      (recordEnd id (some startedAt) (.reported ⟨report, known⟩) now) []
  | readFailed {id : String} {startedAt : Timestamp} (e : BackendError) (now : Timestamp) :
    Step known (readReport id startedAt) (.backend (.readOutput id)) (.error e)
      (recordEnd id (some startedAt) (.failed e.toServiceError.message) now) []
  | lookedUp {id : String} {startedAt : Timestamp} {reading : Reading} {language : String}
    {rest : List String} {selected : List SecurityTest}
    (answer : Except ServiceError (List SecurityTest)) :
    Step known (follow id startedAt reading (.lookUp (language :: rest) selected))
      (.store (.findSecurityTests (.defaultsFor language))) answer
      (follow id startedAt reading (.lookUp rest (selected ++ answer.toOption.getD []))) []
  | selectionRecorded {id : String} {startedAt : Timestamp} {reading : Reading}
    {selected : List SecurityTest} (answer : Except ServiceError Unit) :
    Step known (follow id startedAt reading (.lookUp [] selected))
      (.store (.updateRepository (.url ctx.repositoryUrl)
        { languages := some (r.evaluate test reading.report).languages,
          securityTests := some selected })) answer
      (follow id startedAt reading (.readScheduled selected)) []
  | scheduledRead {id : String} {startedAt : Timestamp} {reading : Reading}
    {selected tests : List SecurityTest} {answer : Except ServiceError (Option Analysis)}
    (htests : tests = followUps ((answer.toOption.join.map Analysis.pendingNames).getD []) selected)
    (hne : tests ≠ []) :
    Step known (follow id startedAt reading (.readScheduled selected))
      (.store (.findAnalysis (.rid ctx.rid))) answer
      (follow id startedAt reading (.recordTests tests)) []
  | nothingToFollow {id : String} {startedAt : Timestamp} {reading : Reading}
    {selected : List SecurityTest} {answer : Except ServiceError (Option Analysis)}
    (htests : followUps ((answer.toOption.join.map Analysis.pendingNames).getD []) selected = [])
    (now : Timestamp) :
    Step known (follow id startedAt reading (.readScheduled selected))
      (.store (.findAnalysis (.rid ctx.rid))) answer
      (recordEnd id (some startedAt) (.reported reading) now) []
  | testsRecorded {id : String} {startedAt : Timestamp} {reading : Reading}
    {tests : List SecurityTest} (now : Timestamp) :
    Step known (follow id startedAt reading (.recordTests tests))
      (.store (.updateAnalysis (.rid ctx.rid) { append := tests })) (.ok ())
      (recordEnd id (some startedAt) (.reported reading) now) tests
  | testsRefused {id : String} {startedAt : Timestamp} {reading : Reading}
    {tests : List SecurityTest} (e : ServiceError) (now : Timestamp) :
    Step known (follow id startedAt reading (.recordTests tests))
      (.store (.updateAnalysis (.rid ctx.rid) { append := tests })) (.error e)
      (recordEnd id (some startedAt) (.reported reading) now) []
  | endRecorded {id : String} {startedAt : Option Timestamp} {ending : Ending} {now : Timestamp}
    (answer : Except ServiceError Unit) :
    Step known (recordEnd id startedAt ending now)
      (.store (.updateJob (.job ctx.rid id) (ending.patch r test now))) answer
      (ended id startedAt ending now) []

variable {r ctx test} {known : List SecurityTest} {w : Surroundings} {s s' : Crowd}

theorem moveJob_eq_of_canMoveTo {job : Job} {patch : JobPatch} {id : String} {next : JobStatus}
    (hid : job.executionId = some id) (hp : patch.status = some next)
    (hm : job.status.canMoveTo next = true) :
    moveJob ctx job patch =
      (Task.store (.updateJob (.job ctx.rid id) patch)).bind fun _ => .done (patch.apply job) := by
  simp only [moveJob, hp, hid, Option.any_some, hm, Bool.not_true, Bool.false_eq_true, if_false]
  rfl

/-- After its last reading a run records its end. -/
theorem settles_recordReading_iff {id : String} {startedAt : Timestamp} {reading : Reading}
    {t : Task Unit} :
    Crowd.Settles r (recordReading r ctx test id startedAt reading) s t s' ↔
      ∃ now, t = (recordEnd id (some startedAt) (.reported reading) now).task r ctx test ∧
        s' = s := by
  refine Crowd.settles_readClock_iff.trans (exists_congr fun now => ?_)
  have hid := executionId_knownJob test id (some startedAt)
  rw [Program.bind_done, moveJob_eq_of_canMoveTo hid rfl rfl]
  exact Crowd.settles_store_iff

theorem settles_failJob_iff {id : String} {startedAt : Option Timestamp} {reason : String}
    {t : Task Unit} :
    Crowd.Settles r (failJob moveJob ctx (knownJob test id startedAt) reason) s t s' ↔
      ∃ now, t = (recordEnd id startedAt (.failed reason) now).task r ctx test ∧ s' = s := by
  have hid := executionId_knownJob test id startedAt
  have hm : (knownJob test id startedAt).status.canMoveTo .error = true := by
    cases startedAt <;> rfl
  refine Crowd.settles_readClock_iff.trans (exists_congr fun now => ?_)
  rw [Program.bind_done, moveJob_eq_of_canMoveTo hid rfl hm]
  exact Crowd.settles_store_iff

/-- What a run does about its image takes no notice of anything but the backend. -/
theorem settles_prepare {images : Task Unit} (h : images.OnlyAsks Call.concernsImages)
    {t : Task Unit} (ht : Crowd.Settles r (images.bind fun _ => r.createUnit moveJob ctx test) s t s') :
    ∃ images' h', t = (prepare images' h').task r ctx test ∧ s' = s := by
  induction images with
  | done a =>
    obtain ⟨rfl, rfl⟩ := Crowd.settles_backend_iff.mp ht
    exact ⟨.done a, h, rfl, rfl⟩
  | ask c next ih =>
    by_cases hc : Call.takesTurn c = true
    · obtain ⟨rfl, rfl⟩ := (Crowd.settles_turn_iff hc).mp ht
      exact ⟨.ask c next, h, rfl, rfl⟩
    · obtain ⟨answer, s₁, hq, ht⟩ :=
        (Crowd.settles_quiet_iff (Bool.not_eq_true _ ▸ hc)).mp ht
      cases hq with
      | readTimer | sleep => exact ih _ (h.2 _) ht
      | readClock | drawRid | launch | leaveGate => exact h.1.elim

theorem recordReport_eq (known : List SecurityTest) (id : String) (startedAt : Timestamp)
    (report : String) :
    r.recordReport moveJob ctx test (knownJob test id (some startedAt)) report =
      if test.name = SecurityTest.detectorName ∧
          (r.evaluate test report).verdict = some .passed then
        (enqueueFollowUps ctx (r.evaluate test report).languages).bind fun _ =>
          recordReading r ctx test id startedAt ⟨report, known⟩
      else recordReading r ctx test id startedAt ⟨report, known⟩ := by
  rfl

/-- A detector goes on as far as the next question about the follow-up tests. -/
theorem settles_lookUp_iff {languages rest : List String} {selected : List SecurityTest}
    {k : Unit → Task Unit} {t : Task Unit} :
    Crowd.Settles r (((FollowStage.lookUp rest selected).task ctx languages).bind k) s t s' ↔
      t = ((FollowStage.lookUp rest selected).task ctx languages).bind k ∧ s' = s := by
  cases rest with
  | nil => exact Crowd.settles_store_iff
  | cons language rest => exact Crowd.settles_store_iff

/-- The default tests of one more language are selected. -/
theorem bind_defaultsForAll_cons (language : String) (rest : List String)
    (k : List SecurityTest → Task Unit) :
    (defaultsForAll (language :: rest)).bind k =
      .ask (I := activity) (.store (.findSecurityTests (.defaultsFor language))) fun answer =>
        (defaultsForAll rest).bind fun more => k (answer.toOption.getD [] ++ more) := by
  refine congrArg (Program.ask (I := activity) (.store _)) (funext fun answer => ?_)
  cases answer with
  | ok tests => exact Program.bind_assoc (defaultsForAll rest) (fun more => .done (tests ++ more)) k
  | error e => exact Program.bind_assoc (defaultsForAll rest) (fun more => .done ([] ++ more)) k

theorem bind_scheduledNames (rid : Uuid) (k : List String → Task Unit) :
    (scheduledNames rid).bind k =
      .ask (I := activity) (.store (.findAnalysis (.rid rid))) fun answer =>
        k ((answer.toOption.join.map Analysis.pendingNames).getD []) := by
  refine congrArg (Program.ask (I := activity) (.store _)) (funext fun answer => ?_)
  cases answer with
  | ok found => cases found <;> rfl
  | error e => rfl

/-- Tests that are to follow are launched once they are recorded. -/
theorem bind_recordTests_cons (first : SecurityTest) (rest : List SecurityTest)
    (k : Unit → Task Unit) :
    (recordTests ctx (first :: rest)).bind k =
      .ask (I := activity) (.store (.updateAnalysis (.rid ctx.rid) { append := first :: rest }))
        fun
        | .ok _ => (Program.forEach (Task.launch ctx) (first :: rest)).bind k
        | .error _ => k () := by
  refine congrArg (Program.ask (I := activity) (.store _)) (funext fun answer => ?_)
  cases answer <;> rfl

/-! ### Steps by stages -/

/-- What a run does about its image, and when that is done. -/
theorem step_of_settles_prepare {images : Task Unit} {h : images.OnlyAsks Call.concernsImages}
    {c : Call} {next : c.Answer → Task Unit} {answer : c.Answer} {t : Task Unit}
    (hst : (prepare images h).task r ctx test = .ask (I := activity) c next)
    (hc : Call.takesTurn c = true) (ht : Crowd.Settles r (next answer) s t s') :
    ∃ st' tests, (prepare images h).Step r ctx test known c answer st' tests ∧
      t = st'.task r ctx test ∧ s' = s.launchAll r ctx tests := by
  cases images with
  | done a =>
    cases hst
    cases answer with
    | ok id =>
      obtain ⟨rfl, rfl⟩ := Crowd.settles_store_iff.mp ht
      exact ⟨_, _, .unitCreated id, rfl, by simp⟩
    | error e =>
      obtain ⟨now, ht⟩ := Crowd.settles_readClock_iff.mp ht
      obtain ⟨rfl, rfl⟩ := Crowd.settles_store_iff.mp ht
      exact ⟨_, _, .unitRefused e now, rfl, by simp⟩
  | ask c' next' =>
    cases hst
    obtain ⟨images', h', rfl, rfl⟩ := settles_prepare (h.2 answer) ht
    cases c with
    | backend c => exact ⟨_, _, .image h.1, rfl, by simp⟩
    | _ => first | exact h.1.elim | cases hc

/-- What a run does when it has waited for its unit. -/
theorem step_of_settles_awaitUnit {id : String} {startedAt : Timestamp} {c : Call}
    {next : c.Answer → Task Unit} {answer : c.Answer} {t : Task Unit}
    (hst : (awaitUnit id startedAt).task r ctx test = .ask (I := activity) c next)
    (ht : Crowd.Settles r (next answer) s t s') :
    ∃ st' tests, (awaitUnit id startedAt).Step r ctx test known c answer st' tests ∧
      t = st'.task r ctx test ∧ s' = s.launchAll r ctx tests := by
  cases hst
  cases answer with
  | ok u =>
    obtain ⟨rfl, rfl⟩ := Crowd.settles_backend_iff.mp ht
    exact ⟨_, _, .awaited, rfl, by simp⟩
  | error e =>
    cases e with
    | timeout after =>
      obtain ⟨now, ht⟩ := Crowd.settles_readClock_iff.mp ht
      obtain ⟨rfl, rfl⟩ := Crowd.settles_store_iff.mp ht
      exact ⟨_, _, .timedOut after now, rfl, by simp⟩
    | _ =>
      obtain ⟨now, rfl, rfl⟩ := settles_failJob_iff.mp ht
      exact ⟨_, _, .waitFailed (by simp) now, rfl, by simp⟩

/-- What a run does with the report of its unit. -/
theorem step_of_settles_readReport {id : String} {startedAt : Timestamp} {c : Call}
    {next : c.Answer → Task Unit} {answer : c.Answer} {t : Task Unit}
    (hst : (readReport id startedAt).task r ctx test = .ask (I := activity) c next)
    (ht : Crowd.Settles r (next answer) s t s') :
    ∃ st' tests, (readReport id startedAt).Step r ctx test known c answer st' tests ∧
      t = st'.task r ctx test ∧ s' = s.launchAll r ctx tests := by
  cases hst
  cases answer with
  | ok report =>
    replace ht : Crowd.Settles r
        (r.recordReport moveJob ctx test (knownJob test id (some startedAt)) report) s t s' := ht
    rw [recordReport_eq known] at ht
    split at ht
    · next hd =>
      rw [enqueueFollowUps_eq] at ht
      obtain ⟨rfl, rfl⟩ := settles_lookUp_iff.mp ht
      exact ⟨_, _, .detected report hd, rfl, by simp⟩
    · next hd =>
      obtain ⟨now, rfl, rfl⟩ := settles_recordReading_iff.mp ht
      exact ⟨_, _, .read report hd now, rfl, by simp⟩
  | error e =>
    obtain ⟨now, rfl, rfl⟩ := settles_failJob_iff.mp ht
    exact ⟨_, _, .readFailed e now, rfl, by simp⟩

/-- What a detector does about its follow-up tests. -/
theorem step_of_settles_follow {id : String} {startedAt : Timestamp} {reading : Reading}
    {stage : FollowStage} {c : Call} {next : c.Answer → Task Unit} {answer : c.Answer}
    {t : Task Unit}
    (hst : (follow id startedAt reading stage).task r ctx test = .ask (I := activity) c next)
    (hc : Call.takesTurn c = true) (ht : Crowd.Settles r (next answer) s t s') :
    ∃ st' tests, (follow id startedAt reading stage).Step r ctx test known c answer st' tests ∧
      t = st'.task r ctx test ∧ s' = s.launchAll r ctx tests := by
  cases stage with
  | lookUp languages selected =>
    cases languages with
    | nil =>
      rw [task, FollowStage.lookUp_nil_task] at hst
      cases hst
      obtain ⟨rfl, rfl⟩ := Crowd.settles_store_iff.mp ht
      exact ⟨_, _, .selectionRecorded answer, rfl, by simp⟩
    | cons language rest =>
      rw [task, FollowStage.task, bind_defaultsForAll_cons] at hst
      cases hst
      simp only [← List.append_assoc] at ht
      obtain ⟨rfl, rfl⟩ := settles_lookUp_iff.mp ht
      exact ⟨_, _, .lookedUp answer, rfl, by simp⟩
  | readScheduled selected =>
    rw [task, FollowStage.task, Program.bind_assoc, bind_scheduledNames] at hst
    cases hst
    obtain ⟨tests, htests⟩ : ∃ tests, tests =
      followUps ((answer.toOption.join.map Analysis.pendingNames).getD []) selected := ⟨_, rfl⟩
    replace ht : Crowd.Settles r ((Service.recordTests ctx tests).bind fun _ =>
        recordReading r ctx test id startedAt reading) s t s' := htests ▸ ht
    cases tests with
    | nil =>
      obtain ⟨now, rfl, rfl⟩ := settles_recordReading_iff.mp ht
      exact ⟨_, _, .nothingToFollow htests.symm now, rfl, by simp⟩
    | cons first rest =>
      obtain ⟨rfl, rfl⟩ := Crowd.settles_store_iff.mp ht
      exact ⟨_, _, .scheduledRead htests (List.cons_ne_nil _ _), rfl, by simp⟩
  | recordTests tests =>
    cases tests with
    | nil =>
      -- a run never stops here, for with no tests to record it goes on to the clock
      cases hst
      cases hc
    | cons first rest =>
      rw [task, FollowStage.task, bind_recordTests_cons] at hst
      cases hst
      cases answer with
      | ok u =>
        obtain ⟨now, rfl, rfl⟩ :=
          settles_recordReading_iff.mp (Crowd.settles_launches_iff.mp ht)
        exact ⟨_, _, .testsRecorded now, rfl, rfl⟩
      | error e =>
        obtain ⟨now, rfl, rfl⟩ := settles_recordReading_iff.mp ht
        exact ⟨_, _, .testsRefused e now, rfl, by simp⟩

/-- **What a run does between two turns is a step of the chart.** -/
theorem step_of_settles (known : List SecurityTest) {st : RunStage} {c : Call}
    {next : c.Answer → Task Unit} {answer : c.Answer} {t : Task Unit}
    (hst : st.task r ctx test = .ask (I := activity) c next) (hc : Call.takesTurn c = true)
    (ht : Crowd.Settles r (next answer) s t s') :
    ∃ st' tests, st.Step r ctx test known c answer st' tests ∧ t = st'.task r ctx test ∧
      s' = s.launchAll r ctx tests := by
  cases st with
  | prepare images h => exact step_of_settles_prepare hst hc ht
  | recordFailure reason now =>
    cases hst
    obtain ⟨rfl, rfl⟩ := Crowd.settles_done_iff.mp ht
    exact ⟨_, _, .failureRecorded answer, rfl, by simp⟩
  | recordUnit id =>
    cases hst
    obtain ⟨rfl, rfl⟩ := Crowd.settles_backend_iff.mp ht
    exact ⟨_, _, .unitRecorded answer, rfl, by simp⟩
  | startUnit id =>
    cases hst
    cases answer with
    | ok u =>
      obtain ⟨now, ht⟩ := Crowd.settles_readClock_iff.mp ht
      obtain ⟨rfl, rfl⟩ := Crowd.settles_store_iff.mp ht
      exact ⟨_, _, .started now, rfl, by simp⟩
    | error e =>
      obtain ⟨now, rfl, rfl⟩ := settles_failJob_iff.mp ht
      exact ⟨_, _, .startFailed e now, rfl, by simp⟩
  | recordStart id now =>
    cases hst
    obtain ⟨rfl, rfl⟩ := Crowd.settles_backend_iff.mp ht
    exact ⟨_, _, .startRecorded answer, rfl, by simp⟩
  | awaitUnit id startedAt => exact step_of_settles_awaitUnit hst ht
  | readReport id startedAt => exact step_of_settles_readReport hst ht
  | follow id startedAt reading stage => exact step_of_settles_follow hst hc ht
  | recordEnd id startedAt ending now =>
    cases hst
    obtain ⟨rfl, rfl⟩ := Crowd.settles_done_iff.mp ht
    exact ⟨_, _, .endRecorded answer, rfl, by simp⟩
  | noUnit reason now => cases hst
  | ended id startedAt ending now => cases hst

/-- A run that has ended takes no more steps. -/
theorem Step.isEnded {st st' : RunStage} {c : Call} {answer : c.Answer} {tests : List SecurityTest}
    (h : st.Step r ctx test known c answer st' tests) : st.isEnded = false := by
  cases h <;> rfl

/-! ## The first stage -/

theorem imageIsThere_onlyAsks (image : String) :
    (imageIsThere image).OnlyAsks Call.concernsImages := by
  refine ⟨trivial, fun answer => ?_⟩
  cases answer <;> trivial

theorem pollImage_onlyAsks (interval deadline : Duration) (image : String) (rounds : Nat) :
    (pollImage interval deadline image rounds).OnlyAsks Call.concernsImages := by
  induction rounds with
  | zero => trivial
  | succ rounds ih =>
    refine ⟨trivial, fun _ => Program.onlyAsks_bind (m := imageIsThere image)
      (imageIsThere_onlyAsks image) fun there => ?_⟩
    cases there with
    | true => trivial
    | false =>
      refine ⟨trivial, fun now => ?_⟩
      by_cases h : deadline ≤ now
      · simp [h, Program.OnlyAsks]
      · simpa [h] using ih

theorem ensureImage_onlyAsks (settings : RunnerSettings) (image : String) :
    (ensureImage settings image).OnlyAsks Call.concernsImages := by
  refine Program.onlyAsks_bind (imageIsThere_onlyAsks image) fun there => ?_
  cases there with
  | true => trivial
  | false => exact ⟨trivial, fun _ => ⟨trivial, fun now => pollImage_onlyAsks _ _ _ _⟩⟩

/-- Where a run begins. -/
def first (r : Runner) (test : SecurityTest) : RunStage :=
  .prepare (ensureImage r.settings test.imageRef) (ensureImage_onlyAsks _ _)

end RunStage
end Service
end ScanService
