import ScanService.Issue
import ScanService.SecurityTest

/-!
# Analyses and their jobs

An `Analysis` is one run of security tests over one repository.  It lists the tests that are to run
and holds a `Job` entry for each run that has been started.

The status of a job only ever moves forward: `created`, `running`, then `finished` or `error`.
-/

namespace ScanService

/-- The status of an analysis. -/
inductive AnalysisStatus where
  | running
  | finished
  deriving DecidableEq, Repr

namespace AnalysisStatus

/-- The name of a status in records. -/
def name : AnalysisStatus → String
  | running => "running"
  | finished => "finished"

/-- All statuses by their names. -/
def words : List (String × AnalysisStatus) := [running, finished].map fun s => (s.name, s)

end AnalysisStatus

instance : ToJson AnalysisStatus := ⟨fun s => .text s.name⟩
instance : FromJson AnalysisStatus := ⟨FromJson.readWord? AnalysisStatus.words⟩

/-- The status of a job. -/
inductive JobStatus where
  | created
  | running
  | finished
  | error
  deriving DecidableEq, Repr

namespace JobStatus

/-- The name of a status in records. -/
def name : JobStatus → String
  | created => "created"
  | running => "running"
  | finished => "finished"
  | error => "error"

/-- All statuses by their names. -/
def words : List (String × JobStatus) :=
  [created, running, finished, error].map fun s => (s.name, s)

/-- A terminal status is never left. -/
def isTerminal : JobStatus → Bool
  | finished | error => true
  | created | running => false

/-- The moves a job may make. -/
def canMoveTo : JobStatus → JobStatus → Bool
  | created, running | created, error | running, finished | running, error => true
  | _, _ => false

/-- How far along a status is. -/
def rank : JobStatus → Nat
  | created => 0
  | running => 1
  | finished | error => 2

theorem rank_lt_of_canMoveTo {a b : JobStatus} (h : a.canMoveTo b = true) : a.rank < b.rank := by
  cases a <;> cases b <;> first | exact absurd h (by decide) | decide

end JobStatus

instance : ToJson JobStatus := ⟨fun s => .text s.name⟩
instance : FromJson JobStatus := ⟨FromJson.readWord? JobStatus.words⟩

/-- What a run, or a whole analysis, has come to. -/
inductive Verdict where
  | passed
  | failed
  | error
  deriving DecidableEq, Repr

namespace Verdict

/-- The name of a verdict in records. -/
def name : Verdict → String
  | passed => "passed"
  | failed => "failed"
  | error => "error"

/-- All verdicts by their names. -/
def words : List (String × Verdict) := [passed, failed, error].map fun v => (v.name, v)

end Verdict

instance : ToJson Verdict := ⟨fun v => .text v.name⟩
instance : FromJson Verdict := ⟨FromJson.readWord? Verdict.words⟩

/-! ## Jobs -/

/-- One run of a security test inside an analysis. -/
structure Job where
  /-- The unit it runs in; none if the unit could not be created. -/
  executionId : Option String
  /-- The test it runs. -/
  securityTest : SecurityTest
  /-- How far it has come. -/
  status : JobStatus
  /-- What it has come to. -/
  verdict : Option Verdict
  /-- What the tool printed, or what became of it. -/
  output : String
  /-- What the tool found. -/
  issues : List Issue
  /-- When its unit was started. -/
  startedAt : Option Timestamp
  /-- When it ended. -/
  finishedAt : Option Timestamp
  deriving DecidableEq

namespace Job

/-- A job whose unit is there but not started. -/
def created (test : SecurityTest) (executionId : String) : Job where
  executionId := some executionId
  securityTest := test
  status := .created
  verdict := none
  output := ""
  issues := []
  startedAt := none
  finishedAt := none

/-- A job whose unit could not be created. -/
def notCreated (test : SecurityTest) (reason : String) (now : Timestamp) : Job where
  executionId := none
  securityTest := test
  status := .error
  verdict := some .error
  output := reason
  issues := []
  startedAt := none
  finishedAt := some now

/-- The members of a job's record. -/
def members : List Member :=
  [⟨"executionID", []⟩, ⟨"securityTest", []⟩, ⟨"status", []⟩, ⟨"verdict", []⟩, ⟨"output", []⟩,
    ⟨"issues", []⟩, ⟨"startedAt", []⟩, ⟨"finishedAt", []⟩]

end Job

instance : ToJson Job where
  toJson j := .object
    [("executionID", toJson j.executionId), ("securityTest", toJson j.securityTest),
      ("status", toJson j.status), ("verdict", toJson j.verdict), ("output", toJson j.output),
      ("issues", toJson j.issues), ("startedAt", toJson j.startedAt),
      ("finishedAt", toJson j.finishedAt)]

instance : FromJson Job where
  read? levels d := do
    let r ← Record.ofDocument? Job.members levels d
    return {
      executionId := ← r.optional "executionID"
      securityTest := ← r.required "securityTest"
      status := ← r.required "status"
      verdict := ← r.optional "verdict"
      output := ← r.required "output"
      issues := ← r.required "issues"
      startedAt := ← r.optional "startedAt"
      finishedAt := ← r.optional "finishedAt" }

/-! ## Analyses -/

/-- One run of security tests over one repository. -/
structure Analysis where
  /-- The identifier its client polls. -/
  rid : Uuid
  /-- The repository. -/
  url : String
  /-- The tests that are to run; it grows when follow-up tests are selected. -/
  securityTests : List SecurityTest
  /-- An entry for each run. -/
  jobs : List Job
  /-- The status that was last stored. -/
  status : AnalysisStatus
  /-- The result that was last stored. -/
  result : Option Verdict
  /-- When it was admitted. -/
  startedAt : Timestamp
  /-- When its last job ended. -/
  finishedAt : Option Timestamp
  deriving DecidableEq

namespace Analysis

/-- An analysis just admitted. -/
def admitted (rid : Uuid) (url : String) (tests : List SecurityTest) (now : Timestamp) :
    Analysis where
  rid := rid
  url := url
  securityTests := tests
  jobs := []
  status := .running
  result := none
  startedAt := now
  finishedAt := none

/-- The members of an analysis' record. -/
def members : List Member :=
  [⟨"RID", []⟩, ⟨"repositoryURL", []⟩, ⟨"securityTests", []⟩, ⟨"jobs", []⟩, ⟨"status", []⟩,
    ⟨"result", []⟩, ⟨"startedAt", []⟩, ⟨"finishedAt", []⟩]

end Analysis

instance : ToJson Analysis where
  toJson a := .object
    [("RID", toJson a.rid), ("repositoryURL", toJson a.url),
      ("securityTests", toJson a.securityTests), ("jobs", toJson a.jobs),
      ("status", toJson a.status), ("result", toJson a.result),
      ("startedAt", toJson a.startedAt), ("finishedAt", toJson a.finishedAt)]

instance : FromJson Analysis where
  read? levels d := do
    let r ← Record.ofDocument? Analysis.members levels d
    return {
      rid := ← r.required "RID"
      url := ← r.required "repositoryURL"
      securityTests := ← r.required "securityTests"
      jobs := ← r.required "jobs"
      status := ← r.required "status"
      result := ← r.optional "result"
      startedAt := ← r.required "startedAt"
      finishedAt := ← r.optional "finishedAt" }

end ScanService
