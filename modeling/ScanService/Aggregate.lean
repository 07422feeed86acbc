import ScanService.Analysis

/-!
# What an analysis has come to

The status and the result of an analysis are worked out from its jobs whenever somebody asks.  It is
complete when every test that is to run has an entry, by name and number, and every entry is
terminal; then the worst outcome of a job is the result, a failure being worse than an error.
-/

namespace ScanService

namespace Verdict

/-- The result of some outcomes: failed if one failed, else in error if one is, else passed. -/
def combine (outcomes : List Verdict) : Verdict :=
  if failed ∈ outcomes then failed
  else if error ∈ outcomes then error
  else passed

end Verdict

namespace Job

/-- What a job contributes to the result; without a verdict it counts as passed. -/
def outcome (j : Job) : Verdict :=
  match j.status with
  | .error => .error
  | _ => j.verdict.getD .passed

/-- The name of the test a job runs. -/
def testName (j : Job) : String := j.securityTest.name

end Job

/-- Status, result and time of ending of an analysis, as a reader is told. -/
structure Aggregate where
  /-- Whether the analysis has ended. -/
  status : AnalysisStatus
  /-- What it has come to. -/
  result : Option Verdict
  /-- When it ended. -/
  finishedAt : Option Timestamp
  deriving DecidableEq

namespace Analysis

/-- The names of the tests that are to run. -/
def pendingNames (a : Analysis) : List String := a.securityTests.map (·.name)

/-- The names of the tests that have an entry. -/
def startedNames (a : Analysis) : List String := a.jobs.map Job.testName

/-- Every test has as many entries as it is to run, and every entry is terminal. -/
def isComplete (a : Analysis) : Bool :=
  (a.pendingNames.all fun n => a.pendingNames.count n ≤ a.startedNames.count n)
    && a.jobs.all fun j => j.status.isTerminal

theorem isComplete_iff {a : Analysis} : a.isComplete = true ↔
    (∀ n ∈ a.pendingNames, a.pendingNames.count n ≤ a.startedNames.count n) ∧
      ∀ j ∈ a.jobs, j.status.isTerminal = true := by
  rw [isComplete, Bool.and_eq_true, List.all_eq_true, List.all_eq_true]
  simp only [decide_eq_true_eq]

/-- What a reader is told of an analysis.  A stored end stands; an analysis stored as running has
ended when it is complete, at the time its last job did. -/
def aggregate (a : Analysis) : Aggregate :=
  match a.status with
  | .finished => ⟨.finished, a.result, a.finishedAt⟩
  | .running =>
    if a.isComplete then
      ⟨.finished, some (.combine (a.jobs.map Job.outcome)),
        some ((Timestamp.latest? (a.jobs.filterMap (·.finishedAt))).getD a.startedAt)⟩
    else ⟨.running, none, none⟩

/-- The analysis as a reader is told of it. -/
def snapshot (a : Analysis) : Analysis :=
  { a with
    status := a.aggregate.status
    result := a.aggregate.result
    finishedAt := a.aggregate.finishedAt }

end Analysis
end ScanService
