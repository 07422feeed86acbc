import ScanService.Analysis
import ScanService.Error
import ScanService.Text.Replace

/-!
# Reading the reports of scan tools

A `Reader` knows the report of one tool: how its text is read, and how its severities are to be
understood.  `Reader.evaluate` adds the rules that all tools share.  A report that carries the marker
of a failed clone, or is blank, is never read; one that cannot be read keeps its text.
-/

namespace ScanService
namespace Report

/-- The output recorded when a tool found nothing. -/
def noIssues : String := "No issues found."

/-- What a tool prints when it could not fetch the source. -/
def cloningMarker : String := "ERROR_CLONING"

/-- What a report says. -/
structure Outcome where
  /-- What the run has come to; none leaves the job without a verdict. -/
  verdict : Option Verdict
  /-- What to record instead of the report's text. -/
  output : Option String
  /-- What was found. -/
  issues : List Issue
  /-- The languages that a detector found. -/
  languages : List String
  deriving DecidableEq, Repr

namespace Outcome

/-- A verdict on some issues. -/
def judged (verdict : Verdict) (issues : List Issue) : Outcome := ⟨some verdict, none, issues, []⟩

/-- A run without findings. -/
def clean : Outcome := ⟨some .passed, some noIssues, [], []⟩

end Outcome

/-- How the report of one tool is read. -/
structure Reader where
  /-- The name of the tool. -/
  tool : String
  /-- Reads a report that is not blank and free of the marker. -/
  read? (report : String) : Option Outcome
  /-- What a severity of the tool means. -/
  severityOf (word : String) : Severity
  /-- The verdict on a report that carries the marker. -/
  onCloningFailure : Verdict := .error
  /-- The verdict on a report that cannot be read. -/
  onUnreadable : Verdict := .error

/-- What a job records of a report. -/
structure Evaluation where
  /-- The verdict, if there is one. -/
  verdict : Option Verdict
  /-- The output. -/
  output : String
  /-- What was found. -/
  issues : List Issue
  /-- The languages that a detector found. -/
  languages : List String
  deriving DecidableEq, Repr

namespace Reader

/-- What a job records of a report. -/
def evaluate (r : Reader) (report : String) : Evaluation :=
  if Text.contains report cloningMarker then
    ⟨some r.onCloningFailure, "Container error: " ++ report, [], []⟩
  else if (Text.trim report).isEmpty then
    ⟨some .passed, noIssues, [], []⟩
  else
    match r.read? report with
    | some o => ⟨o.verdict, o.output.getD report, o.issues, o.languages⟩
    | none => ⟨some r.onUnreadable, report, [], []⟩

end Reader

/-- Whether a report's member for internal errors says that there were any. -/
def reportsErrors : Option Json → Bool
  | none | some .null => false
  | some (.array items) => !items.isEmpty
  | some (.object entries) => !entries.isEmpty
  | some (.text s) => !s.isEmpty
  | some _ => true

end Report
end ScanService
