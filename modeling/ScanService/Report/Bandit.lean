import ScanService.Report.Outcome

/-!
# Bandit reports

Bandit scans Python sources.  A finding blocks when its severity is `HIGH` or `MEDIUM` and its
confidence is `HIGH`, in exactly these words; internal errors outrank all findings.
-/

namespace ScanService
namespace Report

/-- Whether a finding of this severity and confidence fails the job. -/
def isBlocking (severity confidence : String) : Bool :=
  (severity == "HIGH" || severity == "MEDIUM") && confidence == "HIGH"

/-- The severity meant by a word, whatever its case; anything unknown is mere information. -/
def wordSeverity (word : String) : Severity :=
  let w := Text.uppercase word
  if w = "HIGH" then .high
  else if w = "MEDIUM" then .medium
  else if w = "LOW" then .low
  else .info

/-- A finding of Bandit. -/
structure BanditFinding where
  severity : String
  confidence : String
  text : String
  testId : String
  testName : String
  file : Option String
  line : Option Nat
  code : Option String
  deriving DecidableEq, Repr

namespace BanditFinding

/-- The members of a finding. -/
def members : List Member :=
  [⟨"issue_severity", ["severity"]⟩, ⟨"issue_confidence", ["confidence"]⟩, ⟨"issue_text", []⟩,
    ⟨"test_id", []⟩, ⟨"test_name", []⟩, ⟨"filename", []⟩, ⟨"line_number", []⟩, ⟨"code", []⟩]

instance : FromJson BanditFinding where
  read? levels d := do
    let r ← Record.ofDocument? members levels d
    return {
      severity := ← r.orElse "issue_severity" ""
      confidence := ← r.orElse "issue_confidence" ""
      text := ← r.orElse "issue_text" ""
      testId := ← r.orElse "test_id" ""
      testName := ← r.orElse "test_name" ""
      file := ← r.optional "filename"
      line := ← r.optional "line_number"
      code := ← r.optional "code" }

/-- Whether the finding fails the job. -/
def blocks (f : BanditFinding) : Bool := isBlocking f.severity f.confidence

/-- The issue that the finding reports. -/
def toIssue (f : BanditFinding) : Issue where
  severity := wordSeverity f.severity
  originalSeverity := f.severity
  confidence := Confidence.ofToolWord? f.confidence
  title := if f.testName.isEmpty then f.testId else f.testId ++ " " ++ f.testName
  details := f.text
  file := f.file
  line := f.line.map Text.decimalText
  code := f.code

end BanditFinding

/-- A report of Bandit. -/
structure BanditReport where
  findings : List BanditFinding
  errors : Option Json
  deriving Repr

namespace BanditReport

/-- The members of a report. -/
def members : List Member := [⟨"results", ["issues"]⟩, ⟨"errors", []⟩]

instance : FromJson BanditReport where
  read? levels d := do
    let r ← Record.ofDocument? members levels d
    return {
      findings := ← r.orElse "results" []
      errors := ← r.orElse "errors" none }

/-- What the report says. -/
def outcome (r : BanditReport) : Outcome :=
  if reportsErrors r.errors && r.findings.isEmpty then .judged .error []
  else if r.findings.isEmpty then .clean
  else
    .judged
      (if reportsErrors r.errors then .error
        else if r.findings.any BanditFinding.blocks then .failed
        else .passed)
      (r.findings.map BanditFinding.toIssue)

/-- It makes no difference whether errors are looked for first. -/
theorem outcome_eq (r : BanditReport) : r.outcome =
    if reportsErrors r.errors then .judged .error (r.findings.map BanditFinding.toIssue)
    else if r.findings.isEmpty then .clean
    else
      .judged (if r.findings.any BanditFinding.blocks then .failed else .passed)
        (r.findings.map BanditFinding.toIssue) := by
  cases he : reportsErrors r.errors <;> cases hf : r.findings <;> simp [outcome, he, hf]

end BanditReport

/-- The reader of Bandit's reports. -/
def bandit : Reader where
  tool := "Bandit"
  read? report := (FromJson.ofText? report).map BanditReport.outcome
  severityOf := wordSeverity

end Report
end ScanService
