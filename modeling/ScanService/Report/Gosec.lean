import ScanService.Report.Bandit

/-!
# Gosec reports

Gosec scans Go sources; Gas is the name it had before.  Findings block as those of Bandit do.
-/

namespace ScanService
namespace Report

/-- A finding of Gosec. -/
structure GosecFinding where
  severity : String
  confidence : String
  ruleId : String
  details : String
  file : Option String
  code : Option String
  line : Option String
  deriving DecidableEq, Repr

namespace GosecFinding

/-- The members of a finding. -/
def members : List Member :=
  [⟨"severity", []⟩, ⟨"confidence", []⟩, ⟨"rule_id", []⟩, ⟨"details", []⟩, ⟨"file", []⟩,
    ⟨"code", []⟩, ⟨"line", []⟩]

instance : FromJson GosecFinding where
  read? levels d := do
    let r ← Record.ofDocument? members levels d
    return {
      severity := ← r.orElse "severity" ""
      confidence := ← r.orElse "confidence" ""
      ruleId := ← r.orElse "rule_id" ""
      details := ← r.orElse "details" ""
      file := ← r.optional "file"
      code := ← r.optional "code"
      line := ← r.optional "line" }

/-- Whether the finding fails the job. -/
def blocks (f : GosecFinding) : Bool := isBlocking f.severity f.confidence

/-- The issue that the finding reports. -/
def toIssue (f : GosecFinding) : Issue where
  severity := wordSeverity f.severity
  originalSeverity := f.severity
  confidence := Confidence.ofToolWord? f.confidence
  title := f.ruleId
  details := f.details
  file := f.file
  line := f.line
  code := f.code

end GosecFinding

/-- A report of Gosec; its list of findings may be `null`. -/
structure GosecReport where
  found : Option (List GosecFinding)
  errors : Option Json
  deriving Repr

namespace GosecReport

/-- The members of a report. -/
def members : List Member := [⟨"Issues", []⟩, ⟨"Golang errors", []⟩]

instance : FromJson GosecReport where
  read? levels d := do
    let r ← Record.ofDocument? members levels d
    return {
      found := ← r.orElse "Issues" none
      errors := ← r.orElse "Golang errors" none }

/-- The findings of the report. -/
def findings (r : GosecReport) : List GosecFinding := r.found.getD []

/-- What the report says. -/
def outcome (r : GosecReport) : Outcome :=
  if reportsErrors r.errors then .judged .error (r.findings.map GosecFinding.toIssue)
  else if r.findings.isEmpty then .clean
  else
    .judged (if r.findings.any GosecFinding.blocks then .failed else .passed)
      (r.findings.map GosecFinding.toIssue)

end GosecReport

/-- The reader of Gosec's reports, under a name of the tool. -/
def gosecNamed (tool : String) : Reader where
  tool := tool
  read? report := (FromJson.ofText? report).map GosecReport.outcome
  severityOf := wordSeverity

/-- The reader of Gosec's reports. -/
def gosec : Reader := gosecNamed "Gosec"

/-- The reader of Gas' reports. -/
def gas : Reader := gosecNamed "Gas"

end Report
end ScanService
