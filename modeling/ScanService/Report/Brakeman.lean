import ScanService.Report.Outcome

/-!
# Brakeman reports

Brakeman scans Rails sources.  Every warning fails the job, and so do a failed clone and a report
that cannot be read.  It reports no severity; its confidence stands in for one.
-/

namespace ScanService
namespace Report

/-- The severity that Brakeman's confidence stands for; anything unknown is taken as medium. -/
def brakemanSeverity (word : String) : Severity :=
  let w := Text.lowercase word
  if w = "high" then .high
  else if w = "medium" then .medium
  else if w = "weak" ∨ w = "low" then .low
  else .medium

/-- A warning of Brakeman. -/
structure BrakemanWarning where
  warningType : String
  message : String
  confidence : String
  file : Option String
  line : Option Nat
  code : Option String
  link : Option String
  deriving DecidableEq, Repr

namespace BrakemanWarning

/-- The members of a warning. -/
def members : List Member :=
  [⟨"warning_type", []⟩, ⟨"message", []⟩, ⟨"confidence", []⟩, ⟨"file", []⟩, ⟨"line", []⟩,
    ⟨"code", []⟩, ⟨"link", []⟩]

instance : FromJson BrakemanWarning where
  read? levels d := do
    let r ← Record.ofDocument? members levels d
    return {
      warningType := ← r.orElse "warning_type" ""
      message := ← r.orElse "message" ""
      confidence := ← r.orElse "confidence" ""
      file := ← r.optional "file"
      line := ← r.optional "line"
      code := ← r.optional "code"
      link := ← r.optional "link" }

/-- The issue that the warning reports. -/
def toIssue (w : BrakemanWarning) : Issue where
  severity := brakemanSeverity w.confidence
  originalSeverity := w.confidence
  confidence := Confidence.ofToolWord? w.confidence
  title := w.warningType
  details :=
    match w.link with
    | some link => w.message ++ " (" ++ link ++ ")"
    | none => w.message
  file := w.file
  line := w.line.map Text.decimalText
  code := w.code

end BrakemanWarning

/-- A report of Brakeman. -/
structure BrakemanReport where
  warnings : List BrakemanWarning
  errors : Option Json
  deriving Repr

namespace BrakemanReport

/-- The members of a report. -/
def members : List Member := [⟨"warnings", []⟩, ⟨"errors", []⟩]

instance : FromJson BrakemanReport where
  read? levels d := do
    let r ← Record.ofDocument? members levels d
    return {
      warnings := ← r.orElse "warnings" []
      errors := ← r.orElse "errors" none }

/-- What the report says. -/
def outcome (r : BrakemanReport) : Outcome :=
  if reportsErrors r.errors then .judged .error []
  else if r.warnings.isEmpty then .clean
  else .judged .failed (r.warnings.map BrakemanWarning.toIssue)

end BrakemanReport

/-- The reader of Brakeman's reports. -/
def brakeman : Reader where
  tool := "Brakeman"
  read? report := (FromJson.ofText? report).map BrakemanReport.outcome
  severityOf := brakemanSeverity
  onCloningFailure := .failed
  onUnreadable := .failed

end Report
end ScanService
