import ScanService.Report.Outcome

/-!
# RetireJS reports

RetireJS scans JavaScript dependencies.  Its report nests the vulnerabilities of a component in the
results of a file; one issue is made of each, and severity `high` or `medium`, in exactly these
words, fails the job.
-/

namespace ScanService
namespace Report

/-- The severity meant by a word of RetireJS, whatever its case. -/
def retireJsSeverity (word : String) : Severity :=
  let w := Text.lowercase word
  if w = "critical" then .critical
  else if w = "high" then .high
  else if w = "medium" then .medium
  else if w = "low" then .low
  else .info

/-- A vulnerability of a component. -/
structure RetireJsVulnerability where
  severity : String
  info : List String
  below : Option String
  identifiers : Option Json
  deriving Repr

namespace RetireJsVulnerability

/-- The members of a vulnerability. -/
def members : List Member :=
  [⟨"severity", []⟩, ⟨"info", []⟩, ⟨"below", []⟩, ⟨"identifiers", []⟩]

instance : FromJson RetireJsVulnerability where
  read? levels d := do
    let r ← Record.ofDocument? members levels d
    return {
      severity := ← r.orElse "severity" ""
      info := ← r.orElse "info" []
      below := ← r.optional "below"
      identifiers := ← r.orElse "identifiers" none }

/-- Whether the vulnerability fails the job. -/
def blocks (v : RetireJsVulnerability) : Bool := v.severity == "high" || v.severity == "medium"

/-- The summary among the identifiers, if there is one. -/
def summary? (v : RetireJsVulnerability) : Option String :=
  v.identifiers.bind fun ids => (ids.get? "summary").bind Json.text?

/-- The issue that the vulnerability is, in a component of a file. -/
def toIssue (v : RetireJsVulnerability) (file : Option String) (component version : String) :
    Issue where
  severity := retireJsSeverity v.severity
  originalSeverity := v.severity
  confidence := none
  title := component ++ "@" ++ version
  details := v.summary?.getD (" ".intercalate v.info)
  file := file
  line := none
  code := v.below.map ("fixed in " ++ ·)

end RetireJsVulnerability

/-- What was found on one component. -/
structure RetireJsResult where
  component : String
  version : String
  vulnerabilities : List RetireJsVulnerability
  deriving Repr

namespace RetireJsResult

/-- The members of a result. -/
def members : List Member := [⟨"component", []⟩, ⟨"version", []⟩, ⟨"vulnerabilities", []⟩]

instance : FromJson RetireJsResult where
  read? levels d := do
    let r ← Record.ofDocument? members levels d
    return {
      component := ← r.orElse "component" ""
      version := ← r.orElse "version" ""
      vulnerabilities := ← r.orElse "vulnerabilities" [] }

/-- The issues of a result, in a file. -/
def issues (r : RetireJsResult) (file : Option String) : List Issue :=
  r.vulnerabilities.map fun v => v.toIssue file r.component r.version

end RetireJsResult

/-- What was found in one file. -/
structure RetireJsFile where
  file : Option String
  results : List RetireJsResult
  deriving Repr

namespace RetireJsFile

/-- The members of a file. -/
def members : List Member := [⟨"file", []⟩, ⟨"results", []⟩]

instance : FromJson RetireJsFile where
  read? levels d := do
    let r ← Record.ofDocument? members levels d
    return {
      file := ← r.optional "file"
      results := ← r.orElse "results" [] }

/-- The issues of a file. -/
def issues (f : RetireJsFile) : List Issue := f.results.flatMap (·.issues f.file)

/-- The vulnerabilities of a file. -/
def vulnerabilities (f : RetireJsFile) : List RetireJsVulnerability :=
  f.results.flatMap (·.vulnerabilities)

end RetireJsFile

/-- A report of RetireJS. -/
structure RetireJsReport where
  files : List RetireJsFile
  errors : Option Json
  deriving Repr

namespace RetireJsReport

/-- The members of a report. -/
def members : List Member := [⟨"data", []⟩, ⟨"errors", []⟩]

instance : FromJson RetireJsReport where
  read? levels d := do
    let r ← Record.ofDocument? members levels d
    return {
      files := ← r.orElse "data" []
      errors := ← r.orElse "errors" none }

/-- The vulnerabilities of all files. -/
def vulnerabilities (r : RetireJsReport) : List RetireJsVulnerability :=
  r.files.flatMap (·.vulnerabilities)

/-- What the report says. -/
def outcome (r : RetireJsReport) : Outcome :=
  let issues := r.files.flatMap (·.issues)
  if reportsErrors r.errors then .judged .error []
  else if issues.isEmpty then .clean
  else
    .judged (if r.vulnerabilities.any RetireJsVulnerability.blocks then .failed else .passed) issues

end RetireJsReport

/-- The reader of RetireJS' reports. -/
def retireJs : Reader where
  tool := "RetireJS"
  read? report := (FromJson.ofText? report).map RetireJsReport.outcome
  severityOf := retireJsSeverity
  onCloningFailure := .failed

end Report
end ScanService
