import ScanService.Report.Outcome

/-!
# Safety reports

Safety scans Python dependencies.  It writes either a list of rows or an object around a list of
issues; rows are tried first.  Every issue fails the job, and a report without issues leaves the job
without a verdict.

A report is read whole before it is looked at, so nothing in it may be without a value, not even in
members that are skipped.
-/

namespace ScanService
namespace Report

/-- An issue of Safety, from either format. -/
structure SafetyIssue where
  dependency : String
  below : String
  version : String
  comment : String
  id : Json
  deriving Repr

namespace SafetyIssue

/-- The members of an issue in the wrapped format. -/
def members : List Member :=
  [⟨"Dependency", []⟩, ⟨"Below", []⟩, ⟨"Version", []⟩, ⟨"Comment", []⟩, ⟨"ID", []⟩]

instance : FromJson SafetyIssue where
  read? levels d := do
    let r ← Record.ofDocument? members levels d
    return {
      dependency := ← r.orElse "Dependency" ""
      below := ← r.orElse "Below" ""
      version := ← r.orElse "Version" ""
      comment := ← r.orElse "Comment" ""
      id := ← r.orElse "ID" .null }

/-- Reads a row: package, affected versions, installed version, advisory and identifier. -/
def ofRow? (levels : Nat) : Json.Document → Option SafetyIssue
  | .array [package, spec, version, advisory, id] =>
    match levels with
    | 0 => none
    | levels + 1 => do
      return {
        dependency := ← FromJson.read? levels package
        below := ← FromJson.read? levels spec
        version := ← FromJson.read? levels version
        comment := ← FromJson.read? levels advisory
        id := ← FromJson.read? levels id }
  | _ => none

/-- An identifier in brackets, unless there is none. -/
def idNote : Json → String
  | .null => ""
  | .text id => " (" ++ id ++ ")"
  | id => " (" ++ id.toText ++ ")"

/-- The issue in the shape all tools share.  Safety reports no severity; each advisory counts as
high. -/
def toIssue (i : SafetyIssue) : Issue where
  severity := .high
  originalSeverity := ""
  confidence := none
  title := i.dependency ++ idNote i.id
  details := i.comment
  file := none
  line := none
  code := some (i.dependency ++ "==" ++ i.version ++ " (affected " ++ i.below ++ ")")

end SafetyIssue

/-- A report of Safety. -/
structure SafetyReport where
  found : List SafetyIssue
  errors : Option Json
  deriving Repr

namespace SafetyReport

/-- The members of the wrapped format. -/
def members : List Member := [⟨"SafetyIssues", ["issues"]⟩, ⟨"errors", []⟩]

/-- Reads the list of rows. -/
def ofRows? : Nat → Json.Document → Option SafetyReport
  | levels + 1, .array rows => (rows.mapM (SafetyIssue.ofRow? levels)).map fun found => ⟨found, none⟩
  | _, _ => none

/-- Reads the wrapped format, which is always an object. -/
def ofWrapped? (levels : Nat) : Json.Document → Option SafetyReport
  | .object entries => do
    let r ← Record.ofDocument? members levels (.object entries)
    return {
      found := ← r.orElse "SafetyIssues" []
      errors := ← r.orElse "errors" none }
  | _ => none

instance : FromJson SafetyReport where
  read? levels d :=
    if d.isReadable levels then (ofRows? levels d).orElse fun _ => ofWrapped? levels d else none

/-- What the report says. -/
def outcome (r : SafetyReport) : Outcome :=
  if reportsErrors r.errors then .judged .error []
  else if r.found.isEmpty then ⟨none, some noIssues, [], []⟩
  else .judged .failed (r.found.map SafetyIssue.toIssue)

end SafetyReport

/-- The reader of Safety's reports. -/
def safety : Reader where
  tool := "Safety"
  read? report := (FromJson.ofText? report).map SafetyReport.outcome
  severityOf _ := .high

end Report
end ScanService
