import ScanService.Distinct
import ScanService.Report.Outcome

/-!
# Enry reports

Enry detects languages.  Its report is an object whose keys are the languages; of any other text the
runs of ASCII letters are taken for them.
-/

namespace ScanService
namespace Report

/-- The languages that some tokens name: without blank ends, in lowercase, each once, in the order
in which they first appear. -/
def normaliseLanguages (tokens : List String) : List String :=
  distinct ((tokens.map fun t => Text.lowercase (Text.trim t)).filter fun t => !t.isEmpty)

/-- An ASCII letter. -/
def isLetter (c : Char) : Bool := ('a' ≤ c && c ≤ 'z') || ('A' ≤ c && c ≤ 'Z')

/-- Cuts a text at everything that is no letter; `run` is the run at hand, latest first. -/
def letterRunsFrom (run : List Char) : List Char → List (List Char)
  | [] => [run.reverse]
  | c :: rest =>
    if isLetter c then letterRunsFrom (c :: run) rest else run.reverse :: letterRunsFrom [] rest

/-- The pieces of a text between characters that are no letters; some may be empty. -/
def letterRuns (s : String) : List String := (letterRunsFrom [] s.toList).map String.ofList

/-- The languages of a report. -/
def detectedLanguages (report : String) : List String :=
  match FromJson.entriesOfText? report with
  | some entries => normaliseLanguages (entries.map (·.1))
  | none => normaliseLanguages (letterRuns report)

/-- The reader of Enry's reports. -/
def enry : Reader where
  tool := "Enry"
  read? report := some ⟨some .passed, none, [], detectedLanguages report⟩
  severityOf _ := .info

end Report
end ScanService
