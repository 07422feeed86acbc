import ScanService.Json.Read
import ScanService.Text.Blank

/-!
# Issues

An `Issue` is one finding of a scan tool in the shape all tools share.  The severity is normalised,
and the tool's own word for it is kept beside it.
-/

namespace ScanService

/-- How grave an issue is. -/
inductive Severity where
  | critical
  | high
  | medium
  | low
  | info
  deriving DecidableEq, Repr

namespace Severity

/-- The name of a severity in records. -/
def name : Severity → String
  | critical => "Critical"
  | high => "High"
  | medium => "Medium"
  | low => "Low"
  | info => "Info"

/-- All severities by their names. -/
def words : List (String × Severity) :=
  [critical, high, medium, low, info].map fun s => (s.name, s)

/-- Severities in rank order: the graver, the larger. -/
def rank : Severity → Nat
  | critical => 4
  | high => 3
  | medium => 2
  | low => 1
  | info => 0

end Severity

instance : ToJson Severity := ⟨fun s => .text s.name⟩
instance : FromJson Severity := ⟨FromJson.readWord? Severity.words⟩

/-- How sure a tool is that an issue is real. -/
inductive Confidence where
  | high
  | medium
  | low
  deriving DecidableEq, Repr

namespace Confidence

/-- The name of a confidence in records. -/
def name : Confidence → String
  | high => "High"
  | medium => "Medium"
  | low => "Low"

/-- All confidences by their names. -/
def words : List (String × Confidence) :=
  [high, medium, low].map fun c => (c.name, c)

/-- The confidence that a tool's word means, blanks around it and the case of ASCII letters
aside. -/
def ofToolWord? (word : String) : Option Confidence :=
  let w := (Text.strip word.toList).map Char.toUpper
  if w = "HIGH".toList then some high
  else if w = "MEDIUM".toList then some medium
  else if w = "LOW".toList ∨ w = "WEAK".toList then some low
  else none

end Confidence

instance : ToJson Confidence := ⟨fun c => .text c.name⟩
instance : FromJson Confidence := ⟨FromJson.readWord? Confidence.words⟩

/-- One finding of a scan tool. -/
structure Issue where
  /-- The normalised severity. -/
  severity : Severity
  /-- The severity exactly as the tool reported it. -/
  originalSeverity : String
  /-- The tool's confidence, where it has one that is understood. -/
  confidence : Option Confidence
  /-- What was found, in short. -/
  title : String
  /-- What was found, at length. -/
  details : String
  /-- The file it was found in. -/
  file : Option String
  /-- The line of the file. -/
  line : Option String
  /-- The code in question. -/
  code : Option String
  deriving DecidableEq, Repr

namespace Issue

/-- The members of an issue's record. -/
def members : List Member :=
  [⟨"severity", []⟩, ⟨"original_severity", []⟩, ⟨"confidence", []⟩, ⟨"title", []⟩,
    ⟨"details", []⟩, ⟨"file", []⟩, ⟨"line", []⟩, ⟨"code", []⟩]

end Issue

instance : ToJson Issue where
  toJson i := .object
    [("severity", toJson i.severity), ("original_severity", toJson i.originalSeverity),
      ("confidence", toJson i.confidence), ("title", toJson i.title),
      ("details", toJson i.details), ("file", toJson i.file), ("line", toJson i.line),
      ("code", toJson i.code)]

instance : FromJson Issue where
  read? levels d := do
    let r ← Record.ofDocument? Issue.members levels d
    return {
      severity := ← r.required "severity"
      originalSeverity := ← r.required "original_severity"
      confidence := ← r.optional "confidence"
      title := ← r.required "title"
      details := ← r.required "details"
      file := ← r.optional "file"
      line := ← r.optional "line"
      code := ← r.optional "code" }

end ScanService
