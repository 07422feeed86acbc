import ScanService.Proofs.Json.Members
import ScanService.Report.Registry

/-!
# How reports are laid out

The tools that look for flaws all report in one way: a record with one member that lists what was
found and another one for internal errors.  They call these members by different names, and only
what stands in the list differs in kind.

## What is here

* `Layout`, `Layout.items`, `Layout.listsErrors` — where a document lists findings and errors, and
  what it lists.
* `Layout.read?` — how all these reports are read, and `Layout.exists_of_read?` what is read then.
* `BanditReport.layout`, `GosecReport.layout`, `BrakemanReport.layout`, `RetireJsReport.layout`,
  `SafetyReport.layout` — the layouts of the tools.
* `Reader.Takes` — a reader takes a text as a document.
-/

namespace ScanService
namespace Report

open Json (Document)
open Json.Document (listed)

/-- Where the reports of a tool list their findings and internal errors. -/
structure Layout where
  /-- The members of a report. -/
  members : List Member
  /-- The member that lists the findings. -/
  findings : String
  /-- The member for internal errors. -/
  errors : String

namespace Layout

/-- The findings that a document lists, in order. -/
def items (L : Layout) (d : Document) : List Document := listed (d.member? L.members L.findings)

/-- Whether a document lists internal errors. -/
def listsErrors (L : Layout) (d : Document) : Bool :=
  reportsErrors ((d.member? L.members L.errors).bind Document.value?)

variable {α β Report : Type} [FromJson α] [FromJson β] {L : Layout} {default : β}
  {mk : β → Option Json → Report} {levels : Nat} {d : Document}

/-- Reads a report and puts it together from its findings and its errors. -/
def read? (L : Layout) (default : β) (mk : β → Option Json → Report) (levels : Nat)
    (d : Document) : Option Report := do
  let r ← Record.ofDocument? L.members levels d
  let findings ← r.orElse L.findings default
  let errors ← r.orElse L.errors none
  return mk findings errors

/-- In a record, findings and errors are read from their places. -/
theorem read?_eq {r : Record} (hr : Record.ofDocument? L.members (levels + 1) d = some r) :
    L.read? default mk (levels + 1) d =
      ((d.member? L.members L.findings).elim (some default) (FromJson.read? levels)).bind
        fun found => ((d.member? L.members L.errors).elim (some none) (FromJson.read? levels)).map
          (mk found) := by
  obtain rfl : levels = r.levels := Nat.succ.inj (Record.levels_of_ofDocument? hr)
  simp only [read?, hr, ← Record.orElse_eq hr, Option.bind_eq_bind, Option.bind_some]
  refine Option.bind_congr fun found _ => ?_
  cases (r.orElse L.errors none : Option (Option Json)) <;> rfl

/-- Where the errors can be read, the findings tell what is read. -/
theorem read?_of_errors {r : Record} {errors : Option Json}
    (hr : Record.ofDocument? L.members (levels + 1) d = some r)
    (herrors : (d.member? L.members L.errors).elim (some none) (FromJson.read? levels) =
      some errors) :
    L.read? default mk (levels + 1) d =
      ((d.member? L.members L.findings).elim (some default) (FromJson.read? levels)).map
        (mk · errors) := by
  rw [read?_eq hr, herrors, Option.map_eq_bind]
  rfl

/-- The value of a place tells whether errors are listed there, however deep it may be nested. -/
theorem reportsErrors_of_elim {place : Option Document} {errors : Option Json}
    (hlevels : levels ≤ nestingLimit)
    (h : place.elim (some none) (FromJson.read? levels) = some errors) :
    reportsErrors (place.bind Document.value?) = reportsErrors errors := by
  rcases value?_of_elim hlevels h with hvalue | ⟨rfl, hnull⟩
  · rw [hvalue]
  · rw [hnull]
    rfl

/-- **What is read from a document is what it lists.** -/
theorem exists_of_read? {report : Report} (hlevels : levels < nestingLimit)
    (h : L.read? default mk (levels + 1) d = some report) :
    ∃ found errors, report = mk found errors ∧
      (d.member? L.members L.findings).elim (some default) (FromJson.read? levels) = some found ∧
      reportsErrors errors = L.listsErrors d := by
  obtain ⟨r, hr, -⟩ := Option.bind_eq_some_iff.mp h
  rw [read?_eq hr] at h
  obtain ⟨found, hfound, h⟩ := Option.bind_eq_some_iff.mp h
  obtain ⟨errors, herrors, rfl⟩ := Option.map_eq_some_iff.mp h
  exact ⟨found, errors, rfl, hfound, (reportsErrors_of_elim (Nat.le_of_lt hlevels) herrors).symm⟩

end Layout

/-! ## The tools -/

/-- The layout of a report of Bandit. -/
def BanditReport.layout : Layout := ⟨BanditReport.members, "results", "errors"⟩

/-- The layout of a report of Gosec. -/
def GosecReport.layout : Layout := ⟨GosecReport.members, "Issues", "Golang errors"⟩

/-- The layout of a report of Brakeman. -/
def BrakemanReport.layout : Layout := ⟨BrakemanReport.members, "warnings", "errors"⟩

/-- The layout of a report of RetireJS. -/
def RetireJsReport.layout : Layout := ⟨RetireJsReport.members, "data", "errors"⟩

/-- The layout of a report of Safety that is an object. -/
def SafetyReport.layout : Layout := ⟨SafetyReport.members, "SafetyIssues", "errors"⟩

variable {levels : Nat} {d : Document}

theorem BanditReport.read?_eq : (FromJson.read? levels d : Option BanditReport) =
    BanditReport.layout.read? [] BanditReport.mk levels d := rfl

theorem GosecReport.read?_eq : (FromJson.read? levels d : Option GosecReport) =
    GosecReport.layout.read? none GosecReport.mk levels d := rfl

theorem BrakemanReport.read?_eq : (FromJson.read? levels d : Option BrakemanReport) =
    BrakemanReport.layout.read? [] BrakemanReport.mk levels d := rfl

theorem RetireJsReport.read?_eq : (FromJson.read? levels d : Option RetireJsReport) =
    RetireJsReport.layout.read? [] RetireJsReport.mk levels d := rfl

/-! ## Texts -/

/-- A reader takes a text as a document, and comes to an outcome. -/
structure Reader.Takes (r : Reader) (report : String) (d : Document) (o : Outcome) : Prop where
  /-- The document is that of the text. -/
  parse : Document.parse? report.toList = some d
  /-- The outcome is what the reader makes of the text. -/
  read : r.read? report = some o

variable {α : Type} [FromJson α] {r : Reader} {outcome : α → Outcome} {report : String}
  {o : Outcome}

/-- A reader of reports of one kind makes of a text what the report in its document says. -/
theorem Reader.read?_eq (hr : ∀ report, r.read? report = (FromJson.ofText? report).map outcome)
    (hd : Document.parse? report.toList = some d) :
    r.read? report = (FromJson.read? nestingLimit d).map outcome := by
  rw [hr, FromJson.ofText?, hd, Option.bind_some]

/-- Every text that such a reader takes is that of a document. -/
theorem Reader.exists_takes (hr : ∀ report, r.read? report = (FromJson.ofText? report).map outcome)
    (h : r.read? report = some o) : ∃ d, r.Takes report d o := by
  have hread := h
  rw [hr] at hread
  obtain ⟨rep, hrep, -⟩ := Option.map_eq_some_iff.mp hread
  obtain ⟨d, hd, -⟩ := Option.bind_eq_some_iff.mp hrep
  exact ⟨d, hd, h⟩

/-- What it makes of the text is the outcome of the report in the document. -/
theorem Reader.Takes.exists_report
    (hr : ∀ report, r.read? report = (FromJson.ofText? report).map outcome)
    (h : r.Takes report d o) :
    ∃ rep, FromJson.read? nestingLimit d = some rep ∧ outcome rep = o := by
  have hread := h.read
  rw [Reader.read?_eq hr h.parse] at hread
  exact Option.map_eq_some_iff.mp hread

end Report
end ScanService
