import Mathlib.Algebra.GroupWithZero.Nat
import ScanService.Proofs.Report.Layout

/-!
# Vulnerabilities in nested reports

A report of RetireJS nests vulnerabilities in components, and components in files.  Its issues are
the vulnerabilities in the order in which the document has them, each with what the levels around it
say.  Nothing of this depends on how many there are on each level, or whether there are any.

## What is here

* `Site`, `sites` — the vulnerabilities of a document, each with the component and the file that it
  is listed under.
* `Site.issue` — the issue that a site comes to, told from the document.
* `RetireJsReport.issues_eq` — the issues of a report are those of the sites of its document.
* `retireJs_flattens` — **without internal errors, issues, verdict and output are told by the
  sites.**
-/

namespace ScanService
namespace Report

open Json (Document)
open Json.Document (saidText saidText? listed)
open FromJson (read?)

/-! ## Sites -/

/-- A vulnerability with what it is listed under. -/
structure Site where
  /-- The file. -/
  file : Document
  /-- The component in the file. -/
  component : Document
  /-- The vulnerability of the component. -/
  vulnerability : Document

namespace Site

/-- The tool's word for the severity. -/
def severity (s : Site) : String :=
  saidText (s.vulnerability.member? RetireJsVulnerability.members "severity")

/-- The path of the file. -/
def path? (s : Site) : Option String := saidText? (s.file.member? RetireJsFile.members "file")

/-- Name and version of the component. -/
def title (s : Site) : String :=
  saidText (s.component.member? RetireJsResult.members "component") ++ "@" ++
    saidText (s.component.member? RetireJsResult.members "version")

/-- The summary among the identifiers, if it is a text. -/
def summary? (s : Site) : Option String :=
  ((s.vulnerability.member? RetireJsVulnerability.members "identifiers").bind
    Document.value?).bind fun ids => (ids.get? "summary").bind Json.text?

/-- The further information on the vulnerability. -/
def info (s : Site) : List String :=
  (listed (s.vulnerability.member? RetireJsVulnerability.members "info")).map fun d =>
    saidText (some d)

/-- The version in which the vulnerability is fixed. -/
def fixedIn? (s : Site) : Option String :=
  saidText? (s.vulnerability.member? RetireJsVulnerability.members "below")

/-- The issue that a site comes to. -/
def issue (s : Site) : Issue where
  severity := retireJsSeverity s.severity
  originalSeverity := s.severity
  confidence := none
  title := s.title
  details := s.summary?.getD (" ".intercalate s.info)
  file := s.path?
  line := none
  code := s.fixedIn?.map ("fixed in " ++ ·)

/-- A site that fails the job. -/
def Blocks (s : Site) : Prop := s.severity = "high" ∨ s.severity = "medium"

instance : DecidablePred Blocks := fun _ => inferInstanceAs (Decidable (_ ∨ _))

end Site

/-- The components that are listed in a file. -/
def componentsOf (file : Document) : List Document :=
  listed (file.member? RetireJsFile.members "results")

/-- The vulnerabilities that are listed for a component. -/
def vulnerabilitiesOf (component : Document) : List Document :=
  listed (component.member? RetireJsResult.members "vulnerabilities")

/-- The sites of a document, in order. -/
def sites (d : Document) : List Site :=
  (RetireJsReport.layout.items d).flatMap fun file => (componentsOf file).flatMap fun component =>
    (vulnerabilitiesOf component).map fun vulnerability => ⟨file, component, vulnerability⟩

/-! ## From documents to reports -/

section Records

variable {levels : Nat} {d : Document}

/-- A vulnerability is read member by member. -/
theorem RetireJsVulnerability.read?_eq_some_iff {v : RetireJsVulnerability} :
    read? levels d = some v ↔ ∃ r, Record.ofDocument? members levels d = some r ∧
      r.orElse "severity" "" = some v.severity ∧ r.orElse "info" [] = some v.info ∧
      r.optional "below" = some v.below ∧ r.orElse "identifiers" none = some v.identifiers := by
  simp only [read?, Option.bind_eq_bind, Option.bind_eq_some_iff]
  constructor
  · rintro ⟨r, hr, _, hseverity, _, hinfo, _, hbelow, _, hids, h⟩
    cases h
    exact ⟨r, hr, hseverity, hinfo, hbelow, hids⟩
  · rintro ⟨r, hr, hseverity, hinfo, hbelow, hids⟩
    exact ⟨r, hr, _, hseverity, _, hinfo, _, hbelow, _, hids, rfl⟩

/-- A component is read member by member. -/
theorem RetireJsResult.read?_eq_some_iff {c : RetireJsResult} :
    read? levels d = some c ↔ ∃ r, Record.ofDocument? members levels d = some r ∧
      r.orElse "component" "" = some c.component ∧ r.orElse "version" "" = some c.version ∧
      r.orElse "vulnerabilities" [] = some c.vulnerabilities := by
  simp only [read?, Option.bind_eq_bind, Option.bind_eq_some_iff]
  constructor
  · rintro ⟨r, hr, _, hcomponent, _, hversion, _, hfound, h⟩
    cases h
    exact ⟨r, hr, hcomponent, hversion, hfound⟩
  · rintro ⟨r, hr, hcomponent, hversion, hfound⟩
    exact ⟨r, hr, _, hcomponent, _, hversion, _, hfound, rfl⟩

/-- A file is read member by member. -/
theorem RetireJsFile.read?_eq_some_iff {f : RetireJsFile} :
    read? levels d = some f ↔ ∃ r, Record.ofDocument? members levels d = some r ∧
      r.optional "file" = some f.file ∧ r.orElse "results" [] = some f.results := by
  simp only [read?, Option.bind_eq_bind, Option.bind_eq_some_iff]
  constructor
  · rintro ⟨r, hr, _, hfile, _, hresults, h⟩
    cases h
    exact ⟨r, hr, hfile, hresults⟩
  · rintro ⟨r, hr, hfile, hresults⟩
    exact ⟨r, hr, _, hfile, _, hresults, rfl⟩

end Records

/-- Lists that correspond one by one come to the same if their members do. -/
theorem flatMap_eq_of_forall₂ {α β γ : Type} {R : α → β → Prop} {f : α → List γ} {g : β → List γ}
    {as : List α} {bs : List β} (h : List.Forall₂ R as bs) (hfg : ∀ a b, R a b → f a = g b) :
    as.flatMap f = bs.flatMap g := by
  induction h with
  | nil => rfl
  | cons hab _ ih => rw [List.flatMap_cons, List.flatMap_cons, hfg _ _ hab, ih]

theorem map_eq_of_forall₂ {α β γ : Type} {R : α → β → Prop} {f : α → γ} {g : β → γ}
    {as : List α} {bs : List β} (h : List.Forall₂ R as bs) (hfg : ∀ a b, R a b → f a = g b) :
    as.map f = bs.map g := by
  induction h with
  | nil => rfl
  | cons hab _ ih => rw [List.map_cons, List.map_cons, hfg _ _ hab, ih]

section

variable {levels : Nat} {file component d : Document}

/-- A vulnerability is an issue by what its document says. -/
theorem RetireJsVulnerability.toIssue_eq {v : RetireJsVulnerability}
    (hlevels : levels ≤ nestingLimit) (h : read? levels d = some v) :
    v.toIssue (saidText? (file.member? RetireJsFile.members "file"))
      (saidText (component.member? RetireJsResult.members "component"))
      (saidText (component.member? RetireJsResult.members "version")) =
      Site.issue ⟨file, component, d⟩ := by
  obtain ⟨r, hr, hseverity, hinfo, hbelow, hids⟩ := read?_eq_some_iff.mp h
  rw [Record.orElse_eq hr] at hseverity hinfo hids
  have hlevel : r.levels ≤ nestingLimit := by
    have := Record.levels_of_ofDocument? hr
    omega
  have hsummary : v.summary? = Site.summary? ⟨file, component, d⟩ := by
    rw [Site.summary?, summary?]
    rcases value?_of_elim hlevel hids with hvalue | ⟨hnone, hnull⟩
    · rw [hvalue]
    · rw [hnone, hnull]
      rfl
  have hinfo : v.info = Site.info ⟨file, component, d⟩ := by
    rw [Site.info, map_eq_of_forall₂ (forall₂_listed hinfo) fun _ _ => saidText_of_read?,
      List.map_id']
  rw [toIssue, hsummary, ← saidText_of_elim hseverity, hinfo,
    ← saidText?_of_elim (Record.elim_of_optional hr hbelow)]
  rfl

/-- A component has the issues of the vulnerabilities that are listed for it. -/
theorem RetireJsResult.issues_eq {c : RetireJsResult} (hlevels : levels ≤ nestingLimit)
    (h : read? levels component = some c) :
    c.issues (saidText? (file.member? RetireJsFile.members "file")) =
      (vulnerabilitiesOf component).map fun d => Site.issue ⟨file, component, d⟩ := by
  obtain ⟨r, hr, hname, hversion, hfound⟩ := read?_eq_some_iff.mp h
  have hlevel := Record.levels_of_ofDocument? hr
  rw [Record.orElse_eq hr] at hname hversion hfound
  rw [issues, ← saidText_of_elim hname, ← saidText_of_elim hversion, vulnerabilitiesOf]
  exact (map_eq_of_forall₂ (forall₂_listed hfound) fun _ _ hv =>
    (RetireJsVulnerability.toIssue_eq (by omega) hv).symm).symm

/-- A file has the issues of the components that are listed in it. -/
theorem RetireJsFile.issues_eq {f : RetireJsFile} (hlevels : levels ≤ nestingLimit)
    (h : read? levels file = some f) :
    f.issues = (componentsOf file).flatMap fun component =>
      (vulnerabilitiesOf component).map fun d => Site.issue ⟨file, component, d⟩ := by
  obtain ⟨r, hr, hpath, hresults⟩ := read?_eq_some_iff.mp h
  have hlevel := Record.levels_of_ofDocument? hr
  rw [Record.orElse_eq hr] at hresults
  rw [issues, ← saidText?_of_elim (Record.elim_of_optional hr hpath), componentsOf]
  exact (flatMap_eq_of_forall₂ (forall₂_listed hresults) fun _ _ hresult =>
    (RetireJsResult.issues_eq (by omega) hresult).symm).symm

/-- **The issues of a report are those of the sites of its document, in order.** -/
theorem RetireJsReport.issues_eq {files : List RetireJsFile}
    (h : List.Forall₂ (fun d f => read? (nestingLimit - 2) d = some f)
      (RetireJsReport.layout.items d) files) :
    files.flatMap RetireJsFile.issues = (sites d).map Site.issue := by
  rw [sites, List.map_flatMap]
  refine (flatMap_eq_of_forall₂ h fun file f hf => ?_).symm
  rw [RetireJsFile.issues_eq (by decide) hf, List.map_flatMap]
  simp only [List.map_map]
  rfl

end

/-! ## Verdicts -/

/-- The severities of the vulnerabilities are those that the issues have from the tool. -/
theorem RetireJsReport.map_severity_vulnerabilities (report : RetireJsReport) :
    report.vulnerabilities.map (·.severity) =
      (report.files.flatMap RetireJsFile.issues).map (·.originalSeverity) := by
  simp only [vulnerabilities, RetireJsFile.vulnerabilities, RetireJsFile.issues,
    RetireJsResult.issues, List.map_flatMap, List.map_map]
  rfl

/-- Whether the vulnerabilities of a report fail the job is told by the issues. -/
theorem RetireJsReport.any_blocks (report : RetireJsReport) :
    report.vulnerabilities.any RetireJsVulnerability.blocks =
      (report.files.flatMap RetireJsFile.issues).any fun i =>
        i.originalSeverity == "high" || i.originalSeverity == "medium" := by
  have h := congrArg (List.any · fun word => word == "high" || word == "medium")
    report.map_severity_vulnerabilities
  rwa [List.any_map, List.any_map] at h

/-- The verdict on a report asks for a vulnerability that blocks; internal errors outrank all. -/
theorem RetireJsReport.verdict_outcome_eq (r : RetireJsReport) : r.outcome.verdict =
    some (if reportsErrors r.errors then .error
      else if r.vulnerabilities.any RetireJsVulnerability.blocks then .failed else .passed) := by
  rw [any_blocks, outcome, any_blocks]
  cases reportsErrors r.errors with
  | true => rfl
  | false => cases r.files.flatMap RetireJsFile.issues <;> rfl

/-- Without internal errors, the issues of all files are recorded. -/
theorem RetireJsReport.issues_outcome {r : RetireJsReport} (h : reportsErrors r.errors = false) :
    r.outcome.issues = r.files.flatMap RetireJsFile.issues := by
  rw [outcome, h]
  cases r.files.flatMap RetireJsFile.issues <;> rfl

/-- Without internal errors, the output is replaced if there are no issues. -/
theorem RetireJsReport.output_outcome {r : RetireJsReport} (h : reportsErrors r.errors = false) :
    r.outcome.output =
      if r.files.flatMap RetireJsFile.issues = [] then some noIssues else none := by
  rw [outcome, h]
  cases r.files.flatMap RetireJsFile.issues <;> rfl

/-- What comes of a document that lists no internal errors. -/
structure Flattens (d : Document) (o : Outcome) : Prop where
  /-- There is an issue for each site, in order. -/
  issues : o.issues = (sites d).map Site.issue
  /-- There are as many as vulnerabilities are listed, over all components of all files. -/
  count : o.issues.length = ((RetireJsReport.layout.items d).map fun file =>
    ((componentsOf file).map fun component => (vulnerabilitiesOf component).length).sum).sum
  /-- The verdict asks for a site that fails the job. -/
  verdict : o.verdict = some (if ∃ s ∈ sites d, s.Blocks then .failed else .passed)
  /-- The output is replaced where there is no site at all. -/
  output : o.output = if sites d = [] then some noIssues else none

/-- The number of sites is the sum over the levels of the document. -/
theorem length_sites (d : Document) :
    (sites d).length = ((RetireJsReport.layout.items d).map fun file =>
      ((componentsOf file).map fun component => (vulnerabilitiesOf component).length).sum).sum := by
  simp only [sites, List.length_flatMap, List.length_map]

/-- **Where no internal errors are listed, the sites tell what comes of a document.** -/
theorem RetireJsReport.flattens {report : RetireJsReport} (h : read? nestingLimit d = some report)
    (herrors : RetireJsReport.layout.listsErrors d = false) : Flattens d report.outcome := by
  rw [RetireJsReport.read?_eq] at h
  obtain ⟨files, errors, rfl, hfiles, hreports⟩ := Layout.exists_of_read? (by decide) h
  have hnone : reportsErrors (RetireJsReport.mk files errors).errors = false :=
    hreports.trans herrors
  have hissues : files.flatMap RetireJsFile.issues = (sites d).map Site.issue :=
    issues_eq (forall₂_listed hfiles)
  refine ⟨?issues, ?count, ?verdict, ?output⟩
  case issues => rw [issues_outcome hnone, hissues]
  case count => rw [issues_outcome hnone, hissues, List.length_map, length_sites]
  case verdict =>
    rw [verdict_outcome_eq, if_neg (Bool.eq_false_iff.mp hnone)]
    refine congrArg some (if_congr ?_ rfl rfl)
    rw [any_blocks, hissues, List.any_map, List.any_eq_true]
    simp only [Function.comp_apply, Site.issue, Site.Blocks, Bool.or_eq_true, beq_iff_eq]
  case output =>
    rw [output_outcome hnone, hissues]
    simp only [List.map_eq_nil_iff]

/-! ## Texts -/

/-- **RetireJS' nested reports are flattened.**  Every text that the reader takes is that of a
document, and if that lists no internal errors, the issues are its sites in order, with what each of
them says; the verdict asks for a site of a blocking severity, and the output is replaced where
there is no site. -/
theorem retireJs_flattens {report : String} {o : Outcome} (h : retireJs.read? report = some o) :
    ∃ d, retireJs.Takes report d o ∧
      (RetireJsReport.layout.listsErrors d = false → Flattens d o) := by
  obtain ⟨d, htakes⟩ := Reader.exists_takes (fun _ => rfl) h
  obtain ⟨rep, hrep, rfl⟩ := htakes.exists_report fun _ => rfl
  exact ⟨d, htakes, RetireJsReport.flattens hrep⟩

/-- Two vulnerabilities of one component, in a report that is a list. -/
theorem retireJs_flattens_sample : ∃ d o,
    retireJs.Takes "[[[\"b\",[[\"c\",\"1\",[[\"high\",[\"x\",\"y\"],null],\x7b\x7d]]]]]]" d o ∧
    Flattens d o ∧ (sites d).length = 2 ∧ o.verdict = some .failed ∧
    o.issues.map (·.file) = [some "b", some "b"] ∧ o.issues.map (·.title) = ["c@1", "c@1"] ∧
    o.issues.map (·.details) = ["x y", ""] := by
  have hparse : Document.parse?
      "[[[\"b\",[[\"c\",\"1\",[[\"high\",[\"x\",\"y\"],null],\x7b\x7d]]]]]]".toList =
      some (.array [.array [.array [.text (some "b"), .array [.array [.text (some "c"),
        .text (some "1"), .array [
          .array [.text (some "high"), .array [.text (some "x"), .text (some "y")], .null],
          .object []]]]]]]) := rfl
  have hread := (Reader.read?_eq (r := retireJs) (fun _ => rfl) hparse).trans rfl
  obtain ⟨d, htakes, hflattens⟩ := retireJs_flattens hread
  cases htakes.parse.symm.trans hparse
  exact ⟨_, _, htakes, hflattens rfl, rfl, rfl, rfl, rfl, rfl⟩

end Report
end ScanService
