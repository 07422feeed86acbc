import ScanService.Proofs.Json.Documents
import ScanService.Proofs.Report.Layout

/-!
# Findings with a severity and a confidence

Bandit and Gosec grade each finding by a severity and a confidence, in words that each of them keeps
under names of its own.  The policy asks for nothing else: it is said here of the grades that a
document lists, in whichever of its forms it is written, and both tools follow it.

## What is here

* `Grade`, `Grade.verdict` — the policy.
* `GradedFormat`, `banditFormat`, `gosecFormat` — where documents have grades.
* `GradedFormat.Follows` — what comes of a document by the policy.
* `BanditReport.follows`, `GosecReport.follows` — both tools follow it.
* `graded_reports_agree` — **both tools follow the policy on all documents that they take, so that
  they come to the same on equal grades, and there is a document of both for any grades.**
-/

namespace ScanService
namespace Report

open Json (Document)
open Json.Document (saidText listed)
open FromJson (read?)

/-! ## The policy -/

/-- The severity and the confidence of a finding, in the tool's words. -/
structure Grade where
  severity : String
  confidence : String
  deriving DecidableEq, Repr

namespace Grade

/-- A finding that fails the job: it is certain, and of more than low severity. -/
def Blocks (g : Grade) : Prop :=
  (g.severity = "HIGH" ∨ g.severity = "MEDIUM") ∧ g.confidence = "HIGH"

instance : DecidablePred Blocks := fun _ => inferInstanceAs (Decidable (_ ∧ _))

/-- The verdict on some findings; errors of the tool outrank them all. -/
def verdict (erred : Bool) (grades : List Grade) : Verdict :=
  if erred then .error else if ∃ g ∈ grades, g.Blocks then .failed else .passed

theorem isBlocking_iff (severity confidence : String) :
    isBlocking severity confidence = true ↔ Blocks ⟨severity, confidence⟩ := by
  rw [isBlocking, Bool.and_eq_true, Bool.or_eq_true, beq_iff_eq, beq_iff_eq, beq_iff_eq, Blocks]

end Grade

/-! ## Documents with grades -/

/-- Where the reports of a tool grade their findings. -/
structure GradedFormat extends Layout where
  /-- The members of a finding. -/
  finding : List Member
  /-- The member for the severity. -/
  severity : String
  /-- The member for the confidence. -/
  confidence : String
  /-- The issue that a finding is. -/
  issue? : Document → Option Issue

namespace GradedFormat

/-- The grade of a finding as it is reported. -/
def grade (F : GradedFormat) (x : Document) : Grade :=
  ⟨saidText (x.member? F.finding F.severity), saidText (x.member? F.finding F.confidence)⟩

/-- The grades that a document lists, in order. -/
def grades (F : GradedFormat) (d : Document) : List Grade := (F.items d).map F.grade

/-- An issue is that of a finding, graded as it is reported. -/
structure Makes (F : GradedFormat) (x : Document) (i : Issue) : Prop where
  /-- It is what the finding says. -/
  issue : F.issue? x = some i
  /-- The tool's word for the severity is kept. -/
  original : i.originalSeverity = (F.grade x).severity
  /-- The severity is what the word means. -/
  severity : i.severity = wordSeverity (F.grade x).severity
  /-- The confidence is what its word means. -/
  confidence : i.confidence = Confidence.ofToolWord? (F.grade x).confidence

/-- What comes of a document by the policy. -/
structure Follows (F : GradedFormat) (d : Document) (o : Outcome) : Prop where
  /-- There is one issue for each finding, in order, whether there are errors or not. -/
  issues : List.Forall₂ F.Makes (F.items d) o.issues
  /-- The verdict is that on the grades. -/
  verdict : o.verdict = some (Grade.verdict (F.listsErrors d) (F.grades d))
  /-- The report is replaced if it lists neither findings nor errors. -/
  output : o.output = if F.items d = [] ∧ F.listsErrors d = false then some noIssues else none

variable {F G : GradedFormat} {d : Document}

theorem Makes.of_grade_eq {x : Document} {i : Issue} {confidence : String}
    (hissue : F.issue? x = some i) (hgrade : F.grade x = ⟨i.originalSeverity, confidence⟩)
    (hseverity : i.severity = wordSeverity i.originalSeverity)
    (hconfidence : i.confidence = Confidence.ofToolWord? confidence) : F.Makes x i := by
  refine ⟨hissue, ?_, ?_, ?_⟩ <;> rw [hgrade]
  · exact hseverity
  · exact hconfidence

/-- The outcome in the order in which the readers look at it follows the policy. -/
theorem follows_of_found {Finding : Type} {found : List Finding} {toIssue : Finding → Issue}
    {blocks : Finding → Bool} {erred : Bool} (herred : erred = F.listsErrors d)
    (hfound : List.Forall₂ (fun x f => F.Makes x (toIssue f) ∧
      (blocks f = true ↔ (F.grade x).Blocks)) (F.items d) found) :
    F.Follows d (if erred then .judged .error (found.map toIssue)
      else if found.isEmpty then .clean
      else .judged (if found.any blocks then .failed else .passed) (found.map toIssue)) := by
  have hblocks : found.any blocks = true ↔ ∃ g ∈ F.grades d, g.Blocks := by
    simp only [grades, List.mem_map, exists_exists_and_eq_and, List.any_eq_true]
    generalize F.items d = items at hfound
    induction hfound with
    | nil => simp
    | cons hx _ ih => simp only [List.exists_mem_cons_iff, hx.2, ih]
  have hissues : List.Forall₂ F.Makes (F.items d) (found.map toIssue) :=
    List.forall₂_map_right_iff.mpr (hfound.imp fun _ _ h => h.1)
  have hempty : F.items d = [] ↔ found = [] := by
    rw [← List.length_eq_zero_iff, hfound.length_eq, List.length_eq_zero_iff]
  cases erred with
  | true => exact ⟨hissues, by simp [Outcome.judged, Grade.verdict, ← herred],
      by simp [Outcome.judged, ← herred]⟩
  | false =>
    cases found with
    | nil =>
      have hnone : F.items d = [] := hempty.mpr rfl
      exact ⟨hissues, by simp [Outcome.clean, Grade.verdict, ← herred, grades, hnone],
        by simp [Outcome.clean, ← herred, hnone]⟩
    | cons f rest =>
      have hsome : F.items d ≠ [] := fun h => List.cons_ne_nil f rest (hempty.mp h)
      refine ⟨hissues, ?_, by simp [Outcome.judged, hsome]⟩
      simp only [Outcome.judged, Grade.verdict, ← herred, ← hblocks]
      rfl

/-- **Documents with equal grades come to the same verdict and to issues of the same severities and
confidences**, in whichever format they are. -/
theorem Follows.agree {d e : Document} {o p : Outcome} (ho : F.Follows d o) (hp : G.Follows e p)
    (hgrades : F.grades d = G.grades e) (herrors : F.listsErrors d = G.listsErrors e) :
    o.verdict = p.verdict ∧ o.issues.map (·.severity) = p.issues.map (·.severity) ∧
      o.issues.map (·.confidence) = p.issues.map (·.confidence) := by
  have hof {F : GradedFormat} {d : Document} {o : Outcome} (h : F.Follows d o) :
      o.issues.map (·.severity) = (F.grades d).map (wordSeverity ·.severity) ∧
        o.issues.map (·.confidence) =
          (F.grades d).map (Confidence.ofToolWord? ·.confidence) := by
    have hissues := h.issues
    rw [grades]
    generalize F.items d = items, o.issues = issues at hissues ⊢
    induction hissues with
    | nil => exact ⟨rfl, rfl⟩
    | cons hx _ ih => simp only [List.map_cons, hx.severity, hx.confidence, ih, and_self]
  exact ⟨by rw [ho.verdict, hp.verdict, hgrades, herrors],
    by rw [(hof ho).1, (hof hp).1, hgrades], by rw [(hof ho).2, (hof hp).2, hgrades]⟩

end GradedFormat

/-! ## The tools -/

/-- Where reports of Bandit grade their findings. -/
def banditFormat : GradedFormat where
  toLayout := BanditReport.layout
  finding := BanditFinding.members
  severity := "issue_severity"
  confidence := "issue_confidence"
  issue? x := (read? (nestingLimit - 2) x : Option BanditFinding).map BanditFinding.toIssue

/-- Where reports of Gosec grade their findings. -/
def gosecFormat : GradedFormat where
  toLayout := GosecReport.layout
  finding := GosecFinding.members
  severity := "severity"
  confidence := "confidence"
  issue? x := (read? (nestingLimit - 2) x : Option GosecFinding).map GosecFinding.toIssue

/-- A finding of Bandit is graded as it is reported. -/
theorem BanditFinding.grade_eq {levels : Nat} {x : Document} {f : BanditFinding}
    (h : read? levels x = some f) : banditFormat.grade x = ⟨f.severity, f.confidence⟩ := by
  simp only [read?, Option.bind_eq_bind, Option.bind_eq_some_iff] at h
  obtain ⟨r, hr, severity, hseverity, confidence, hconfidence, h⟩ := h
  obtain ⟨_, -, _, -, _, -, _, -, _, -, _, -, h⟩ := h
  cases h
  rw [Record.orElse_eq hr] at hseverity hconfidence
  rw [GradedFormat.grade, ← saidText_of_elim hseverity, ← saidText_of_elim hconfidence]
  rfl

/-- A finding of Gosec is graded as it is reported. -/
theorem GosecFinding.grade_eq {levels : Nat} {x : Document} {f : GosecFinding}
    (h : read? levels x = some f) : gosecFormat.grade x = ⟨f.severity, f.confidence⟩ := by
  simp only [read?, Option.bind_eq_bind, Option.bind_eq_some_iff] at h
  obtain ⟨r, hr, severity, hseverity, confidence, hconfidence, h⟩ := h
  obtain ⟨_, -, _, -, _, -, _, -, _, -, h⟩ := h
  cases h
  rw [Record.orElse_eq hr] at hseverity hconfidence
  rw [GradedFormat.grade, ← saidText_of_elim hseverity, ← saidText_of_elim hconfidence]
  rfl

/-- **Bandit follows the policy.** -/
theorem BanditReport.follows {d : Document} {report : BanditReport}
    (h : read? nestingLimit d = some report) : banditFormat.Follows d report.outcome := by
  rw [BanditReport.read?_eq] at h
  obtain ⟨found, errors, rfl, hfound, herrors⟩ := Layout.exists_of_read? (by decide) h
  rw [BanditReport.outcome_eq]
  refine GradedFormat.follows_of_found herrors ((forall₂_listed hfound).imp fun x f hf => ?_)
  have hgrade := BanditFinding.grade_eq hf
  refine ⟨.of_grade_eq (congrArg (Option.map _) hf) hgrade rfl rfl, ?_⟩
  rw [hgrade]
  exact Grade.isBlocking_iff _ _

/-- **Gosec follows the policy**, also where its list of findings is `null` or left out. -/
theorem GosecReport.follows {d : Document} {report : GosecReport}
    (h : read? nestingLimit d = some report) : gosecFormat.Follows d report.outcome := by
  rw [GosecReport.read?_eq] at h
  obtain ⟨found, errors, rfl, hfound, herrors⟩ := Layout.exists_of_read? (by decide) h
  refine GradedFormat.follows_of_found herrors
    ((forall₂_listed_optional hfound).imp fun x f hf => ?_)
  have hgrade := GosecFinding.grade_eq hf
  refine ⟨.of_grade_eq (congrArg (Option.map _) hf) hgrade rfl rfl, ?_⟩
  rw [hgrade]
  exact Grade.isBlocking_iff _ _

/-! ## Documents for any grades -/

namespace GradedFormat

variable (F : GradedFormat) (grades : List Grade) (erred : Bool)

/-- A finding of a grade, with nothing else to say. -/
def findingOf (g : Grade) : Json :=
  .object [(F.severity, .text g.severity), (F.confidence, .text g.confidence)]

/-- A report that lists findings of some grades, and errors if it is to. -/
def reportOf : Json :=
  .object [(F.findings, .array (grades.map F.findingOf)),
    (F.errors, if erred then .bool true else .null)]

theorem isExact_reportOf : (F.reportOf grades erred).isExact = true := by
  have hitems : Json.itemsExact (grades.map F.findingOf) = true := by
    induction grades with
    | nil => rfl
    | cons g rest ih =>
      rw [List.map_cons, Json.itemsExact, ih]
      rfl
  cases erred <;> simp [reportOf, Json.isExact, Json.entriesExact, hitems]

variable {F grades}

theorem exists_mapM_findingOf {Finding : Type} [FromJson Finding] {levels : Nat}
    (h : ∀ g, ∃ f : Finding, read? levels (Document.ofJson (F.findingOf g)) = some f) :
    ∃ found : List Finding,
      (Document.ofItems (grades.map F.findingOf)).mapM (read? levels) = some found := by
  induction grades with
  | nil => exact ⟨[], rfl⟩
  | cons g rest ih =>
    obtain ⟨f, hf⟩ := h g
    obtain ⟨found, hfound⟩ := ih
    refine ⟨f :: found, ?_⟩
    rw [List.map_cons, Document.ofItems, List.mapM_cons, hf, hfound]
    rfl

theorem map_grade_findingOf (h : ∀ g, F.grade (Document.ofJson (F.findingOf g)) = g) :
    (Document.ofItems (grades.map F.findingOf)).map F.grade = grades := by
  induction grades with
  | nil => rfl
  | cons g rest ih => rw [List.map_cons, Document.ofItems, List.map_cons, h, ih]

end GradedFormat

variable (grades : List Grade) (erred : Bool)

theorem BanditReport.exists_read? : ∃ report : BanditReport,
    read? nestingLimit (Document.ofJson (banditFormat.reportOf grades erred)) = some report := by
  have hfindings : ∃ found : List BanditFinding,
      (Document.ofItems (grades.map banditFormat.findingOf)).mapM (read? 125) = some found :=
    GradedFormat.exists_mapM_findingOf fun _ => ⟨_, rfl⟩
  obtain ⟨found, hfound⟩ := hfindings
  refine ⟨⟨found, if erred then some (.bool true) else none⟩, ?_⟩
  cases erred <;> exact congrArg (Option.bind · _) hfound

theorem GosecReport.exists_read? : ∃ report : GosecReport,
    read? nestingLimit (Document.ofJson (gosecFormat.reportOf grades erred)) = some report := by
  have hfindings : ∃ found : List GosecFinding,
      (Document.ofItems (grades.map gosecFormat.findingOf)).mapM (read? 125) = some found :=
    GradedFormat.exists_mapM_findingOf fun _ => ⟨_, rfl⟩
  obtain ⟨found, hfound⟩ := hfindings
  refine ⟨⟨some found, if erred then some (.bool true) else none⟩, ?_⟩
  cases erred <;> exact congrArg (fun found? => (Option.map some found?).bind _) hfound

/-- A reader can be told any grades if it takes the reports that are written for them. -/
theorem GradedFormat.exists_takes {F : GradedFormat} {α : Type} [FromJson α] {r : Reader}
    {outcome : α → Outcome} (hr : ∀ report, r.read? report = (FromJson.ofText? report).map outcome)
    (hread : ∃ report : α, read? nestingLimit (Document.ofJson (F.reportOf grades erred)) =
      some report) :
    ∃ report o, r.Takes report (Document.ofJson (F.reportOf grades erred)) o := by
  obtain ⟨rep, hrep⟩ := hread
  have hparse : Document.parse? (F.reportOf grades erred).toText.toList =
      some (Document.ofJson (F.reportOf grades erred)) := by
    rw [Json.toText, String.toList_ofList, Document.parse?_chars (F.isExact_reportOf grades erred)]
  refine ⟨(F.reportOf grades erred).toText, outcome rep, hparse, ?_⟩
  rw [Reader.read?_eq hr hparse, hrep, Option.map_some]

/-! ## Agreement -/

/-- **Bandit and Gosec follow one policy.**  Whatever document one of them takes, each finding in it
is an issue, and verdict and output are by the policy.  So two documents of equal grades, of which
both or neither lists errors, come to the same verdict and to the same severities and confidences;
and there are such documents for any grades. -/
theorem graded_reports_agree :
    (∀ report o, bandit.read? report = some o →
      ∃ d, bandit.Takes report d o ∧ banditFormat.Follows d o) ∧
    (∀ tool report o, (gosecNamed tool).read? report = some o →
      ∃ d, (gosecNamed tool).Takes report d o ∧ gosecFormat.Follows d o) ∧
    (∀ tool report report' d d' o o', bandit.Takes report d o →
      (gosecNamed tool).Takes report' d' o' → banditFormat.grades d = gosecFormat.grades d' →
      banditFormat.listsErrors d = gosecFormat.listsErrors d' →
      o.verdict = o'.verdict ∧ o.issues.map (·.severity) = o'.issues.map (·.severity) ∧
        o.issues.map (·.confidence) = o'.issues.map (·.confidence)) ∧
    ∀ tool grades erred,
      (∃ report d o, bandit.Takes report d o ∧ banditFormat.grades d = grades ∧
        banditFormat.listsErrors d = erred) ∧
      ∃ report d o, (gosecNamed tool).Takes report d o ∧ gosecFormat.grades d = grades ∧
        gosecFormat.listsErrors d = erred := by
  have hbandit {report : String} {d : Document} {o : Outcome} (h : bandit.Takes report d o) :
      banditFormat.Follows d o := by
    obtain ⟨rep, hrep, rfl⟩ := h.exists_report fun _ => rfl
    exact BanditReport.follows hrep
  have hgosec {tool report : String} {d : Document} {o : Outcome}
      (h : (gosecNamed tool).Takes report d o) : gosecFormat.Follows d o := by
    obtain ⟨rep, hrep, rfl⟩ := h.exists_report fun _ => rfl
    exact GosecReport.follows hrep
  refine ⟨?bandit, ?gosec, ?agreement, ?documents⟩
  case bandit =>
    intro report o h
    obtain ⟨d, htakes⟩ := Reader.exists_takes (fun _ => rfl) h
    exact ⟨d, htakes, hbandit htakes⟩
  case gosec =>
    intro tool report o h
    obtain ⟨d, htakes⟩ := Reader.exists_takes (fun _ => rfl) h
    exact ⟨d, htakes, hgosec htakes⟩
  case agreement =>
    intro tool report report' d d' o o' h h' hgrades herrors
    exact (hbandit h).agree (hgosec h') hgrades herrors
  case documents =>
    intro tool grades erred
    obtain ⟨report, o, h⟩ := GradedFormat.exists_takes grades erred (r := bandit) (fun _ => rfl)
      (BanditReport.exists_read? grades erred)
    obtain ⟨report', o', h'⟩ := GradedFormat.exists_takes grades erred (r := gosecNamed tool)
      (fun _ => rfl) (GosecReport.exists_read? grades erred)
    exact ⟨⟨report, _, o, h, GradedFormat.map_grade_findingOf fun _ => rfl, by cases erred <;> rfl⟩,
      report', _, o', h', GradedFormat.map_grade_findingOf fun _ => rfl, by cases erred <;> rfl⟩

/-- A report of Bandit that is a list altogether, and one of Gas that is not. -/
theorem graded_reports_agree_sample : ∃ d d' o o',
    bandit.Takes "[[[\"HIGH\",\"HIGH\",\"\",\"\",\"\",null,null,null]]]" d o ∧
    gas.Takes "\x7b\"Issues\":[\x7b\"confidence\":\"HIGH\",\"severity\":\"HIGH\"\x7d]\x7d" d' o' ∧
    banditFormat.Follows d o ∧ gosecFormat.Follows d' o' ∧
    banditFormat.grades d = gosecFormat.grades d' ∧
    banditFormat.listsErrors d = gosecFormat.listsErrors d' ∧ o.verdict = some .failed ∧
    o.verdict = o'.verdict ∧ o.issues.map (·.severity) = o'.issues.map (·.severity) ∧
    o.issues.map (·.confidence) = o'.issues.map (·.confidence) := by
  obtain ⟨hbandit, hgosec, hagree, -⟩ := graded_reports_agree
  have hparse : Document.parse? "[[[\"HIGH\",\"HIGH\",\"\",\"\",\"\",null,null,null]]]".toList =
      some (.array [.array [.array [.text (some "HIGH"), .text (some "HIGH"), .text (some ""),
        .text (some ""), .text (some ""), .null, .null, .null]]]) := rfl
  have hparse' : Document.parse?
      "\x7b\"Issues\":[\x7b\"confidence\":\"HIGH\",\"severity\":\"HIGH\"\x7d]\x7d".toList =
      some (.object [(some "Issues", .array [.object [(some "confidence", .text (some "HIGH")),
        (some "severity", .text (some "HIGH"))]])]) := rfl
  have hread := (Reader.read?_eq (r := bandit) (fun _ => rfl) hparse).trans rfl
  have hread' := (Reader.read?_eq (r := gas) (fun _ => rfl) hparse').trans rfl
  obtain ⟨e, he, hfollows⟩ := hbandit _ _ hread
  obtain ⟨e', he', hfollows'⟩ := hgosec "Gas" _ _ hread'
  cases he.parse.symm.trans hparse
  cases he'.parse.symm.trans hparse'
  exact ⟨_, _, _, _, he, he', hfollows, hfollows', rfl, rfl, rfl,
    hagree "Gas" _ _ _ _ _ _ he he' rfl rfl⟩

end Report
end ScanService
