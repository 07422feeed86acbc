import ScanService.Proofs.Report.Contract
import ScanService.Proofs.Report.Formats
import ScanService.Proofs.Text.Blank

/-!
# How many findings are recorded

A report may list findings and internal errors at once.  The errors decide the verdict of every
tool, but not what becomes of the findings: Bandit, Gosec and Gas record them all the same, and
Brakeman, RetireJS and Safety record none of them.

## What is here

* `Document.parse?_of_isBlank` — a blank text is no document, so that what is taken as a report is
  not passed over as blank.
* `Tool.findings`, `Tool.listsErrors` — how many findings a document lists, and whether it lists
  errors, told without reading it as a report.
* `Tool.Counts`, `Tool.counts` — how many issues come of a document, for every tool.
* `findings_recorded` — **every finding is recorded, unless internal errors hide them all**, and
  `findings_hidden_by_errors`: three tools do hide them.
-/

namespace ScanService

/-! ## Blank texts -/

namespace Json

/-- A blank character between tokens is passed over, or stands in no document. -/
theorem scanBetween_of_isBlank {c : Char} (h : Text.isBlank c = true) :
    scanBetween c = some (.between, []) ∨ scanBetween c = none := by
  -- all other characters of tokens lie between two runs of blank ones
  have houtside : ∀ lo hi : Char, 0x20 < lo.toNat → hi.toNat < 0x85 → ¬(lo ≤ c ∧ c ≤ hi) := by
    rintro lo hi hlo hhi ⟨hge, hle⟩
    have hge : lo.toNat ≤ c.toNat := hge
    have hle : c.toNat ≤ hi.toNat := hle
    simp only [Text.isBlank, Bool.or_eq_true, Bool.and_eq_true, decide_eq_true_eq,
      beq_iff_eq] at h
    omega
  unfold scanBetween
  split
  case h_1 | h_2 | h_3 | h_4 => exact .inl rfl
  case h_12 =>
    have hnumeral : ¬(c = '-' ∨ '0' ≤ c ∧ c ≤ '9') := by
      rintro (rfl | hdigit)
      · exact absurd h (by decide)
      · exact houtside '0' '9' (by decide) (by decide) hdigit
    have hword : ¬isWordChar c = true := fun hword =>
      houtside 'a' 'z' (by decide) (by decide) (by simpa [isWordChar] using hword)
    rw [if_neg hnumeral, if_neg hword]
    exact .inr rfl
  all_goals exact absurd h (by decide)

/-- A blank text has no token. -/
theorem scanFrom_of_isBlank {s : List Char} (h : ∀ c ∈ s, Text.isBlank c = true) :
    Token.scanFrom .between s = some [] ∨ Token.scanFrom .between s = none := by
  induction s with
  | nil => exact .inl rfl
  | cons c rest ih =>
    rw [List.forall_mem_cons] at h
    rw [Token.scanFrom, scanChar]
    rcases scanBetween_of_isBlank h.1 with hc | hc
    · simp only [hc]
      rcases ih h.2 with hrest | hrest
      · exact .inl (by rw [hrest]; rfl)
      · exact .inr (by rw [hrest]; rfl)
    · exact .inr (by rw [hc])

/-- **A blank text is no document.** -/
theorem Document.parse?_of_isBlank {s : List Char} (h : ∀ c ∈ s, Text.isBlank c = true) :
    Document.parse? s = none := by
  rw [parse?, Token.ofChars?]
  rcases scanFrom_of_isBlank h with hs | hs <;> rw [hs] <;> rfl

end Json

namespace Report

open Json (Document)

/-! ## What documents list -/

namespace Tool

/-- How many findings a document of a tool lists. -/
def findings : Tool → Document → Nat
  | bandit, d => (BanditReport.layout.items d).length
  | gosec, d | gas, d => (GosecReport.layout.items d).length
  | brakeman, d => (BrakemanReport.layout.items d).length
  | retireJs, d => (sites d).length
  | safety, .array rows => rows.length
  | safety, d => (SafetyReport.layout.items d).length
  | enry, _ => 0

/-- Whether a document of a tool lists internal errors.  A list of rows has no place for them. -/
def listsErrors : Tool → Document → Bool
  | bandit, d => BanditReport.layout.listsErrors d
  | gosec, d | gas, d => GosecReport.layout.listsErrors d
  | brakeman, d => BrakemanReport.layout.listsErrors d
  | retireJs, d => RetireJsReport.layout.listsErrors d
  | safety, .array _ => false
  | safety, d => SafetyReport.layout.listsErrors d
  | enry, _ => false

/-- The tools that record no findings beside internal errors. -/
def HidesFindings (tool : Tool) : Prop := tool = brakeman ∨ tool = retireJs ∨ tool = safety

instance : DecidablePred HidesFindings := fun _ => inferInstanceAs (Decidable (_ ∨ _))

end Tool

namespace Layout

variable {α : Type} [FromJson α] {L : Layout} {levels : Nat} {d : Document}

/-- As many findings are read as the document lists. -/
theorem length_items {found : List α}
    (h : (d.member? L.members L.findings).elim (some []) (FromJson.read? levels) = some found) :
    (L.items d).length = found.length :=
  (forall₂_listed h).length_eq

/-- So it is where the list may be left out. -/
theorem length_items_optional {found? : Option (List α)}
    (h : (d.member? L.members L.findings).elim (some none) (FromJson.read? levels) = some found?) :
    (L.items d).length = (found?.getD []).length :=
  (forall₂_listed_optional h).length_eq

end Layout

/-! ## What readers make of them -/

namespace Tool

/-- What comes of a document, as far as numbers go. -/
structure Counts (tool : Tool) (d : Document) (o : Outcome) : Prop where
  /-- There is an issue for each finding, or none if the tool hides them behind errors. -/
  issues : o.issues.length =
    if tool.HidesFindings ∧ tool.listsErrors d = true then 0 else tool.findings d
  /-- Errors decide the verdict. -/
  verdict : tool.listsErrors d = true → o.verdict = some .error

variable {tool : Tool} {d : Document}

/-- Errors first, then nothing found, then the findings: all readers of documents look at them in
this order, and differ in what they keep of the findings beside errors. -/
theorem Counts.ite {errors : Option Json} {empty : Bool} {clean : Outcome} {verdict : Verdict}
    {kept issues : List Issue} (herrors : reportsErrors errors = tool.listsErrors d)
    (hkept : kept = if tool.HidesFindings then [] else issues)
    (hissues : issues.length = tool.findings d) (hempty : empty = true → issues = [])
    (hclean : clean.issues = []) :
    tool.Counts d (if reportsErrors errors then .judged .error kept
      else if empty then clean else .judged verdict issues) := by
  rw [herrors]
  cases hlists : tool.listsErrors d with
  | true =>
    refine ⟨?_, fun _ => rfl⟩
    rw [if_pos rfl, hkept, hlists, ← hissues]
    by_cases hhides : tool.HidesFindings
    · rw [if_pos hhides, if_pos ⟨hhides, rfl⟩]
      rfl
    · rw [if_neg hhides, if_neg fun h => hhides h.1]
      rfl
  | false =>
    refine ⟨?_, fun h => nomatch hlists.symm.trans h⟩
    have hkeeps : ¬(tool.HidesFindings ∧ false = true) := fun h => Bool.false_ne_true h.2
    rw [if_neg Bool.false_ne_true, hlists, if_neg hkeeps, ← hissues]
    cases empty with
    | true => rw [hempty rfl, if_pos rfl, hclean]
    | false => rfl

theorem eq_nil_of_isEmpty {α : Type} {found : List α} {toIssue : α → Issue}
    (h : found.isEmpty = true) : found.map toIssue = [] := by
  rw [List.isEmpty_iff.mp h, List.map_nil]

theorem counts_bandit {report : BanditReport}
    (h : FromJson.read? nestingLimit d = some report) : bandit.Counts d report.outcome := by
  rw [BanditReport.read?_eq] at h
  obtain ⟨found, errors, rfl, hfound, herrors⟩ := Layout.exists_of_read? (by decide) h
  rw [BanditReport.outcome_eq]
  refine .ite herrors (if_neg (by decide)).symm ?_ eq_nil_of_isEmpty rfl
  rw [List.length_map]
  exact (Layout.length_items hfound).symm

theorem counts_gosec {report : GosecReport} (htool : tool = gosec ∨ tool = gas)
    (h : FromJson.read? nestingLimit d = some report) : tool.Counts d report.outcome := by
  rw [GosecReport.read?_eq] at h
  obtain ⟨found, errors, rfl, hfound, herrors⟩ := Layout.exists_of_read? (by decide) h
  have hlength := Layout.length_items_optional hfound
  obtain rfl | rfl := htool <;>
  · refine .ite herrors (if_neg (by decide)).symm ?_ eq_nil_of_isEmpty rfl
    rw [List.length_map]
    exact hlength.symm

theorem counts_brakeman {report : BrakemanReport}
    (h : FromJson.read? nestingLimit d = some report) : brakeman.Counts d report.outcome := by
  rw [BrakemanReport.read?_eq] at h
  obtain ⟨found, errors, rfl, hfound, herrors⟩ := Layout.exists_of_read? (by decide) h
  refine .ite herrors (if_pos (by decide)).symm ?_ eq_nil_of_isEmpty rfl
  rw [List.length_map]
  exact (Layout.length_items hfound).symm

theorem counts_retireJs {report : RetireJsReport}
    (h : FromJson.read? nestingLimit d = some report) : retireJs.Counts d report.outcome := by
  rw [RetireJsReport.read?_eq] at h
  obtain ⟨files, errors, rfl, hfiles, herrors⟩ := Layout.exists_of_read? (by decide) h
  refine .ite herrors (if_pos (by decide)).symm ?_ List.isEmpty_iff.mp rfl
  rw [RetireJsReport.issues_eq (forall₂_listed hfiles), List.length_map]
  rfl

theorem counts_safety {report : SafetyReport}
    (h : FromJson.read? nestingLimit d = some report) : safety.Counts d report.outcome := by
  cases d with
  | array rows =>
    rw [SafetyReport.read?_array, Option.ite_none_right_eq_some] at h
    obtain ⟨found, hfound, rfl⟩ := Option.map_eq_some_iff.mp h.2
    refine .ite rfl (if_pos (by decide)).symm ?_ eq_nil_of_isEmpty rfl
    rw [List.length_map]
    exact (mapM_eq_some_iff.mp hfound).length_eq.symm
  | object entries =>
    rw [SafetyReport.read?_object, Option.ite_none_right_eq_some] at h
    obtain ⟨found, errors, rfl, hfound, herrors⟩ := Layout.exists_of_read? (by decide) h.2
    refine .ite herrors (if_pos (by decide)).symm ?_ eq_nil_of_isEmpty rfl
    rw [List.length_map]
    exact (Layout.length_items hfound).symm
  | _ => simp [FromJson.read?, SafetyReport.ofRows?, SafetyReport.ofWrapped?] at h

/-- A tool counts the findings in every text that it takes if it counts those in every report. -/
theorem exists_counts_of {α : Type} [FromJson α] {outcome : α → Outcome} {report : String}
    {o : Outcome}
    (hr : ∀ report, tool.reader.read? report = (FromJson.ofText? report).map outcome)
    (hcounts : ∀ d rep, FromJson.read? nestingLimit d = some rep → tool.Counts d (outcome rep))
    (h : tool.reader.read? report = some o) :
    ∃ d, tool.reader.Takes report d o ∧ tool.Counts d o := by
  obtain ⟨d, htakes⟩ := Reader.exists_takes hr h
  obtain ⟨rep, hrep, rfl⟩ := htakes.exists_report hr
  exact ⟨d, htakes, hcounts d rep hrep⟩

/-- **The findings of a document are counted by every tool that takes it.** -/
theorem exists_counts (htool : tool ≠ enry) {report : String} {o : Outcome}
    (h : tool.reader.read? report = some o) :
    ∃ d, tool.reader.Takes report d o ∧ tool.Counts d o := by
  cases tool with
  | bandit => exact exists_counts_of (fun _ => rfl) (fun _ _ => counts_bandit) h
  | gosec => exact exists_counts_of (fun _ => rfl) (fun _ _ => counts_gosec (.inl rfl)) h
  | gas => exact exists_counts_of (fun _ => rfl) (fun _ _ => counts_gosec (.inr rfl)) h
  | brakeman => exact exists_counts_of (fun _ => rfl) (fun _ _ => counts_brakeman) h
  | retireJs => exact exists_counts_of (fun _ => rfl) (fun _ _ => counts_retireJs) h
  | safety => exact exists_counts_of (fun _ => rfl) (fun _ _ => counts_safety) h
  | enry => exact absurd rfl htool

end Tool

/-! ## What is recorded -/

/-- A text that is taken as a report, and has no marker of a failed clone, is evaluated as such. -/
theorem Reader.Takes.evaluate {r : Reader} {report : String} {d : Document} {o : Outcome}
    (h : r.Takes report d o) (hmarker : ¬cloningMarker.toList <:+: report.toList) :
    r.evaluate report = ⟨o.verdict, o.output.getD report, o.issues, o.languages⟩ := by
  have hblank : ¬(Text.trim report).isEmpty = true := fun hempty => by
    have hblank := Text.trim_eq_empty_iff.mp (String.isEmpty_iff.mp hempty)
    exact Option.some_ne_none d (h.parse.symm.trans (Document.parse?_of_isBlank hblank))
  rw [Reader.evaluate, if_neg fun hcloned => hmarker ((Text.contains_iff _ _).mp hcloned),
    if_neg hblank, h.read]

/-- **Every finding is recorded, unless internal errors hide them all.**  What a tool's reader takes
is the text of a document, and there is an issue for each of its findings; only Brakeman, RetireJS
and Safety have none if the document lists internal errors, and these decide the verdict of every
tool.  Verdict and issues are what a job of the tool's test is told of the text, unless it has the
marker of a failed clone. -/
theorem findings_recorded {tool : Tool} (htool : tool ≠ .enry) {report : String} {o : Outcome}
    (h : tool.reader.read? report = some o) :
    ∃ d, tool.reader.Takes report d o ∧
      o.issues.length =
        (if tool.HidesFindings ∧ tool.listsErrors d = true then 0 else tool.findings d) ∧
      (tool.listsErrors d = true → o.verdict = some .error) ∧
      (¬cloningMarker.toList <:+: report.toList → ∀ name, Text.lowercase name = tool.name →
        ∃ e, Registry.builtin.dispatch name report = .ok e ∧ e.issues = o.issues ∧
          e.verdict = o.verdict) := by
  obtain ⟨d, htakes, hcounts⟩ := Tool.exists_counts htool h
  refine ⟨d, htakes, hcounts.issues, hcounts.verdict, fun hmarker name hname => ?_⟩
  refine ⟨tool.reader.evaluate report, ?_, ?_, ?_⟩
  · rw [Registry.dispatch, Tool.get?_builtin hname]
  all_goals rw [htakes.evaluate hmarker]

/-- Two findings of Gosec, beside an error. -/
theorem findings_recorded_sample : ∃ o,
    gosec.read? "\x7b\"Issues\":[\x7b\x7d,\x7b\x7d],\"Golang errors\":\x7b\"a.go\":[]\x7d\x7d" =
      some o ∧ o.verdict = some .error ∧ o.issues.length = 2 := by
  have hparse : Document.parse?
      "\x7b\"Issues\":[\x7b\x7d,\x7b\x7d],\"Golang errors\":\x7b\"a.go\":[]\x7d\x7d".toList =
      some (.object [(some "Issues", .array [.object [], .object []]),
        (some "Golang errors", .object [(some "a.go", .array [])])]) := rfl
  have hread := (Reader.read?_eq (r := Tool.gosec.reader) (fun _ => rfl) hparse).trans rfl
  obtain ⟨d, htakes, hissues, hverdict, -⟩ := findings_recorded (by decide) hread
  cases htakes.parse.symm.trans hparse
  exact ⟨_, hread, hverdict rfl, hissues⟩

/-- **Three tools hide their findings behind internal errors.**  Each of the documents lists one
finding and an error, and no issue is recorded for the finding. -/
theorem findings_hidden_by_errors :
    (∃ d o,
      brakeman.Takes "\x7b\"warnings\":[\x7b\"message\":\"m\"\x7d],\"errors\":[\"e\"]\x7d" d o ∧
      Tool.brakeman.findings d = 1 ∧ o.issues = []) ∧
    (∃ d o, retireJs.Takes "[[[\"f\",[[\"c\",\"1\",[\x7b\x7d]]]]],[\"e\"]]" d o ∧
      Tool.retireJs.findings d = 1 ∧ o.issues = []) ∧
    ∃ d o, safety.Takes "\x7b\"issues\":[\x7b\x7d],\"errors\":\"e\"\x7d" d o ∧
      Tool.safety.findings d = 1 ∧ o.issues = [] := by
  have hwarning : Document.parse?
      "\x7b\"warnings\":[\x7b\"message\":\"m\"\x7d],\"errors\":[\"e\"]\x7d".toList =
      some (.object [(some "warnings", .array [.object [(some "message", .text (some "m"))]]),
        (some "errors", .array [.text (some "e")])]) := rfl
  have hvulnerability : Document.parse? "[[[\"f\",[[\"c\",\"1\",[\x7b\x7d]]]]],[\"e\"]]".toList =
      some (.array [.array [.array [.text (some "f"), .array [.array [.text (some "c"),
        .text (some "1"), .array [.object []]]]]], .array [.text (some "e")]]) := rfl
  have hissue : Document.parse? "\x7b\"issues\":[\x7b\x7d],\"errors\":\"e\"\x7d".toList =
      some (.object [(some "issues", .array [.object []]), (some "errors", .text (some "e"))]) :=
    rfl
  refine ⟨?brakeman, ?retireJs, ?safety⟩
  case brakeman =>
    exact ⟨_, _, ⟨hwarning, (Reader.read?_eq (fun _ => rfl) hwarning).trans rfl⟩, rfl, rfl⟩
  case retireJs =>
    have hread := (Reader.read?_eq (r := retireJs) (fun _ => rfl) hvulnerability).trans rfl
    exact ⟨_, _, ⟨hvulnerability, hread⟩, rfl, rfl⟩
  case safety =>
    exact ⟨_, _, ⟨hissue, (Reader.read?_eq (fun _ => rfl) hissue).trans rfl⟩, rfl, rfl⟩

end Report
end ScanService
