import Mathlib.Data.List.Nodup
import ScanService.Proofs.Report.Languages
import ScanService.Service.Runner

/-!
# What the built-in readers say

Every reader but that of Safety comes to a verdict on every report, and the languages of the
detector are in lowercase, so that looking them up by their lowercase forms misses none.

## What is here

* `Reader.Decides` — a reader that always comes to a verdict.
* `Runner.lowercase_eq_safety`, `Runner.evaluate_of_verdict_eq_none` — **a job whose report leaves
  it without a verdict is one of Safety, and the report is clean.**
* `Runner.mem_lookups` — **every language that the detector finds is looked up.**
-/

namespace ScanService
namespace Report

/-! ## Verdicts -/

/-- A reader that comes to a verdict on every report that it can read. -/
def Reader.Decides (d : Reader) : Prop :=
  ∀ report outcome, d.read? report = some outcome → outcome.verdict ≠ none

/-- Whatever a report is, the reader then comes to a verdict. -/
theorem Reader.Decides.verdict_ne_none {d : Reader} (h : d.Decides) (report : String) :
    (d.evaluate report).verdict ≠ none := by
  rw [evaluate]
  split
  · exact Option.some_ne_none _
  · split
    · exact Option.some_ne_none _
    · split
      · next outcome hread => exact h report outcome hread
      · exact Option.some_ne_none _

theorem BanditReport.verdict_outcome (b : BanditReport) : b.outcome.verdict ≠ none := by
  rw [outcome_eq]
  split <;> (try split) <;> exact Option.some_ne_none _

theorem GosecReport.verdict_outcome (g : GosecReport) : g.outcome.verdict ≠ none := by
  rw [outcome]
  split <;> (try split) <;> exact Option.some_ne_none _

theorem BrakemanReport.verdict_outcome (b : BrakemanReport) : b.outcome.verdict ≠ none := by
  rw [outcome]
  split <;> (try split) <;> exact Option.some_ne_none _

theorem RetireJsReport.verdict_outcome (j : RetireJsReport) : j.outcome.verdict ≠ none := by
  simp only [outcome]
  split <;> (try split) <;> exact Option.some_ne_none _

/-- A reader of reports of one kind decides if these reports do. -/
theorem Reader.decides_of_map {d : Reader} {α : Type} {read : String → Option α}
    {outcome : α → Outcome} (hd : ∀ report, d.read? report = (read report).map outcome)
    (ho : ∀ x, (outcome x).verdict ≠ none) : d.Decides := by
  intro report o h
  rw [hd, Option.map_eq_some_iff] at h
  obtain ⟨x, -, rfl⟩ := h
  exact ho x

theorem bandit_decides : bandit.Decides :=
  Reader.decides_of_map (fun _ => rfl) BanditReport.verdict_outcome

theorem gosecNamed_decides (tool : String) : (gosecNamed tool).Decides :=
  Reader.decides_of_map (fun _ => rfl) GosecReport.verdict_outcome

theorem brakeman_decides : brakeman.Decides :=
  Reader.decides_of_map (fun _ => rfl) BrakemanReport.verdict_outcome

theorem retireJs_decides : retireJs.Decides :=
  Reader.decides_of_map (fun _ => rfl) RetireJsReport.verdict_outcome

theorem enry_decides : enry.Decides := by
  intro report outcome h
  cases h
  exact Option.some_ne_none _

/-! ## The registry -/

/-- The reader for a test among the built-in ones. -/
theorem Registry.get?_builtin (key : String) : builtin.get? key =
    if Text.lowercase key = "enry" then some enry
    else if Text.lowercase key = "safety" then some safety
    else if Text.lowercase key = "retirejs" then some retireJs
    else if Text.lowercase key = "brakeman" then some brakeman
    else if Text.lowercase key = "gas" then some gas
    else if Text.lowercase key = "gosec" then some gosec
    else if Text.lowercase key = "bandit" then some bandit
    else none := by
  have hnames : Text.lowercase "enry" = "enry" ∧ Text.lowercase "safety" = "safety" ∧
      Text.lowercase "retirejs" = "retirejs" ∧ Text.lowercase "brakeman" = "brakeman" ∧
      Text.lowercase "gas" = "gas" ∧ Text.lowercase "gosec" = "gosec" ∧
      Text.lowercase "bandit" = "bandit" := by decide
  obtain ⟨henry, hsafety, hretireJs, hbrakeman, hgas, hgosec, hbandit⟩ := hnames
  simp only [builtin, get?_register, henry, hsafety, hretireJs, hbrakeman, hgas, hgosec, hbandit]
  rfl

/-- A built-in reader decides unless it is that of Safety. -/
theorem Registry.decides_of_get?_builtin {key : String} {d : Reader}
    (h : builtin.get? key = some d) : d.Decides ∨ Text.lowercase key = "safety" := by
  rw [get?_builtin] at h
  repeat' split at h
  all_goals first
    | exact .inr ‹_›
    | cases h
  all_goals first
    | exact .inl enry_decides
    | exact .inl retireJs_decides
    | exact .inl brakeman_decides
    | exact .inl (gosecNamed_decides _)
    | exact .inl bandit_decides

/-! ## Clean reports -/

/-- A report of Safety that lists no issue, and no error of Safety itself. -/
def SafetyReport.IsClean (report : String) : Prop :=
  ∃ doc : SafetyReport, FromJson.ofText? report = some doc ∧ doc.found = [] ∧
    reportsErrors doc.errors = false

/-- Only a clean report has no verdict. -/
theorem SafetyReport.outcome_of_verdict_eq_none {doc : SafetyReport}
    (h : doc.outcome.verdict = none) :
    doc.found = [] ∧ reportsErrors doc.errors = false ∧
      doc.outcome = ⟨none, some noIssues, [], []⟩ := by
  rw [outcome] at h ⊢
  cases herrors : reportsErrors doc.errors with
  | true =>
    rw [herrors] at h
    cases h
  | false =>
    cases hfound : doc.found with
    | nil => exact ⟨rfl, rfl, rfl⟩
    | cons x rest =>
      rw [herrors, hfound] at h
      cases h

/-- **Safety leaves a job without a verdict only if its report is clean**, and there is no issue
then. -/
theorem safety_evaluate_of_verdict_eq_none {report : String}
    (h : (safety.evaluate report).verdict = none) :
    SafetyReport.IsClean report ∧ safety.evaluate report = ⟨none, noIssues, [], []⟩ := by
  rw [Reader.evaluate] at h ⊢
  split at h
  · cases h
  · next hcloned =>
    split at h
    · cases h
    · next hblank =>
      split at h
      · next outcome hread =>
        obtain ⟨doc, hdoc, rfl⟩ := Option.map_eq_some_iff.mp hread
        obtain ⟨hfound, herrors, houtcome⟩ := SafetyReport.outcome_of_verdict_eq_none h
        refine ⟨⟨doc, hdoc, hfound, herrors⟩, ?_⟩
        rw [if_neg hcloned, if_neg hblank, houtcome]
        rfl
      · cases h

/-! ## Languages -/

/-- The detector finds languages by their tokens, or none. -/
theorem languages_evaluate (report : String) : (enry.evaluate report).languages = [] ∨
    ∃ tokens, (enry.evaluate report).languages = normaliseLanguages tokens := by
  rw [Reader.evaluate]
  split
  · exact .inl rfl
  · split
    · exact .inl rfl
    · exact .inr (exists_detectedLanguages_eq report)

/-- The languages that the detector finds are in lowercase. -/
theorem lowercase_of_mem_languages {report language : String}
    (h : language ∈ (enry.evaluate report).languages) : Text.lowercase language = language := by
  rcases languages_evaluate report with he | ⟨tokens, he⟩ <;> rw [he] at h
  · cases h
  · exact lowercase_of_mem_normaliseLanguages h

/-- The languages that the detector finds are different. -/
theorem nodup_languages (report : String) : (enry.evaluate report).languages.Nodup := by
  rcases languages_evaluate report with he | ⟨tokens, he⟩ <;> rw [he]
  · exact List.nodup_nil
  · exact nodup_distinct _

end Report

/-! ## What runs make of reports -/

namespace Service

variable {r : Runner} {test : SecurityTest} {report : String}

/-- **A job whose report leaves it without a verdict is one of Safety.** -/
theorem Runner.lowercase_eq_safety (hr : r.readers = .builtin)
    (h : (r.evaluate test report).verdict = none) : Text.lowercase test.name = "safety" := by
  rw [evaluate, Report.Registry.dispatch, hr] at h
  cases hd : Report.Registry.builtin.get? test.name with
  | none =>
    rw [hd] at h
    cases h
  | some d =>
    rw [hd] at h
    rcases Report.Registry.decides_of_get?_builtin hd with hdecides | hsafety
    · exact absurd h (hdecides.verdict_ne_none report)
    · exact hsafety

/-- **The report of such a job is clean**, and the job has no issue. -/
theorem Runner.evaluate_of_verdict_eq_none (hr : r.readers = .builtin)
    (h : (r.evaluate test report).verdict = none) : Report.SafetyReport.IsClean report ∧
      r.evaluate test report = ⟨none, Report.noIssues, [], []⟩ := by
  have hget : Report.Registry.builtin.get? test.name = some Report.safety := by
    rw [Report.Registry.get?_builtin, lowercase_eq_safety hr h]
    rfl
  have hevaluate : r.evaluate test report = Report.safety.evaluate report := by
    rw [evaluate, Report.Registry.dispatch, hr, hget]
  rw [hevaluate] at h ⊢
  exact Report.safety_evaluate_of_verdict_eq_none h

theorem Runner.evaluate_of_detector (hr : r.readers = .builtin)
    (hd : test.name = SecurityTest.detectorName) (report : String) :
    r.evaluate test report = Report.enry.evaluate report := by
  have hget : Report.Registry.builtin.get? test.name = some Report.enry := by
    rw [hd, Report.Registry.get?_builtin, if_pos (by decide)]
  rw [evaluate, Report.Registry.dispatch, hr, hget]

/-- **Every language that the detector finds is looked up**, and so is the generic one. -/
theorem Runner.mem_lookups (hr : r.readers = .builtin) (hd : test.name = SecurityTest.detectorName)
    {language : String} (h : language ∈ (r.evaluate test report).languages ∨
      language = SecurityTest.genericLanguage) :
    language ∈ lookups (r.evaluate test report).languages := by
  rw [lookups, List.mem_append]
  rcases h with h | h
  · refine .inl (List.mem_map.mpr ⟨language, h, ?_⟩)
    rw [evaluate_of_detector hr hd] at h
    exact Report.lowercase_of_mem_languages h
  · exact .inr (List.mem_singleton.mpr h)

/-- **No language is looked up twice**, unless the detector has named the pseudo-language. -/
theorem Runner.nodup_lookups_iff (hr : r.readers = .builtin)
    (hd : test.name = SecurityTest.detectorName) :
    (lookups (r.evaluate test report).languages).Nodup ↔
      SecurityTest.genericLanguage ∉ (r.evaluate test report).languages := by
  have hlower : (r.evaluate test report).languages.map Text.lowercase =
      (r.evaluate test report).languages := by
    refine (List.map_congr_left fun language h => ?_).trans (List.map_id _)
    rw [evaluate_of_detector hr hd] at h
    exact Report.lowercase_of_mem_languages h
  have hnodup : (r.evaluate test report).languages.Nodup := by
    rw [evaluate_of_detector hr hd]
    exact Report.nodup_languages report
  rw [lookups, hlower, ← List.concat_eq_append, List.nodup_concat]
  exact and_iff_left hnodup

end Service
end ScanService
