import ScanService.Proofs.Json.Edits
import ScanService.Proofs.Report.Flattening

/-!
# Regrading a vulnerability

When RetireJS rates a vulnerability more severe than before, its report should not come to a better
verdict.  The verdict is by the words `high` and `medium`, though, and the scale of severities has a
word above both that is neither of them.

## What is here

* `Position` — where a vulnerability stands in a report.
* `RetireJsReport.regrade`, `RetireJsReport.regradeIn` — gives a vulnerability another severity, in
  a report and in a document.
* `RetireJsReport.read?_regradeIn` — **the report in a document changes in that severity only.**
* `RetireJsReport.any_blocks_regrade` — which reports then have a vulnerability that blocks.
* `retireJs_regraded` — **the verdict stays `failed`, unless the only vulnerability that blocks
  becomes critical.**
* `retireJs_critical_passes` — a report that passes because it became worse.
-/

namespace ScanService
namespace Report

open Json (Document)
open FromJson (read?)

/-! ## Regrading -/

/-- Where a vulnerability stands in a report. -/
structure Position where
  /-- The number of the file in the report. -/
  file : Nat
  /-- The number of the component in the file. -/
  component : Nat
  /-- The number of the vulnerability of the component. -/
  vulnerability : Nat
  deriving DecidableEq, Repr

variable {levels : Nat} {d : Document} {word : String} {p q : Position}

namespace RetireJsVulnerability

/-- Gives a vulnerability another severity. -/
def regrade (word : String) (v : RetireJsVulnerability) : RetireJsVulnerability :=
  { v with severity := word }

/-- Gives the vulnerability in a document another severity. -/
def regradeIn (word : String) (d : Document) : Document :=
  d.putMember members "severity" (.text (some word))

theorem read?_regradeIn {v : RetireJsVulnerability} (h : read? levels d = some v) (word : String) :
    read? levels (regradeIn word d) = some (v.regrade word) := by
  obtain ⟨r, hr, hseverity, hinfo, hbelow, hids⟩ := read?_eq_some_iff.mp h
  have hroom : ∀ items, d = .array items →
      members.findIdx (·.name == "severity") < items.length := by
    rintro items rfl
    cases items with
    | nil =>
      -- an array must not break off before the version in which the vulnerability is fixed
      cases levels <;> cases hr
      cases hbelow
    | cons x rest => exact Nat.succ_pos _
  obtain ⟨r', hr', hsame, hself⟩ := Record.exists_putMember (x := .text (some word))
    (by decide) (by decide) hroom hr
  refine read?_eq_some_iff.mpr ⟨r', hr', ?_, ?_, ?_, ?_⟩
  · rw [Record.orElse, hself]
    rfl
  · rw [hsame.orElse_eq "info" (by decide), hinfo]
    rfl
  · rw [hsame.optional_eq "below" (by decide), hbelow]
    rfl
  · rw [hsame.orElse_eq "identifiers" (by decide), hids]
    rfl

end RetireJsVulnerability

namespace RetireJsResult

/-- Regrades a vulnerability of a component. -/
def regrade (k : Nat) (word : String) (c : RetireJsResult) : RetireJsResult :=
  { c with vulnerabilities := c.vulnerabilities.modify k (·.regrade word) }

/-- Regrades a vulnerability of the component in a document. -/
def regradeIn (k : Nat) (word : String) (d : Document) : Document :=
  d.modifyListed members "vulnerabilities" k (RetireJsVulnerability.regradeIn word)

theorem read?_regradeIn {c : RetireJsResult} (h : read? levels d = some c) (k : Nat)
    (word : String) : read? levels (regradeIn k word d) = some (c.regrade k word) := by
  obtain ⟨r, hr, hcomponent, hversion, hfound⟩ := read?_eq_some_iff.mp h
  obtain ⟨r', hr', hsame, hlist⟩ := Record.exists_modifyListed (by decide) (by decide) hr hfound
    (fun _ _ _ h => RetireJsVulnerability.read?_regradeIn h word) k
  refine read?_eq_some_iff.mpr ⟨r', hr', ?_, ?_, hlist⟩
  · rw [hsame.orElse_eq "component" (by decide), hcomponent]
    rfl
  · rw [hsame.orElse_eq "version" (by decide), hversion]
    rfl

end RetireJsResult

namespace RetireJsFile

/-- Regrades a vulnerability of a component in a file. -/
def regrade (j k : Nat) (word : String) (f : RetireJsFile) : RetireJsFile :=
  { f with results := f.results.modify j (·.regrade k word) }

/-- Regrades a vulnerability of a component of the file in a document. -/
def regradeIn (j k : Nat) (word : String) (d : Document) : Document :=
  d.modifyListed members "results" j (RetireJsResult.regradeIn k word)

theorem read?_regradeIn {f : RetireJsFile} (h : read? levels d = some f) (j k : Nat)
    (word : String) : read? levels (regradeIn j k word d) = some (f.regrade j k word) := by
  obtain ⟨r, hr, hfile, hresults⟩ := read?_eq_some_iff.mp h
  obtain ⟨r', hr', hsame, hlist⟩ := Record.exists_modifyListed (by decide) (by decide) hr hresults
    (fun _ _ _ h => RetireJsResult.read?_regradeIn h k word) j
  refine read?_eq_some_iff.mpr ⟨r', hr', ?_, hlist⟩
  rw [hsame.optional_eq "file" (by decide), hfile]
  rfl

end RetireJsFile

namespace RetireJsReport

/-- Regrades the vulnerability in a position of a report. -/
def regrade (p : Position) (word : String) (r : RetireJsReport) : RetireJsReport :=
  { r with files := r.files.modify p.file (·.regrade p.component p.vulnerability word) }

/-- Regrades the vulnerability in a position of the report in a document. -/
def regradeIn (p : Position) (word : String) (d : Document) : Document :=
  d.modifyListed members "data" p.file (RetireJsFile.regradeIn p.component p.vulnerability word)

/-- **In a regraded document stands the regraded report.** -/
theorem read?_regradeIn {r : RetireJsReport} (h : read? levels d = some r) (p : Position)
    (word : String) : read? levels (regradeIn p word d) = some (r.regrade p word) := by
  simp only [read?, Option.bind_eq_bind, Option.bind_eq_some_iff] at h
  obtain ⟨record, hr, files, hfiles, errors, herrors, h⟩ := h
  cases h
  obtain ⟨r', hr', hsame, hlist⟩ := Record.exists_modifyListed (by decide) (by decide) hr hfiles
    (fun _ _ _ h => RetireJsFile.read?_regradeIn h p.component p.vulnerability word) p.file
  simp only [read?, regradeIn, hr', Option.bind_eq_bind, Option.bind_some, hlist,
    hsame.orElse_eq "errors" (by decide), herrors]
  rfl

/-! ## Vulnerabilities by position -/

/-- The vulnerability in a position, if there is one. -/
def vulnerability? (r : RetireJsReport) (p : Position) : Option RetireJsVulnerability := do
  let f ← r.files[p.file]?
  let c ← f.results[p.component]?
  c.vulnerabilities[p.vulnerability]?

/-- Some vulnerability blocks that is not in a given position. -/
def BlocksBeside (r : RetireJsReport) (p : Position) : Prop :=
  ∃ q v, q ≠ p ∧ r.vulnerability? q = some v ∧ v.blocks = true

/-- The vulnerabilities of a report are those in its positions. -/
theorem any_vulnerabilities (r : RetireJsReport) (test : RetireJsVulnerability → Bool) :
    r.vulnerabilities.any test = true ↔ ∃ p v, r.vulnerability? p = some v ∧ test v = true := by
  simp only [vulnerabilities, RetireJsFile.vulnerabilities, List.any_flatMap, List.any_eq_true,
    List.mem_iff_getElem?, vulnerability?, Option.bind_eq_bind, Option.bind_eq_some_iff]
  constructor
  · rintro ⟨f, ⟨i, hf⟩, c, ⟨j, hc⟩, v, ⟨k, hv⟩, htest⟩
    exact ⟨⟨i, j, k⟩, v, ⟨f, hf, c, hc, hv⟩, htest⟩
  · rintro ⟨p, v, ⟨f, hf, c, hc, hv⟩, htest⟩
    exact ⟨f, ⟨_, hf⟩, c, ⟨_, hc⟩, v, ⟨_, hv⟩, htest⟩

/-- If a vulnerability does not block, but some vulnerability does, it is another one. -/
theorem blocksBeside_of_any {r : RetireJsReport} {v : RetireJsVulnerability}
    (hany : r.vulnerabilities.any RetireJsVulnerability.blocks = true)
    (hv : r.vulnerability? p = some v) (hnot : v.blocks ≠ true) : r.BlocksBeside p := by
  obtain ⟨q, u, hu, hblocks⟩ := (r.any_vulnerabilities _).mp hany
  refine ⟨q, u, ?_, hu, hblocks⟩
  rintro rfl
  cases hv.symm.trans hu
  exact hnot hblocks

/-- Regrading changes the vulnerability in its position and no other. -/
theorem vulnerability?_regrade (r : RetireJsReport) :
    (r.regrade p word).vulnerability? q =
      (r.vulnerability? q).map fun v => if q = p then v.regrade word else v := by
  obtain ⟨i, j, k⟩ := p
  obtain ⟨i', j', k'⟩ := q
  simp only [vulnerability?, regrade, List.getElem?_modify, Position.mk.injEq]
  cases r.files[i']? with
  | none => rfl
  | some f =>
    by_cases hi : i = i'
    · subst hi
      simp only [RetireJsFile.regrade, List.getElem?_modify, Option.map_eq_map, Option.map_some,
        Option.bind_eq_bind, Option.bind_some, if_true]
      cases f.results[j']? with
      | none => rfl
      | some c =>
        by_cases hj : j = j'
        · subst hj
          simp only [RetireJsResult.regrade, List.getElem?_modify, Option.map_some,
            Option.bind_some, if_true, Option.map_eq_map, true_and, eq_comm]
        · simp [hj, Ne.symm hj]
    · simp [hi, Ne.symm hi]

/-- A report has a vulnerability that blocks, after one is regraded, if the new word is one that
blocks, or another vulnerability blocks. -/
theorem any_blocks_regrade {r : RetireJsReport} {v : RetireJsVulnerability}
    (hv : r.vulnerability? p = some v) :
    (r.regrade p word).vulnerabilities.any RetireJsVulnerability.blocks = true ↔
      word = "high" ∨ word = "medium" ∨ r.BlocksBeside p := by
  rw [any_vulnerabilities]
  simp only [vulnerability?_regrade, Option.map_eq_some_iff]
  constructor
  · rintro ⟨q, _, ⟨u, hu, rfl⟩, hblocks⟩
    by_cases hq : q = p
    · rw [if_pos hq] at hblocks
      rcases Bool.or_eq_true_iff.mp hblocks with hhigh | hmedium
      · exact .inl (beq_iff_eq.mp hhigh)
      · exact .inr (.inl (beq_iff_eq.mp hmedium))
    · rw [if_neg hq] at hblocks
      exact .inr (.inr ⟨q, u, hq, hu, hblocks⟩)
  · rintro (rfl | rfl | ⟨q, u, hq, hu, hblocks⟩)
    · exact ⟨p, _, ⟨v, hv, rfl⟩, by rw [if_pos rfl]; rfl⟩
    · exact ⟨p, _, ⟨v, hv, rfl⟩, by rw [if_pos rfl]; rfl⟩
    · exact ⟨q, _, ⟨u, hu, rfl⟩, by rwa [if_neg hq]⟩

/-! ## Verdicts -/

theorem outcome_failed_iff (r : RetireJsReport) : r.outcome.verdict = some .failed ↔
    reportsErrors r.errors = false ∧
      r.vulnerabilities.any RetireJsVulnerability.blocks = true := by
  rw [verdict_outcome_eq]
  cases reportsErrors r.errors <;>
    cases r.vulnerabilities.any RetireJsVulnerability.blocks <;> decide

end RetireJsReport

/-- A vulnerability that blocks is at least of medium severity. -/
theorem RetireJsVulnerability.rank_of_blocks {v : RetireJsVulnerability} (h : v.blocks = true) :
    Severity.medium.rank ≤ (retireJsSeverity v.severity).rank := by
  rcases Bool.or_eq_true_iff.mp h with hhigh | hmedium
  · rw [beq_iff_eq.mp hhigh]
    decide
  · rw [beq_iff_eq.mp hmedium]
    decide

/-! ## Texts -/

/-- **A worse vulnerability leaves the verdict `failed`, unless it becomes critical and no other one
blocks.**  Of a text that failed, take the document and any vulnerability in it, and give that one a
severity of at least the same rank: a text of the new document is taken, too, and its report differs
in that severity only. -/
theorem retireJs_regraded {report report' word : String} {d : Document} {o : Outcome}
    {r : RetireJsReport} {p : Position} {v : RetireJsVulnerability}
    (htakes : retireJs.Takes report d o) (hread : read? nestingLimit d = some r)
    (hfailed : o.verdict = some .failed) (hv : r.vulnerability? p = some v)
    (hword : word ∈ ["low", "medium", "high", "critical"])
    (hrank : (retireJsSeverity v.severity).rank ≤ (retireJsSeverity word).rank)
    (hparse : Document.parse? report'.toList = some (RetireJsReport.regradeIn p word d)) :
    ∃ o', retireJs.Takes report' (RetireJsReport.regradeIn p word d) o' ∧
      read? nestingLimit (RetireJsReport.regradeIn p word d) = some (r.regrade p word) ∧
      (word ≠ "critical" ∨ r.BlocksBeside p → o'.verdict = some .failed) ∧
      (word = "critical" → ¬ r.BlocksBeside p → o'.verdict = some .passed) := by
  have hregraded := RetireJsReport.read?_regradeIn hread p word
  obtain ⟨rep, hrep, rfl⟩ := htakes.exists_report fun _ => rfl
  cases hrep.symm.trans hread
  obtain ⟨herrors, hblocks⟩ := r.outcome_failed_iff.mp hfailed
  have hnew : (r.regrade p word).outcome.verdict = some
      (if (r.regrade p word).vulnerabilities.any RetireJsVulnerability.blocks then .failed
        else .passed) := by
    have hnone : reportsErrors (r.regrade p word).errors = false := herrors
    rw [RetireJsReport.verdict_outcome_eq, if_neg (Bool.eq_false_iff.mp hnone)]
  refine ⟨(r.regrade p word).outcome, ⟨hparse, ?taken⟩, hregraded, fun h => ?failed,
    fun hcritical halone => ?passed⟩
  case taken =>
    rw [Reader.read?_eq (r := retireJs) (fun _ => rfl) hparse, hregraded, Option.map_some]
  case failed =>
    rw [hnew, if_pos]
    rw [RetireJsReport.any_blocks_regrade hv]
    simp only [List.mem_cons, List.not_mem_nil, or_false] at hword
    rcases hword with rfl | rfl | rfl | rfl
    · -- a vulnerability that may become low did not block
      have hlow : ¬ Severity.medium.rank ≤ (retireJsSeverity "low").rank := by decide
      exact .inr (.inr (RetireJsReport.blocksBeside_of_any hblocks hv fun hv =>
        hlow (Nat.le_trans (RetireJsVulnerability.rank_of_blocks hv) hrank)))
    · exact .inr (.inl rfl)
    · exact .inl rfl
    · exact .inr (.inr (h.resolve_left (absurd rfl)))
  case passed =>
    rw [hnew, if_neg]
    rw [RetireJsReport.any_blocks_regrade hv, hcritical]
    rintro (hhigh | hmedium | hbeside)
    · exact absurd hhigh (by decide)
    · exact absurd hmedium (by decide)
    · exact halone hbeside

/-- Beside one vulnerability of medium severity, one without a severity becomes high. -/
theorem retireJs_regraded_sample : ∃ (d : Document) (r : RetireJsReport) (o' : Outcome),
    Document.parse? "[[[null,[[\"\",\"\",[[\"medium\",[],null],\x7b\x7d]]]]]]".toList = some d ∧
    read? nestingLimit d = some r ∧ r.outcome.verdict = some .failed ∧
    retireJs.Takes
      "[[[null,[[\"\",\"\",[[\"medium\",[],null],\x7b\"severity\":\"high\"\x7d]]]]]]"
      (RetireJsReport.regradeIn ⟨0, 0, 1⟩ "high" d) o' ∧
    o'.verdict = some .failed := by
  have hparse : Document.parse?
      "[[[null,[[\"\",\"\",[[\"medium\",[],null],\x7b\x7d]]]]]]".toList =
      some (.array [.array [.array [.null, .array [.array [.text (some ""), .text (some ""),
        .array [.array [.text (some "medium"), .array [], .null], .object []]]]]]]) := rfl
  have hparse' : Document.parse?
      "[[[null,[[\"\",\"\",[[\"medium\",[],null],\x7b\"severity\":\"high\"\x7d]]]]]]".toList =
      some (RetireJsReport.regradeIn ⟨0, 0, 1⟩ "high" (.array [.array [.array [.null,
        .array [.array [.text (some ""), .text (some ""), .array [
          .array [.text (some "medium"), .array [], .null], .object []]]]]]])) := rfl
  have hread := (Reader.read?_eq (r := retireJs) (fun _ => rfl) hparse).trans rfl
  obtain ⟨o', htakes, -, hfailed, -⟩ :=
    retireJs_regraded ⟨hparse, hread⟩ rfl rfl rfl (by decide) (by decide) hparse'
  exact ⟨_, _, o', hparse, rfl, rfl, htakes, hfailed (.inl (by decide))⟩

/-- **A report may pass because a vulnerability in it became critical.**  The only vulnerability of
this one is of high severity, and fails the job; as a critical one it does not. -/
theorem retireJs_critical_passes : ∃ (d : Document) (r : RetireJsReport)
    (v : RetireJsVulnerability) (o o' : Outcome),
    retireJs.Takes "[[[null,[\x7b\"vulnerabilities\":[\x7b\"severity\":\"high\"\x7d]\x7d]]]]" d o ∧
    read? nestingLimit d = some r ∧ r.vulnerability? ⟨0, 0, 0⟩ = some v ∧
    (retireJsSeverity v.severity).rank ≤ (retireJsSeverity "critical").rank ∧
    retireJs.Takes "[[[null,[\x7b\"vulnerabilities\":[\x7b\"severity\":\"critical\"\x7d]\x7d]]]]"
      (RetireJsReport.regradeIn ⟨0, 0, 0⟩ "critical" d) o' ∧
    o.verdict = some .failed ∧ o'.verdict = some .passed := by
  have hparse : Document.parse?
      "[[[null,[\x7b\"vulnerabilities\":[\x7b\"severity\":\"high\"\x7d]\x7d]]]]".toList =
      some (.array [.array [.array [.null, .array [.object [(some "vulnerabilities",
        .array [.object [(some "severity", .text (some "high"))]])]]]]]) := rfl
  have hparse' : Document.parse?
      "[[[null,[\x7b\"vulnerabilities\":[\x7b\"severity\":\"critical\"\x7d]\x7d]]]]".toList =
      some (RetireJsReport.regradeIn ⟨0, 0, 0⟩ "critical" (.array [.array [.array [.null,
        .array [.object [(some "vulnerabilities",
          .array [.object [(some "severity", .text (some "high"))]])]]]]])) := rfl
  have hread := (Reader.read?_eq (r := retireJs) (fun _ => rfl) hparse).trans rfl
  have hread' := (Reader.read?_eq (r := retireJs) (fun _ => rfl) hparse').trans rfl
  exact ⟨_, _, _, _, _, ⟨hparse, hread⟩, rfl, rfl, by decide, ⟨hparse', hread'⟩, rfl, rfl⟩

end Report
end ScanService
