import ScanService.Proofs.Admission.Finality
import ScanService.Proofs.Aggregate
import ScanService.Proofs.Jobs.Coverage
import ScanService.Proofs.Jobs.Readings
import ScanService.Proofs.Report.Builtin

/-!
# A pass is earned

With the built-in readers and a store that does not fail of itself, an analysis of which somebody is
told that it has passed has been seen through: each of its tests has an entry, each entry is that of
a unit whose report was read and found fault with nothing, and whatever tests the languages in the
detector's report ask for are among them.

## What is here

* `Job.Passes` — an entry that speaks for a pass.
* `exists_run_of_job` — **such an entry is that of a run that has read a report.**
* `no_false_pass` — all of this at the level of crowds.
-/

namespace ScanService

open Store (JobPatch)

/-! ## Outcomes -/

/-- An entry that speaks for a pass: its run has come to its end with a pass, or, with Safety alone,
without a verdict. -/
def Job.Passes (j : Job) : Prop :=
  j.status = .finished ∧
    (j.verdict = some .passed ∨ j.verdict = none ∧ Text.lowercase j.testName = "safety")

theorem Job.verdict_of_outcome {j : Job} (hs : j.status = .finished) (ho : j.outcome = .passed) :
    j.verdict = some .passed ∨ j.verdict = none := by
  rw [outcome, hs] at ho
  cases hv : j.verdict with
  | none => exact .inr rfl
  | some v =>
    rw [hv] at ho
    exact .inl (congrArg some ho)

/-- When an analysis that has ended has passed, so have all its jobs. -/
theorem Analysis.EndIsEarned.outcome_of_passed {a : Analysis} (he : a.EndIsEarned)
    (hc : a.isComplete = true) (hp : a.aggregate.result = some .passed) {j : Job}
    (hj : j ∈ a.jobs) : j.outcome = .passed := by
  rw [he.aggregate_eq hc, Option.some.injEq, Verdict.combine_eq_passed_iff] at hp
  exact hp _ (List.mem_map_of_mem hj)

namespace Service

open Execution (UnitContext)

/-! ## The run behind an entry -/

namespace RunStage

variable {r : Runner} {test : SecurityTest} {st : RunStage} {j : Job}

/-- A run that takes its job to have ended well has read a report, and the job says what it says. -/
theorem exists_reading_of_outcome (h : st.entry? r test = some j)
    (ht : j.status.isTerminal = true) (ho : j.outcome = .passed) :
    ∃ id startedAt reading now, st = ended id startedAt (.reported reading) now ∧
      j.executionId = some id ∧ j.status = .finished ∧
      j.verdict = (r.evaluate test reading.report).verdict := by
  have hended : st.isEnded = true := isEnded_iff.mpr ⟨j, h, ht⟩
  cases st with
  | noUnit reason now =>
    cases h
    cases ho
  | ended id startedAt ending now =>
    cases h
    cases ending with
    | failed reason => cases ho
    | timedOut => cases ho
    | reported reading =>
      refine ⟨id, startedAt, reading, now, rfl, executionId_knownJob _ _ _, rfl, ?_⟩
      have hnone : (knownJob test id startedAt).verdict = none := by cases startedAt <;> rfl
      show ((r.evaluate test reading.report).verdict <|> (knownJob test id startedAt).verdict) = _
      rw [hnone]
      cases (r.evaluate test reading.report).verdict <;> rfl
  | _ => cases hended

/-- Whoever has read a report takes itself to have a job. -/
theorem exists_entry_of_reading? (r : Runner) (test : SecurityTest) {reading : Reading}
    (h : st.reading? = some reading) : ∃ job, st.entry? r test = some job := by
  cases st with
  | follow | recordEnd | ended => exact ⟨_, rfl⟩
  | _ => cases h

end RunStage

namespace Staging

variable {r : Runner} {w : Surroundings} {c : Staging} {a : Analysis} {j : Job}

/-- **An entry of a complete analysis that speaks for a pass is that of a run that has read a
report.** -/
theorem exists_run_of_job (hc : c.Kept r) (hx : c.Exact r) (ha : a ∈ c.store.analyses)
    (hcomplete : a.isComplete = true) (hj : j ∈ a.jobs) (ho : j.outcome = .passed) :
    ∃ (i : Nat) (ctx : UnitContext) (id : String) (startedAt : Option Timestamp)
      (reading : Reading) (now : Timestamp), ctx.rid = a.rid ∧
      c.stages[i]? = some (.run ctx j.securityTest (.ended id startedAt (.reported reading) now)) ∧
      j.executionId = some id ∧ j.status = .finished ∧
      j.verdict = (r.evaluate j.securityTest reading.report).verdict := by
  have hd := (hc.balances a ha).distinct_of_isComplete account_sane hcomplete
  obtain ⟨i, -, job, hknown, rfl⟩ := exists_mem_of_forall₂ ((hx a ha).entries hd) hj
  obtain ⟨ctx, stage, hrid, hi, hentry⟩ := exists_run_of_known hknown
  have hterminal := (Analysis.isComplete_iff.mp hcomplete).2 j hj
  obtain ⟨id, startedAt, reading, now, rfl, h⟩ :=
    RunStage.exists_reading_of_outcome hentry hterminal ho
  exact ⟨i, ctx, id, startedAt, reading, now, hrid, hi, h⟩

/-- In a complete analysis no two runs have read the reports of one unit. -/
theorem place_eq_of_unit? (hc : c.Kept r) (ha : a ∈ c.store.analyses)
    (hcomplete : a.isComplete = true) {i i' : Nat} {ctx ctx' : UnitContext}
    {test test' : SecurityTest} {stage stage' : RunStage} {reading reading' : Reading} {id : String}
    (hi : c.stages[i]? = some (.run ctx test stage)) (hrid : ctx.rid = a.rid)
    (hread : stage.reading? = some reading) (hunit : stage.unit? = some id)
    (hi' : c.stages[i']? = some (.run ctx' test' stage')) (hrid' : ctx'.rid = a.rid)
    (hread' : stage'.reading? = some reading') (hunit' : stage'.unit? = some id) : i = i' := by
  have hd := (hc.balances a ha).distinct_of_isComplete account_sane hcomplete
  obtain ⟨job, hjob⟩ := RunStage.exists_entry_of_reading? r test hread
  obtain ⟨job', hjob'⟩ := RunStage.exists_entry_of_reading? r test' hread'
  have hknown := (known_of_run (r := r) hi).trans hjob
  have hknown' := (known_of_run (r := r) hi').trans hjob'
  have hid : job.executionId = some id := (RunStage.unit?_of_entry? hjob).symm.trans hunit
  have hid' : job'.executionId = some id := (RunStage.unit?_of_entry? hjob').symm.trans hunit'
  rw [hrid] at hknown
  rw [hrid'] at hknown'
  exact hd i i' job job' hknown hknown' (by simp [hid]) (hid.trans hid'.symm)

/-- **Whatever the report of a detector asks for that has passed is to run.** -/
theorem schedules_of_reading {m : Store.Memory} (hr : r.readers = .builtin) (hm : m.analyses = [])
    {t : List Crowd.Event} (h : History r w.reliable (idle m) t c) (ha : a ∈ c.store.analyses)
    (hcomplete : a.isComplete = true) (hj : j ∈ a.jobs) (ho : j.outcome = .passed)
    (hd : j.testName = SecurityTest.detectorName) (hv : j.verdict = some .passed) {id : String}
    (hid : j.executionId = some id) {i : Nat} {ctx : UnitContext} {test : SecurityTest}
    {stage : RunStage} {reading : Reading} (hi : c.stages[i]? = some (.run ctx test stage))
    (hrid : ctx.rid = a.rid) (hread : stage.reading? = some reading) (hunit : stage.unit? = some id)
    {x : SecurityTest} (hx : x ∈ reading.known) (hdefault : x.isDefault = true)
    (hl : x.language ∈ (r.evaluate test reading.report).languages ∨
      x.language = SecurityTest.genericLanguage) : x.name ∈ a.pendingNames := by
  obtain ⟨hc, hexact⟩ := exact_history hm h
  obtain ⟨i', ctx', id', startedAt, reading', now, hrid', hi', hid', -, hverdict⟩ :=
    exists_run_of_job hc hexact ha hcomplete hj ho
  obtain rfl : id = id' := Option.some.inj (hid.symm.trans hid')
  obtain rfl := place_eq_of_unit? hc ha hcomplete hi hrid hread hunit hi' hrid' rfl rfl
  cases hi'.symm.trans hi
  cases hread
  have hcovers := covers_of_history hm h hi
  have hask : reading.Asks r j.securityTest x := ⟨hx, hdefault, Runner.mem_lookups hr hd hl⟩
  rcases hcovers hd (hverdict.symm.trans hv) x hask with hdetector | ⟨b, hb, hbrid, hn⟩
  · -- the detector itself is to run, since it has an entry
    have hperm := ((hc.balances a ha).perm_of_isComplete account_sane hcomplete).2
    rw [hdetector, ← hd]
    exact hperm.mem_iff.mpr (List.mem_map_of_mem hj)
  · rwa [Store.eq_of_rid_eq hc.rids hb ha (hbrid.trans hrid)] at hn

end Staging

/-! ## Crowds -/

variable {r : Runner} {w : Surroundings} {m : Store.Memory} {s : Crowd}

/-- **No false pass.**  With the built-in readers and a store that does not fail of itself, whatever
turns are taken and whatever the backend does: when somebody who asked for an analysis has been told
that it has ended and passed,

* it has as many entries of each name as tests;
* every entry speaks for a pass;
* for each entry of the detector with a pass, the report of its unit has been read, and every test
  that was registered before as default for one of the languages in the report, or as generic, is to
  run and has an entry that speaks for a pass. -/
theorem no_false_pass (hr : r.readers = .builtin) (hm : m.analyses = [])
    (h : Crowd.Reachable r w.reliable (.idle m) s) {i : Nat} {rid : Uuid} {a : Analysis}
    (hi : s.workers[i]? = some ⟨.status rid, .done (.ok a)⟩) (ha : a.status = .finished)
    (hp : a.result = some .passed) :
    (∀ name, a.startedNames.count name = a.pendingNames.count name) ∧
      (∀ j ∈ a.jobs, j.Passes) ∧
      ∀ j ∈ a.jobs, j.testName = SecurityTest.detectorName → j.verdict = some .passed →
        ∃ id, j.executionId = some id ∧
          (∃ report s₁,
            Crowd.HasRead r w.reliable (.idle m) rid j.securityTest id report s₁ s) ∧
          ∀ test report s₁, Crowd.HasRead r w.reliable (.idle m) rid test id report s₁ s →
            ∀ x ∈ s₁.store.securityTests, x.isDefault = true →
              (x.language ∈ (r.evaluate test report).languages ∨
                x.language = SecurityTest.genericLanguage) →
              x.name ∈ a.pendingNames ∧ ∃ j' ∈ a.jobs, j'.testName = x.name ∧ j'.Passes := by
  obtain ⟨t, ht⟩ := Crowd.reachable_iff_exists_history.mp h
  obtain ⟨c, hhist, rfl, hrecalls⟩ := exists_staging_recalls ht
  obtain ⟨hc, hx⟩ := Staging.exact_history hm hhist
  have hearned := ((Staging.orderly_idle (r := r) hm).history hhist).stored.earned
  obtain ⟨stage, hstage, hworker⟩ := Staging.getElem?_workers_crowd.mp hi
  obtain rfl := Stage.eq_status_of_worker hworker
  obtain ⟨b, hb, rfl, rfl⟩ := Staging.tells_of_toldAt hm hhist hstage ha
  have hcomplete := (hearned b hb).isComplete ha
  have houtcome : ∀ j ∈ b.jobs, j.outcome = .passed := fun j hj =>
    (hearned b hb).outcome_of_passed hcomplete hp hj
  have hperm := ((hc.balances b hb).perm_of_isComplete Staging.account_sane hcomplete).2
  have hpasses : ∀ j ∈ b.jobs, j.Passes := by
    intro j hj
    obtain ⟨i, ctx, id, startedAt, reading, now, -, -, -, hfinished, hverdict⟩ :=
      Staging.exists_run_of_job hc hx hb hcomplete hj (houtcome j hj)
    refine ⟨hfinished, (Job.verdict_of_outcome hfinished (houtcome j hj)).imp_right fun hnone => ?_⟩
    exact ⟨hnone, Runner.lowercase_eq_safety hr (hverdict.symm.trans hnone)⟩
  refine ⟨fun name => (hperm.count_eq name).symm, hpasses, fun j hj hd hv => ?_⟩
  obtain ⟨i, ctx, id, startedAt, reading, now, hrid, hrun, hid, -⟩ :=
    Staging.exists_run_of_job hc hx hb hcomplete hj (houtcome j hj)
  refine ⟨id, hid, ?_, fun test report s₁ hread x hx hdefault hl => ?_⟩
  · obtain ⟨id', s₁, hread, hunit, -⟩ := hrecalls i ctx j.securityTest _ reading hrun rfl
    cases hunit
    exact ⟨reading.report, s₁, hrid ▸ hread⟩
  · obtain ⟨t', c', i', ctx', stage', hhist', hcrowd, hrid', hrun', hread', hunit'⟩ :=
      hread.exists_staging
    have hb' : b ∈ c'.store.analyses := by
      have hstore : c'.store = c.store := congrArg Crowd.store hcrowd
      rwa [hstore]
    have hn := Staging.schedules_of_reading hr hm hhist' hb' hcomplete hj (houtcome j hj) hd hv hid
      hrun' hrid' hread' hunit' hx hdefault hl
    obtain ⟨j', hj', hname⟩ := List.mem_map.mp (hperm.mem_iff.mp hn)
    exact ⟨hn, j', hj', hname, hpasses j' hj'⟩

/-- In the sample somebody is told of a pass, and the detector's report has been read for it. -/
theorem no_false_pass_sample : ∃ s a,
    Crowd.replay Script.sampleRunner .sample (Script.admission ++ Script.completion)
        (.idle Script.sampleStore) = some s ∧
      s.workers[3]? = some ⟨.status .zero, .done (.ok a)⟩ ∧ a.status = .finished ∧
      a.result = some .passed ∧ a.pendingNames = [SecurityTest.detectorName, "bandit"] ∧
      (∀ j ∈ a.jobs, j.Passes) ∧
      ∃ id report s₁, Crowd.HasRead Script.sampleRunner Surroundings.arbitrary.reliable
        (.idle Script.sampleStore) .zero Script.sampleDetector id report s₁ s := by
  obtain ⟨s, a, j, hs, hi, ha, hp, hpending, hj, htest, hd, hv⟩ : ∃ s a j,
      Crowd.replay Script.sampleRunner .sample (Script.admission ++ Script.completion)
          (.idle Script.sampleStore) = some s ∧
        s.workers[3]? = some ⟨.status .zero, .done (.ok a)⟩ ∧ a.status = .finished ∧
        a.result = some .passed ∧ a.pendingNames = [SecurityTest.detectorName, "bandit"] ∧
        a.jobs[0]? = some j ∧ j.securityTest = Script.sampleDetector ∧
        j.testName = SecurityTest.detectorName ∧ j.verdict = some .passed :=
    ⟨_, _, _, rfl, rfl, rfl, rfl, rfl, rfl, rfl, rfl, rfl⟩
  have hreach := Crowd.reachable_of_replay (w := Surroundings.arbitrary.reliable)
    (fun _ _ _ _ => True.intro) hs
  obtain ⟨-, hpasses, hdetector⟩ := no_false_pass rfl rfl hreach hi ha hp
  obtain ⟨id, -, ⟨report, s₁, hread⟩, -⟩ := hdetector j (List.mem_of_getElem? hj) hd hv
  exact ⟨s, a, hs, hi, ha, hp, hpending, hpasses, id, report, s₁, htest ▸ hread⟩

end Service
end ScanService
