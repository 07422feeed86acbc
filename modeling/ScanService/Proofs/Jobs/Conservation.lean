import ScanService.Proofs.Admission.Exclusion
import ScanService.Proofs.Admission.Finality
import ScanService.Proofs.Ledger.Exact
import ScanService.Proofs.Ledger.Units
import ScanService.Proofs.Stages.Launches

/-!
# No job is lost and none is stuck

With a store that does not fail of itself, and units of an analysis that all have identifiers of
their own, nothing that happens to a run keeps its analysis from ending: the tests that are to run
are those of the runs, each run has at most one entry, each entry is that of one run, and when no
run is left the entries say that the analysis has ended.

## What is here

* `Crowd.runsFor`, `Crowd.recorders` — the runs of an analysis, and those that have recorded an
  entry.
* `isComplete_of_all_ended` — **when no run is left the analysis is complete.**
* `no_job_lost_or_stuck` — all of this at the level of crowds.
-/

namespace ScanService
namespace Service

open Execution (UnitContext)

/-- The tests of the runs that have been launched for an analysis, in order. -/
def Crowd.runsFor (s : Crowd) (rid : Uuid) : List SecurityTest :=
  (s.launched.filter fun run => run.1.rid == rid).map (·.2)

/-- The places of the runs that have recorded an entry of an analysis, in the order of its
entries. -/
def Crowd.recorders (t : List Crowd.Event) (rid : Uuid) : List Nat :=
  ((t.filterMap Crowd.Event.recorded?).filter fun x => x.1 == rid).map (·.2)

namespace Staging

variable {r : Runner} {w : Surroundings} {c c' : Staging} {i : Nat} {rid : Uuid}

/-! ## The account as the crowd shows it -/

theorem map_runsFrom (n : Nat) (stages : List Stage) :
    (runsFrom rid n stages).map (·.2) = stages.filterMap (Stage.testFor? rid) := by
  induction stages generalizing n with
  | nil => rfl
  | cons stage rest ih =>
    rw [runsFrom_cons, List.map_append, ih, List.filterMap_cons]
    cases stage.testFor? rid <;> rfl

/-- The runs of the account are those that have been launched. -/
theorem tests_account (c : Staging) (rid : Uuid) :
    (c.account r rid).tests = (c.crowd r).runsFor rid := by
  have hstage : ∀ stage : Stage, stage.testFor? rid =
      ((stage.worker r).errand.run?.filter fun run => run.1.rid == rid).map (·.2) := by
    intro stage
    cases stage with
    | run ctx test stage =>
      by_cases h : ctx.rid = rid <;>
        simp [Stage.testFor?, Stage.worker, Errand.run?, Option.filter, h]
    | admission url stage => rfl
    | status rid' answer? => cases answer? <;> rfl
    | plain e rest he => cases e <;> first | rfl | cases he
  rw [Account.tests, account, map_runsFrom, Crowd.runsFor, Crowd.launched, errands_crowd,
    List.filterMap_map]
  induction c.stages with
  | nil => rfl
  | cons stage rest ih =>
    rw [List.filterMap_cons, List.filterMap_cons, hstage, ih, Function.comp_apply]
    cases (stage.worker r).errand.run? with
    | none => rfl
    | some run => by_cases h : run.1.rid = rid <;> simp [Option.filter, h]

/-- What has been recorded is what the events say. -/
theorem Turn.recorded {q : Call} {answer : q.Answer} (h : Turn r w i q answer c c') :
    c'.recorded = c.recorded ++ (Crowd.Event.recorded? ⟨i, q, answer⟩).toList := by
  cases h with
  | runStore => rfl
  | @admission _ url stage stage' q answer m admitted hi ha h =>
    have hnone : Crowd.Event.recorded? ⟨i, .store q, answer⟩ = none := by
      cases h with
      | failed _ e => cases q <;> rfl
      | _ => rfl
    rw [hnone]
    exact (List.append_nil _).symm
  | @plain _ e rest rest' he h h' q answer m hi hq =>
    rw [recorded?_of_sparesAnalyses hq]
    exact (List.append_nil _).symm
  | runBackend | enter | status => exact (List.append_nil _).symm

theorem History.recorded {start : Staging} (hstart : start.recorded = []) {t : List Crowd.Event}
    (h : History r w start t c) : c.recorded = t.filterMap Crowd.Event.recorded? := by
  induction h with
  | start => exact hstart
  | request _ _ ih => exact ih
  | @turn t c c' i q answer _ hturn ih =>
    rw [hturn.recorded, ih, List.filterMap_append]
    cases h : Crowd.Event.recorded? ⟨i, q, answer⟩ <;> simp [h]

theorem owners_account_of_start {start : Staging} (hstart : start.recorded = [])
    {t : List Crowd.Event} (h : History r w start t c) :
    (c.account r rid).owners = Crowd.recorders t rid := by
  rw [account, h.recorded hstart, Crowd.recorders]

theorem owners_account {m : Store.Memory} {t : List Crowd.Event} (h : History r w (idle m) t c) :
    (c.account r rid).owners = Crowd.recorders t rid :=
  owners_account_of_start rfl h

/-- Whoever takes itself to have a job is on the errand of running its test. -/
theorem errand_of_known {job : Job} (h : (c.account r rid).known i = some job) :
    ∃ ctx : UnitContext, ctx.rid = rid ∧
      (c.crowd r).errands[i]? = some (.run ctx job.securityTest) := by
  obtain ⟨ctx, stage, hrid, hi, -⟩ := exists_run_of_known h
  exact ⟨ctx, hrid, errands_of_run hi⟩

/-! ## When no run is left -/

/-- The run in one place of the account. -/
theorem exists_run_of_mem_places (h : i ∈ (c.account r rid).places) :
    ∃ (ctx : UnitContext) (test : SecurityTest) (stage : RunStage),
      ctx.rid = rid ∧ c.stages[i]? = some (.run ctx test stage) := by
  obtain ⟨⟨i', test⟩, hrun, rfl⟩ := List.mem_map.mp h
  obtain ⟨ctx, stage, hrid, hi⟩ := exists_run_of_mem_runs hrun
  exact ⟨ctx, test, stage, hrid, hi⟩

/-- When no run of an analysis is left, each has ended. -/
theorem isEnded_of_all_ended {a : Analysis} {ctx : UnitContext} {test : SecurityTest}
    {stage : RunStage} (hended : ∀ ctx test, (c.crowd r).HasLiveRun ctx test → ctx.rid ≠ a.rid)
    (hi : c.stages[i]? = some (.run ctx test stage)) (hrid : ctx.rid = a.rid) :
    stage.isEnded = true := by
  by_contra hlive
  rw [Bool.not_eq_true] at hlive
  exact hended ctx test (hasLiveRun_crowd_iff.mpr ⟨i, stage, hi, hlive⟩) hrid

/-- **When no run is left the analysis is complete**, with exactly as many entries of each name as
tests. -/
theorem isComplete_of_all_ended {a : Analysis} (hc : c.Kept r) (hx : c.Exact r)
    (hu : c.UnitsApart) (ha : a ∈ c.store.analyses)
    (hended : ∀ ctx test, (c.crowd r).HasLiveRun ctx test → ctx.rid ≠ a.rid) :
    a.isComplete = true ∧ a.startedNames.Perm a.pendingNames := by
  refine (hx a ha).isComplete_of_ended (hc.balances a ha) account_sane nodup_places
    (hu.distinct_account a.rid) fun i hi => ?_
  obtain ⟨ctx, test, stage, hrid, hi⟩ := exists_run_of_mem_places hi
  rw [← hrid, known_of_run hi]
  exact RunStage.isEnded_iff.mp (isEnded_of_all_ended hended hi hrid)

end Staging

/-! ## Crowds -/

variable {r : Runner} {w : Surroundings} {m : Store.Memory} {s : Crowd}

/-- **No job is lost and none is stuck.**  Whatever turns are taken and whatever the backend does,
as long as the store does not fail of itself and the identifiers of an analysis' units are all
different:

* all runs are of stored analyses, and an analysis is to run as many tests of each name as runs have
  been launched for it;
* no run has recorded two entries, and each entry is that of a run of its test;
* when no run of an analysis is left, it has as many entries of each name as tests, all of them
  terminal, and readers are told that it has ended, with a result;
* a run launches tests for its own analysis only, never the detector, and none at all unless it is
  the detector's. -/
theorem no_job_lost_or_stuck (hm : m.analyses = []) {t : List Crowd.Event}
    (h : Crowd.History r w.reliable.withFreshUnits (.idle m) t s) :
    (∀ run ∈ s.launched, ∃ a ∈ s.store.analyses, a.rid = run.1.rid) ∧
      (∀ a ∈ s.store.analyses,
        (∀ name, a.pendingNames.count name = ((s.runsFor a.rid).map (·.name)).count name) ∧
        (Crowd.recorders t a.rid).Nodup ∧
        List.Forall₂ (fun i j => ∃ ctx : UnitContext, ctx.rid = a.rid ∧
          s.errands[i]? = some (.run ctx j.securityTest)) (Crowd.recorders t a.rid) a.jobs ∧
        ((∀ ctx test, s.HasLiveRun ctx test → ctx.rid ≠ a.rid) →
          (∀ name, a.startedNames.count name = a.pendingNames.count name) ∧
          (∀ j ∈ a.jobs, j.status.isTerminal = true) ∧
          ∃ b, s.told? a.rid = some b ∧ b.status = .finished ∧ b.result.isSome = true)) ∧
      ∀ (i : Nat) (q : Call) (answer : q.Answer) (s' : Crowd),
        Crowd.Turn r w.reliable.withFreshUnits i q answer s s' →
          ∀ ctx test, s.errands[i]? = some (.run ctx test) →
            ∃ tests : List SecurityTest, s'.errands = s.errands ++ tests.map (.run ctx) ∧
              (tests ≠ [] → test.name = SecurityTest.detectorName) ∧
              ∀ x ∈ tests, x.name ≠ SecurityTest.detectorName := by
  obtain ⟨c, hhist, rfl⟩ := Staging.exists_staging (c := .idle m) h
  have hexact := Staging.exact_history (w := w.withFreshUnits) hm hhist
  obtain ⟨hc, hx⟩ := hexact
  have hu := Staging.unitsApart_history (w := w.reliable) hhist
  have hearned := ((Staging.orderly_idle (r := r) hm).history hhist).stored.earned
  refine ⟨fun run hrun => ?_, fun a ha => ⟨fun name => ?_, ?_, ?_, fun hended => ?_⟩,
    fun i q answer s' hturn ctx test hi => ?_⟩
  · obtain ⟨i, stage, hi⟩ := Staging.exists_run_of_mem_launched hrun
    obtain ⟨a, ha, hrid, -⟩ := hc.mem_of_run hi
    exact ⟨a, ha, hrid⟩
  · have htests := (hc.balances a ha).tests
    rw [Staging.tests_account] at htests
    rw [Analysis.pendingNames, htests]
  · rw [← Staging.owners_account hhist]
    exact (hc.balances a ha).nodup
  · rw [← Staging.owners_account hhist]
    refine List.Forall₂.imp (fun i j hentry => ?_) (hc.balances a ha).entries
    obtain ⟨job, hjob, hmatches⟩ := hentry
    rw [hmatches.2]
    exact Staging.errand_of_known hjob
  · obtain ⟨hcomplete, hnames⟩ := Staging.isComplete_of_all_ended hc hx hu ha hended
    have htold : (c.crowd r).told? a.rid = some a.snapshot :=
      (Staging.told?_crowd_iff hc.rids).mpr ⟨a, ha, rfl, rfl⟩
    have hend := (hearned a ha).aggregate_eq hcomplete
    refine ⟨fun name => hnames.count_eq name, (Analysis.isComplete_iff.mp hcomplete).2, a.snapshot,
      htold, ?_, ?_⟩
    · rw [Analysis.status_snapshot, hend]
    · show a.aggregate.result.isSome = true
      rw [hend]
      rfl
  · obtain ⟨c', hstaged, rfl⟩ := Staging.staged_turn hturn
    obtain ⟨stage, hi⟩ := Staging.exists_run_of_errands hi
    exact Staging.errands_of_turn hhist hstaged hi

/-- In the sample no run is left in the end, and the analysis has an entry for the detector and one
for the test that followed. -/
theorem no_job_lost_or_stuck_sample : ∃ s,
    Crowd.replay Script.sampleRunner .sample (Script.admission ++ Script.completion)
        (.idle Script.sampleStore) = some s ∧
      (∀ ctx test, ¬s.HasLiveRun ctx test) ∧
      ∃ a ∈ s.store.analyses, a.pendingNames = [SecurityTest.detectorName, "bandit"] ∧
        (∀ name, a.startedNames.count name = a.pendingNames.count name) ∧
        ∃ b, s.told? a.rid = some b ∧ b.status = .finished ∧ b.result.isSome = true := by
  obtain ⟨s, a, hs, hstored, hpending, hworkers⟩ : ∃ s a,
      Crowd.replay Script.sampleRunner .sample (Script.admission ++ Script.completion)
          (.idle Script.sampleStore) = some s ∧
        s.store.analyses = [a] ∧ a.pendingNames = [SecurityTest.detectorName, "bandit"] ∧
        s.workers.map Worker.isLive = [false, false, false, false] :=
    ⟨_, _, rfl, rfl, rfl, rfl⟩
  have hended : ∀ ctx test, ¬s.HasLiveRun ctx test := by
    rintro ctx test ⟨x, hx, -, hlive⟩
    have hmem := List.mem_map_of_mem (f := Worker.isLive) hx
    rw [hworkers, hlive] at hmem
    simp at hmem
  have hreach := Crowd.reachable_of_replay (w := Surroundings.arbitrary.reliable.withFreshUnits)
    (fun _ _ _ h => ⟨True.intro, h⟩) hs
  obtain ⟨t, ht⟩ := Crowd.reachable_iff_exists_history.mp hreach
  have ha : a ∈ s.store.analyses := hstored ▸ List.mem_cons_self
  have hlast := ((no_job_lost_or_stuck rfl ht).2.1 a ha).2.2.2 fun ctx test h =>
    absurd h (hended ctx test)
  exact ⟨s, hs, hended, a, ha, hpending, hlast.1, hlast.2.2⟩

end Service
end ScanService
