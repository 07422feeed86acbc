import ScanService.Distinct
import ScanService.Proofs.Stages.Gathered

/-!
# What runs launch

A run launches tests only when it is the detector's and has passed, and it never launches the
detector again.  This is seen from where the tests come from that it asks the store to append:
`KeepsToFollowUps` says so of a stage, each step keeps it, and so it holds of all runs at all times.

## What is here

* `RunStage.Step.launches` — **what a step of a run may launch.**
* `errands_of_turn` — the errands that a turn of a run adds.
-/

namespace ScanService

/-- Follow-up tests are never the detector. -/
theorem Service.name_ne_of_mem_followUps {scheduled : List String} {selected : List SecurityTest}
    {test : SecurityTest} (h : test ∈ followUps scheduled selected) :
    test.name ≠ SecurityTest.detectorName := by
  have hmem := (mem_of_mem_firstBy h).1
  simpa using (List.mem_filter.mp hmem).2

/-- Every other test that has been selected is scheduled or follows, as far as its name is
concerned. -/
theorem Service.name_mem_or_mem_followUps {scheduled : List String} {selected : List SecurityTest}
    {test : SecurityTest} (h : test ∈ selected) (hd : test.name ≠ SecurityTest.detectorName) :
    test.name ∈ scheduled ∨ test.name ∈ (followUps scheduled selected).map fun t => t.name := by
  refine key_mem_map_firstBy (List.mem_filter.mpr ⟨h, ?_⟩)
  simpa using hd

namespace Service

open Execution (UnitContext)

/-! ## Stages of a detector -/

namespace RunStage

variable {r : Runner} {ctx : UnitContext} {test : SecurityTest} {known : List SecurityTest}

/-- Only a detector sees to follow-up tests, and none of them is the detector. -/
def KeepsToFollowUps (test : SecurityTest) : RunStage → Prop
  | follow _ _ _ stage => test.name = SecurityTest.detectorName ∧
    ∀ tests, stage = .recordTests tests → ∀ t ∈ tests, t.name ≠ SecurityTest.detectorName
  | _ => True

theorem Step.keepsToFollowUps {st st' : RunStage} {c : Call} {answer : c.Answer}
    {tests : List SecurityTest} (h : st.Step r ctx test known c answer st' tests)
    (hst : st.KeepsToFollowUps test) : st'.KeepsToFollowUps test := by
  cases h with
  | detected report hd => exact ⟨hd.1, fun _ he => by cases he⟩
  | lookedUp | selectionRecorded => exact ⟨hst.1, fun _ he => by cases he⟩
  | scheduledRead htests =>
    refine ⟨hst.1, fun _ he t ht => ?_⟩
    cases he
    rw [htests] at ht
    exact name_ne_of_mem_followUps ht
  | _ => exact True.intro

/-- **What a step of a run may launch:** tests other than the detector, and only if the run is the
detector's. -/
theorem Step.launches {st st' : RunStage} {c : Call} {answer : c.Answer} {tests : List SecurityTest}
    (h : st.Step r ctx test known c answer st' tests) (hst : st.KeepsToFollowUps test) :
    (tests ≠ [] → test.name = SecurityTest.detectorName) ∧
      ∀ t ∈ tests, t.name ≠ SecurityTest.detectorName := by
  cases h with
  | testsRecorded now => exact ⟨fun _ => hst.1, hst.2 tests rfl⟩
  | _ => exact ⟨fun h => absurd rfl h, fun _ ht => by cases ht⟩

end RunStage

/-! ## Runs at all times -/

namespace Staging

variable {r : Runner} {w : Surroundings} {c c' : Staging} {i : Nat}

/-- All runs keep to follow-up tests at all times. -/
theorem keepsToFollowUps_of_gathered {m : Store.Memory} {errands : List Errand}
    {t : List Crowd.Event} (h : History r w (gathered r m errands) t c) {j : Nat} {ctx : UnitContext}
    {test : SecurityTest} {stage : RunStage} (hj : c.stages[j]? = some (.run ctx test stage)) :
    stage.KeepsToFollowUps test :=
  run_of_history (P := fun _ test stage => stage.KeepsToFollowUps test) (fun _ _ => True.intro)
    (fun h hst => h.keepsToFollowUps hst) h hj

theorem keepsToFollowUps_of_history {m : Store.Memory} {t : List Crowd.Event}
    (h : History r w (idle m) t c) {j : Nat} {ctx : UnitContext} {test : SecurityTest}
    {stage : RunStage} (hj : c.stages[j]? = some (.run ctx test stage)) :
    stage.KeepsToFollowUps test := by
  rw [← gathered_nil r m] at h
  exact keepsToFollowUps_of_gathered h hj

theorem errands_crowd (c : Staging) :
    (c.crowd r).errands = c.stages.map fun stage => (stage.worker r).errand := by
  rw [Crowd.errands, crowd, List.map_map]
  rfl

/-- Whoever is on the errand of a run in a crowd is a run in the staging. -/
theorem exists_run_of_errands {ctx : UnitContext} {test : SecurityTest}
    (h : (c.crowd r).errands[i]? = some (.run ctx test)) :
    ∃ stage, c.stages[i]? = some (.run ctx test stage) := by
  rw [errands_crowd, List.getElem?_map, Option.map_eq_some_iff] at h
  obtain ⟨x, hi, he⟩ := h
  obtain ⟨stage, rfl⟩ := Stage.eq_run_of_errand he
  exact ⟨stage, hi⟩

theorem errands_of_run {ctx : UnitContext} {test : SecurityTest} {stage : RunStage}
    (hi : c.stages[i]? = some (.run ctx test stage)) :
    (c.crowd r).errands[i]? = some (.run ctx test) := by
  rw [errands_crowd, List.getElem?_map, hi]
  rfl

theorem exists_run_of_mem_launched {run : UnitContext × SecurityTest}
    (h : run ∈ (c.crowd r).launched) :
    ∃ (i : Nat) (stage : RunStage), c.stages[i]? = some (.run run.1 run.2 stage) := by
  obtain ⟨e, he, hrun⟩ := List.mem_filterMap.mp h
  rw [errands_crowd] at he
  obtain ⟨stage, hstage, rfl⟩ := List.mem_map.mp he
  obtain ⟨i, hi⟩ := List.mem_iff_getElem?.mp hstage
  have herrand : (stage.worker r).errand = .run run.1 run.2 := by
    cases herrand : (stage.worker r).errand <;> rw [herrand] at hrun <;> cases hrun
    rfl
  obtain ⟨st, rfl⟩ := Stage.eq_run_of_errand herrand
  exact ⟨i, st, hi⟩

/-- A task that goes on for its errand adds the errands that it launches. -/
theorem errands_goOn {old : Stage} (hi : c.stages[i]? = some old) (stage : Stage)
    (he : (stage.worker r).errand = (old.worker r).errand) (launched : List Errand) :
    ((c.goOn r i stage launched).crowd r).errands = (c.crowd r).errands ++ launched := by
  have hset : (c.stages.set i stage).map (fun x => (x.worker r).errand) =
      c.stages.map fun x => (x.worker r).errand := by
    refine List.ext_getElem? fun j => ?_
    rw [List.getElem?_map, List.getElem?_map, List.getElem?_set]
    split
    · next hij =>
      subst hij
      rw [if_pos (List.getElem?_eq_some_iff.mp hi).1, hi, Option.map_some, Option.map_some, he]
    · rfl
  have hbegin : (launched.map (Stage.begin r)).map (fun x => (x.worker r).errand) = launched := by
    simp [Function.comp_def, Worker.begin]
  rw [errands_crowd, errands_crowd, goOn, List.map_append, hset, hbegin]

/-- **The errands that a turn of a run adds:** runs of its own analysis, of tests other than the
detector, and only if the run is the detector's. -/
theorem errands_of_turn {m : Store.Memory} {t : List Crowd.Event} (hc : History r w (idle m) t c)
    {q : Call} {answer : q.Answer} (h : Turn r w i q answer c c') {ctx : UnitContext}
    {test : SecurityTest} {stage : RunStage} (hi : c.stages[i]? = some (.run ctx test stage)) :
    ∃ tests : List SecurityTest,
      (c'.crowd r).errands = (c.crowd r).errands ++ tests.map (.run ctx) ∧
      (tests ≠ [] → test.name = SecurityTest.detectorName) ∧
      ∀ t ∈ tests, t.name ≠ SecurityTest.detectorName := by
  have hkeeps := keepsToFollowUps_of_history hc hi
  cases h with
  | @runStore _ ctx' test' stage₀ stage' q answer m tests hi' ha h =>
    obtain ⟨rfl, rfl, rfl⟩ : ctx' = ctx ∧ test' = test ∧ stage₀ = stage := by
      cases hi'.symm.trans hi
      exact ⟨rfl, rfl, rfl⟩
    refine ⟨tests, ?_, h.launches hkeeps⟩
    exact errands_goOn hi (.run ctx' test' stage') rfl _
  | @runBackend _ ctx' test' stage₀ stage' q answer hi' ha h =>
    refine ⟨[], ?_, fun h => absurd rfl h, fun _ ht => by cases ht⟩
    exact errands_goOn hi' (.run ctx' test' stage') rfl _
  | enter hi' | admission hi' | status hi' | plain hi' => cases hi'.symm.trans hi

end Staging
end Service
end ScanService
