import ScanService.Proofs.Ledger.Exact
import ScanService.Proofs.Stages.Launches

/-!
# No follow-up test is dropped

When a detector has read a report and passed, the default tests of the languages in it must end up
among the tests of the analysis.  `RunStage.Covers` says of each stage on the way where such a test
is: its language is still to be looked up, or it has been selected, or it is about to be recorded,
or it is to run already.  With a reliable store each step keeps this up.

## What is here

* `Reading.Asks` — the tests that a report asks for.
* `RunStage.Covers` — where these are.
* `covers_of_history` — **with a reliable store no test that is asked for is dropped.**
-/

namespace ScanService
namespace Service

open Execution (UnitContext)
open Store (AnalysisPatch)

/-! ## What a report asks for -/

/-- A default test that was registered when a report was read, for a language that is looked up. -/
def Reading.Asks (r : Runner) (test : SecurityTest) (reading : Reading) (t : SecurityTest) : Prop :=
  t ∈ reading.known ∧ t.isDefault = true ∧
    t.language ∈ lookups (r.evaluate test reading.report).languages

/-- A test of this name is to run for an analysis. -/
def Schedules (m : Store.Memory) (rid : Uuid) (name : String) : Prop :=
  ∃ a ∈ m.analyses, a.rid = rid ∧ name ∈ a.pendingNames

/-- A test is to run for an analysis, or it is the detector, which nobody schedules again. -/
def Provides (m : Store.Memory) (rid : Uuid) (t : SecurityTest) : Prop :=
  t.name = SecurityTest.detectorName ∨ Schedules m rid t.name

/-- A test is provided for, or is going to be. -/
def FollowStage.Regards (m : Store.Memory) (rid : Uuid) (t : SecurityTest) : FollowStage → Prop
  | lookUp rest selected => t ∈ selected ∨ t.language ∈ rest
  | readScheduled selected => t ∈ selected
  | recordTests tests => Provides m rid t ∨ t.name ∈ tests.map (·.name)

namespace RunStage

/-- Every test that a detector's report asks for is provided for, or is going to be. -/
def Covers (r : Runner) (m : Store.Memory) (rid : Uuid) (test : SecurityTest) : RunStage → Prop
  | follow _ _ reading stage => reading.known ⊆ m.securityTests ∧
    ∀ t, reading.Asks r test t → stage.Regards m rid t
  | recordEnd _ _ (.reported reading) _ | ended _ _ (.reported reading) _ =>
    test.name = SecurityTest.detectorName →
      (r.evaluate test reading.report).verdict = some .passed →
        ∀ t, reading.Asks r test t → Provides m rid t
  | _ => True

variable {r : Runner} {w : Surroundings} {ctx : UnitContext} {test : SecurityTest}
  {m m' : Store.Memory} {rid : Uuid} {st st' : RunStage} {tests : List SecurityTest}

/-- What is provided for stays so while nothing is taken back. -/
theorem Covers.imp (h : st.Covers r m rid test) (ht : m.securityTests ⊆ m'.securityTests)
    (hs : ∀ name, Schedules m rid name → Schedules m' rid name) : st.Covers r m' rid test := by
  have hprovides : ∀ t, Provides m rid t → Provides m' rid t := fun t => Or.imp_right (hs t.name)
  cases st with
  | follow id startedAt reading stage =>
    refine ⟨List.Subset.trans h.1 ht, fun t hask => ?_⟩
    have hregards := h.2 t hask
    cases stage with
    | lookUp | readScheduled => exact hregards
    | recordTests tests => exact Or.imp_left (hprovides t) hregards
  | recordEnd id startedAt ending now | ended id startedAt ending now =>
    cases ending with
    | reported reading => exact fun hd hv t hask => hprovides t (h hd hv t hask)
    | failed | timedOut => exact True.intro
  | _ => exact True.intro

/-- A test that has been selected is to run already, is to follow, or is the detector. -/
theorem provides_or_mem_followUps {selected : List SecurityTest} {t : SecurityTest}
    {answer : Except ServiceError (Option Analysis)}
    (ha : w.Stores (.findAnalysis (.rid rid)) m answer m') (ht : t ∈ selected) :
    Provides m rid t ∨ t.name ∈
      (followUps ((answer.toOption.join.map Analysis.pendingNames).getD []) selected).map
        (·.name) := by
  by_cases hd : t.name = SecurityTest.detectorName
  · exact .inl (.inl hd)
  · rcases name_mem_or_mem_followUps ht hd with hn | hn
    · exact .inl (.inr (w.pendingNames_of_stores_findAnalysis ha hn))
    · exact .inr hn

/-- **A step that is answered by a reliable store drops no test.** -/
theorem Step.covers_store {q : Store.Call} {answer : q.Answer}
    (h : st.Step r ctx test m.securityTests (.store q) answer st' tests)
    (ha : w.reliable.Stores q m answer m') (hn : (m.analyses.map Analysis.rid).Nodup)
    (hrid : ctx.rid ∈ m.analyses.map Analysis.rid) (hst : st.Covers r m ctx.rid test)
    (hs : ∀ name, Schedules m ctx.rid name → Schedules m' ctx.rid name) :
    st'.Covers r m' ctx.rid test := by
  have ht : m.securityTests ⊆ m'.securityTests := (w.reliable.stores_securityTests_isPrefix ha).subset
  have hst' := hst.imp ht hs
  cases h with
  | failureRecorded | unitRecorded | startRecorded => exact True.intro
  | @lookedUp id startedAt reading language rest selected answer =>
    refine ⟨hst'.1, fun t hask => ?_⟩
    rcases hst.2 t hask with hselected | hrest
    · exact .inl (List.mem_append_left _ hselected)
    · rcases List.mem_cons.mp hrest with hl | hrest
      · have hfound := w.mem_of_stores_findSecurityTests ha (hst.1 hask.1) hl hask.2.1
        exact .inl (List.mem_append_right _ hfound)
      · exact .inr hrest
  | selectionRecorded =>
    refine ⟨hst'.1, fun t hask => ?_⟩
    rcases hst.2 t hask with hselected | hrest
    · exact hselected
    · cases hrest
  | scheduledRead htests =>
    refine ⟨hst'.1, fun t hask => ?_⟩
    rw [htests]
    exact Or.imp_left (Or.imp_right (hs t.name)) (provides_or_mem_followUps ha (hst.2 t hask))
  | nothingToFollow htests =>
    intro _ _ t hask
    rcases provides_or_mem_followUps ha (hst.2 t hask) with hprovides | hmem
    · exact Or.imp_right (hs t.name) hprovides
    · rw [htests] at hmem
      cases hmem
  | testsRecorded now =>
    intro _ _ t hask
    rcases hst.2 t hask with hprovides | hmem
    · exact Or.imp_right (hs t.name) hprovides
    · -- the tests have been appended to the analysis just now
      obtain ⟨a, hmem', hrid⟩ := List.mem_map.mp hrid
      have hm := w.reliable.stores_updateAnalysis hn ha
      have hedited : ({ append := tests } : AnalysisPatch).apply a ∈ m'.analyses :=
        hm ▸ Store.mem_editAnalysis.mpr ⟨a, hmem', if_pos hrid⟩
      refine .inr ⟨_, hedited, hrid, ?_⟩
      rw [Analysis.pendingNames, AnalysisPatch.apply, List.map_append]
      exact List.mem_append_right _ hmem
  | testsRefused e now => cases w.stores_updateAnalysis_isOk hrid ha
  | @endRecorded id startedAt ending now answer =>
    cases ending with
    | reported reading => exact hst'
    | failed | timedOut => exact True.intro

/-- A step that is answered by the backend drops no test. -/
theorem Step.covers_backend {q : Execution.Call} {answer : q.Answer}
    (h : st.Step r ctx test m.securityTests (.backend q) answer st' tests) :
    st'.Covers r m rid test := by
  cases h with
  | detected report hd => exact ⟨List.Subset.refl _, fun t hask => .inr hask.2.2⟩
  | read report hd now => exact fun hname hverdict => absurd ⟨hname, hverdict⟩ hd
  | _ => exact True.intro

end RunStage

/-! ## All runs -/

namespace Staging

variable {r : Runner} {w : Surroundings} {c c' : Staging} {i : Nat} {rid : Uuid} {name : String}

theorem pendingNames_of_move {lost : Prop} {k k' : Account} {f : Analysis → Analysis}
    (h : Account.Move lost i k k' f) {a : Analysis} (hn : name ∈ a.pendingNames) :
    name ∈ (f a).pendingNames := by
  cases h with
  | follow runs =>
    rw [Analysis.pendingNames, AnalysisPatch.apply, List.map_append]
    exact List.mem_append_left _ hn
  | aside | record | lose | change | miss => exact hn

/-- What is to run for an analysis is never taken back. -/
theorem Effect.schedules {lost : Prop} (h : Effect r lost i c c')
    (hs : Schedules c.store rid name) : Schedules c'.store rid name := by
  obtain ⟨a, ha, hrid, hn⟩ := hs
  cases h with
  | aside hm => exact ⟨a, hm ▸ ha, hrid, hn⟩
  | run hi hlive hmove hm =>
    refine ⟨_, hm ▸ Store.mem_editAnalysis.mpr ⟨a, ha, rfl⟩, ?_⟩
    split
    · exact ⟨(hmove.rid_apply a).trans hrid, pendingNames_of_move hmove hn⟩
    · exact ⟨hrid, hn⟩
  | finalize hi hm =>
    refine ⟨_, hm ▸ Store.mem_editAnalysis.mpr ⟨a, ha, rfl⟩, ?_⟩
    split
    · refine ⟨hrid, ?_⟩
      rw [Analysis.pendingNames, AnalysisPatch.apply, List.map_append]
      exact List.mem_append_left _ hn
    · exact ⟨hrid, hn⟩
  | insert hi hnew hm => exact ⟨a, hm ▸ List.mem_append_left _ ha, hrid, hn⟩

/-- Tests that are registered stay so, in their order. -/
theorem Turn.securityTests_isPrefix {q : Call} {answer : q.Answer} (h : Turn r w i q answer c c') :
    c.store.securityTests <+: c'.store.securityTests := by
  cases h with
  | runStore hi ha | admission hi ha | status hi ha => exact w.stores_securityTests_isPrefix ha
  | plain hi hq ha => exact w.stores_securityTests_isPrefix ha
  | runBackend | enter => exact List.prefix_refl _

/-- **With a reliable store no test that is asked for is dropped.** -/
theorem covers_of_history {m : Store.Memory} (hm : m.analyses = []) {t : List Crowd.Event}
    (h : History r w.reliable (idle m) t c) {j : Nat} {ctx : UnitContext} {test : SecurityTest}
    {stage : RunStage} (hj : c.stages[j]? = some (.run ctx test stage)) :
    stage.Covers r c.store ctx.rid test := by
  induction h generalizing j ctx test stage with
  | start => cases hj
  | request _ he ih => exact ih (run_of_request he hj)
  | @turn t c c' i q answer hhist hturn ih =>
    have hc := (kept_idle hm).history hhist
    have hs : ∀ name, Schedules c.store ctx.rid name → Schedules c'.store ctx.rid name :=
      fun name => (hturn.effect hc.rids).schedules
    rcases hturn.cases_run hj with ⟨rfl, stage₀, tests, hi, hstep⟩ | ⟨-, hj⟩ | ⟨-, rfl⟩
    · obtain ⟨a, ha, hrid, -⟩ := hc.mem_of_run hi
      have hstored : ctx.rid ∈ c.store.analyses.map Analysis.rid :=
        hrid ▸ List.mem_map_of_mem ha
      cases hturn with
      | runStore _ ha => exact hstep.covers_store ha hc.rids hstored (ih hi) hs
      | runBackend => exact hstep.covers_backend
      | enter hi' | admission hi' | status hi' | plain hi' => cases hi'.symm.trans hi
    · exact (ih hj).imp hturn.securityTests_isPrefix.subset hs
    · exact True.intro

end Staging
end Service
end ScanService
