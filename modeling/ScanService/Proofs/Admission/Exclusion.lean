import ScanService.Proofs.Admission.Orderly
import ScanService.Proofs.Replay

/-!
# Exclusive admission

What `Orderly` says of stagings is said here of crowds: in whatever order admissions and runs take
their turns, whatever the backend answers and whichever calls to the store fail, no two analyses of
one repository are running, and no analysis with a run that has not ended is ever stored as ended.
-/

namespace ScanService
namespace Service

open Execution (UnitContext)

/-! ## Runs of a crowd -/

/-- A run that has not ended is a task of the crowd. -/
def Crowd.HasLiveRun (s : Crowd) (ctx : UnitContext) (test : SecurityTest) : Prop :=
  ∃ x ∈ s.workers, x.errand = .run ctx test ∧ x.isLive = true

namespace Stage

variable {r : Runner}

/-- A run is live until it has ended. -/
theorem isLive_worker_run (ctx : UnitContext) (test : SecurityTest) (st : RunStage) :
    ((Stage.run ctx test st).worker r).isLive = !st.isEnded := by
  cases st with
  | prepare images h => cases images <;> rfl
  | follow id startedAt reading stage =>
    cases stage with
    | lookUp languages selected => cases languages <;> rfl
    | readScheduled selected => rfl
    | recordTests tests => cases tests <;> rfl
  | _ => rfl

end Stage

namespace Staging

variable {r : Runner} {w : Surroundings} {c : Staging} {ctx : UnitContext} {test : SecurityTest}

/-- The runs of the crowd that have not ended are those of the staging. -/
theorem hasLiveRun_crowd_iff : (c.crowd r).HasLiveRun ctx test ↔
    ∃ (i : Nat) (st : RunStage), c.stages[i]? = some (.run ctx test st) ∧ st.isEnded = false := by
  constructor
  · rintro ⟨x, hx, he, hlive⟩
    obtain ⟨stage, hstage, rfl⟩ := List.mem_map.mp hx
    obtain ⟨st, rfl⟩ := Stage.eq_run_of_errand he
    rw [Stage.isLive_worker_run, Bool.not_eq_true'] at hlive
    obtain ⟨i, hi⟩ := List.mem_iff_getElem?.mp hstage
    exact ⟨i, st, hi, hlive⟩
  · rintro ⟨i, st, hi, hlive⟩
    refine ⟨_, List.mem_map_of_mem (List.mem_of_getElem? hi), rfl, ?_⟩
    rw [Stage.isLive_worker_run, hlive, Bool.not_false]

/-! ## What is stored of live runs -/

/-- An analysis that is stored as ended is complete. -/
theorem Orderly.isComplete_of_finished (hc : c.Orderly r) {a : Analysis}
    (ha : a ∈ c.store.analyses) (hs : a.status = .finished) : a.isComplete = true :=
  (hc.stored.earned a ha).isComplete (by rw [Analysis.aggregate, hs])

/-- An analysis with a run that has not ended is stored as running. -/
theorem Orderly.exists_running_of_run (hc : c.Orderly r) {i : Nat} {st : RunStage}
    (hi : c.stages[i]? = some (.run ctx test st)) (hlive : st.isEnded = false) :
    ∃ a ∈ c.store.analyses, a.rid = ctx.rid ∧ a.url = ctx.repositoryUrl ∧ a.status = .running := by
  obtain ⟨a, ha, hrid, hurl⟩ := hc.kept.mem_of_run hi
  refine ⟨a, ha, hrid, hurl, ?_⟩
  cases hs : a.status with
  | running => rfl
  | finished =>
    have hcomplete := hc.isComplete_of_finished ha hs
    exact absurd hrid (hc.kept.rid_ne_of_run hi hlive ha hcomplete)

/-- No turn takes an analysis with a run that has not ended out of the running ones. -/
theorem Orderly.running_of_turn (hc : c.Orderly r) {c' : Staging} {i j : Nat} {q : Call}
    {answer : q.Answer} (h : Turn r w i q answer c c') {st : RunStage}
    (hj : c.stages[j]? = some (.run ctx test st)) (hlive : st.isEnded = false) :
    ∃ a ∈ c'.store.analyses, a.rid = ctx.rid ∧ a.status = .running := by
  obtain ⟨a, ha, hrid, -, hrunning⟩ := hc.exists_running_of_run hj hlive
  cases h.effect hc.kept.rids with
  | aside hm => exact ⟨a, hm ▸ ha, hrid, hrunning⟩
  | run hi _ hmove hm =>
    refine ⟨_, hm ▸ Store.mem_editAnalysis.mpr ⟨a, ha, rfl⟩, ?_⟩
    split
    · exact ⟨(hmove.rid_apply a).trans hrid, (hmove.status_apply a).trans hrunning⟩
    · exact ⟨hrid, hrunning⟩
  | @finalize url repository b rest hi hm =>
    obtain ⟨-, hended, hawaits⟩ := hc.informed i _ _ hi
    obtain ⟨hmem, -, hcomplete⟩ := hawaits.mem_of_head hended
    have hne : a.rid ≠ b.rid := by
      rw [hrid]
      exact (hc.kept.rid_ne_of_run hj hlive hmem hcomplete).symm
    exact ⟨a, hm ▸ Store.mem_editAnalysis.mpr ⟨a, ha, if_neg hne⟩, hrid, hrunning⟩
  | insert hi _ hm =>
    rw [hm]
    exact ⟨a, List.mem_append_left _ ha, hrid, hrunning⟩

/-- No two analyses of one repository are stored as running. -/
theorem Orderly.length_running_le_one (hc : c.Orderly r) (url : String) :
    (c.store.analyses.filter fun a => a.url == url && a.status == .running).length ≤ 1 := by
  have hnodup : (c.store.analyses.filter fun a => a.url == url && a.status == .running).Nodup :=
    (List.Nodup.of_map _ hc.kept.rids).filter _
  have hmem : ∀ a ∈ c.store.analyses.filter fun a => a.url == url && a.status == .running,
      a ∈ c.store.analyses ∧ a.url = url ∧ a.status = .running := by
    intro a ha
    simpa using ha
  generalize c.store.analyses.filter (fun a => a.url == url && a.status == .running) = running at *
  match running with
  | [] => simp
  | [a] => simp
  | a :: b :: rest =>
    obtain ⟨ha, haurl, harunning⟩ := hmem a (by simp)
    obtain ⟨hb, hburl, hbrunning⟩ := hmem b (by simp)
    have he := hc.stored.one a ha b hb harunning hbrunning (haurl.trans hburl.symm)
    simp [he] at hnodup

/-- Two runs of one repository that have not ended are of one analysis. -/
theorem Orderly.rid_eq_of_run (hc : c.Orderly r) {i i' : Nat} {ctx' : UnitContext}
    {test' : SecurityTest} {st st' : RunStage} (hi : c.stages[i]? = some (.run ctx test st))
    (hi' : c.stages[i']? = some (.run ctx' test' st')) (hlive : st.isEnded = false)
    (hlive' : st'.isEnded = false) (hurl : ctx.repositoryUrl = ctx'.repositoryUrl) :
    ctx.rid = ctx'.rid := by
  obtain ⟨a, ha, hrid, haurl, harunning⟩ := hc.exists_running_of_run hi hlive
  obtain ⟨b, hb, hrid', hburl, hbrunning⟩ := hc.exists_running_of_run hi' hlive'
  have hab : a.url = b.url := by rw [haurl, hburl, hurl]
  rw [← hrid, ← hrid', hc.stored.one a ha b hb harunning hbrunning hab]

/-- An analysis with an entry that is not terminal is stored as running. -/
theorem Orderly.running_of_job (hc : c.Orderly r) {a : Analysis} (ha : a ∈ c.store.analyses)
    {j : Job} (hj : j ∈ a.jobs) (hopen : j.status.isTerminal = false) : a.status = .running := by
  cases hs : a.status with
  | running => rfl
  | finished =>
    have hcomplete := hc.isComplete_of_finished ha hs
    rw [(Analysis.isComplete_iff.mp hcomplete).2 j hj] at hopen
    cases hopen

end Staging

/-! ## Crowds -/

variable {r : Runner} {w : Surroundings} {m : Store.Memory} {s : Crowd}

/-- **Exclusive admission.**  Whatever can be reached from a store without analyses, by any turns,
any answers of the backend and any failures of the store:

* each repository has at most one analysis that is stored as running;
* a run that has not ended is of an analysis that is stored as running, so at most one analysis of a
  repository has such runs, and at most one has entries that are not terminal;
* no step stores an analysis as ended that has such a run. -/
theorem exclusive_admission (hm : m.analyses = []) (h : Crowd.Reachable r w (.idle m) s) :
    (∀ url, (s.store.analyses.filter fun a => a.url == url && a.status == .running).length ≤ 1) ∧
      (∀ ctx test, s.HasLiveRun ctx test → ∃ a ∈ s.store.analyses,
        a.rid = ctx.rid ∧ a.url = ctx.repositoryUrl ∧ a.status = .running) ∧
      (∀ ctx ctx' test test', s.HasLiveRun ctx test → s.HasLiveRun ctx' test' →
        ctx.repositoryUrl = ctx'.repositoryUrl → ctx.rid = ctx'.rid) ∧
      (∀ a ∈ s.store.analyses, ∀ b ∈ s.store.analyses, a.url = b.url →
        (∃ j ∈ a.jobs, j.status.isTerminal = false) → (∃ j ∈ b.jobs, j.status.isTerminal = false) →
          a = b) ∧
      ∀ s', Crowd.Step r w s s' → ∀ ctx test, s.HasLiveRun ctx test →
        ∃ a ∈ s'.store.analyses, a.rid = ctx.rid ∧ a.status = .running := by
  obtain ⟨t, c, hc, rfl⟩ := Staging.exists_staging_of_reachable h
  have hc : c.Orderly r := (Staging.orderly_idle hm).history hc
  refine ⟨hc.length_running_le_one, fun ctx test hlive => ?_,
    fun ctx ctx' test test' hlive hlive' hurl => ?_,
    fun a ha b hb hurl ⟨j, hj, hopen⟩ ⟨j', hj', hopen'⟩ => ?_, fun s' hstep ctx test hlive => ?_⟩
  · obtain ⟨i, st, hi, hlive⟩ := Staging.hasLiveRun_crowd_iff.mp hlive
    exact hc.exists_running_of_run hi hlive
  · obtain ⟨i, st, hi, hlive⟩ := Staging.hasLiveRun_crowd_iff.mp hlive
    obtain ⟨i', st', hi', hlive'⟩ := Staging.hasLiveRun_crowd_iff.mp hlive'
    exact hc.rid_eq_of_run hi hi' hlive hlive' hurl
  · exact hc.stored.one a ha b hb (hc.running_of_job ha hj hopen) (hc.running_of_job hb hj' hopen')
      hurl
  · obtain ⟨j, st, hj, hlive⟩ := Staging.hasLiveRun_crowd_iff.mp hlive
    rcases Crowd.step_iff.mp hstep with ⟨e, -, rfl⟩ | ⟨i, q, answer, hturn⟩
    · obtain ⟨a, ha, hrid, -, hrunning⟩ := hc.exists_running_of_run hj hlive
      exact ⟨a, ha, hrid, hrunning⟩
    · obtain ⟨c', hstaged, rfl⟩ := Staging.staged_turn hturn
      exact hc.running_of_turn hstaged hj hlive

/-- While the detector runs in the sample, its analysis is stored as running. -/
theorem exclusive_admission_sample : ∃ s,
    Crowd.replay Script.sampleRunner .sample Script.admission (.idle Script.sampleStore) = some s ∧
      ∃ ctx, s.HasLiveRun ctx Script.sampleDetector ∧
        ∃ a ∈ s.store.analyses,
          a.rid = ctx.rid ∧ a.url = ctx.repositoryUrl ∧ a.status = .running := by
  obtain ⟨s, hs⟩ : ∃ s, Crowd.replay Script.sampleRunner .sample Script.admission
      (.idle Script.sampleStore) = some s := ⟨_, rfl⟩
  have hreach := Crowd.reachable_of_replay (w := .arbitrary) (fun _ _ _ _ => True.intro) hs
  have hrun : (Crowd.replay Script.sampleRunner .sample Script.admission
      (.idle Script.sampleStore)).map (fun s => s.workers[1]?.map fun x => (x.errand, x.isLive)) =
        some (some (.run ⟨.zero, Script.sampleRepository.url⟩ Script.sampleDetector, true)) := rfl
  rw [hs, Option.map_some, Option.some.injEq, Option.map_eq_some_iff] at hrun
  obtain ⟨x, hx, he⟩ := hrun
  obtain ⟨he, hlive⟩ := Prod.mk.inj he
  have hlive : s.HasLiveRun _ _ := ⟨x, List.mem_of_getElem? hx, he, hlive⟩
  exact ⟨s, hs, _, hlive, (exclusive_admission rfl hreach).2.1 _ _ hlive⟩

end Service
end ScanService
