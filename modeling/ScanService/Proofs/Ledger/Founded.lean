import ScanService.Proofs.Ledger.Effect
import ScanService.Proofs.Stages.Gathered

/-!
# Runs of stored analyses

Before anything is said about what the records of analyses hold, there are two things that every turn
keeps up: no two analyses share an identifier, and all runs are of stored analyses.  A staging is
`Founded` when this is so.  It is so of tasks that are about to begin around a store with anything in
it, as long as the runs among them are of analyses that it holds.

## What is here

* `Founded.history` — **every history keeps runs to stored analyses.**
* `Founded.forall_of_effect` — how anything is seen to go on being true of all records.
* `Turn.not_loses` — a reliable store refuses a run no entry, and no change of an entry that is there.
-/

namespace ScanService

/-- Tasks can begin around a store: no two analyses in it share an identifier, and the runs among the
tasks are of analyses in it. -/
structure Store.Memory.Hosts (m : Store.Memory) (errands : List Service.Errand) : Prop where
  /-- No two analyses share an identifier. -/
  rids : (m.analyses.map Analysis.rid).Nodup
  /-- Runs are of stored analyses. -/
  runs : ∀ ctx test, .run ctx test ∈ errands → ctx.rid ∈ m.analyses.map Analysis.rid

namespace Service

open Execution (UnitContext)
open Store (AnalysisPatch editAnalysis)

namespace Staging

/-- All runs are of stored analyses. -/
structure Founded (r : Runner) (c : Staging) : Prop where
  /-- No two analyses share an identifier. -/
  rids : (c.store.analyses.map Analysis.rid).Nodup
  /-- There are no runs of an analysis that is not stored. -/
  blank : ∀ rid, rid ∉ c.store.analyses.map Analysis.rid → c.account r rid = .blank

variable {r : Runner} {w : Surroundings} {c c' : Staging} {i : Nat} {a : Analysis} {lost : Prop}

/-! ## What this says about runs -/

/-- A run is in the account of its analysis. -/
theorem mem_runs_of_run {ctx : UnitContext} {test : SecurityTest} {stage : RunStage}
    (hi : c.stages[i]? = some (.run ctx test stage)) : (i, test) ∈ (c.account r ctx.rid).runs :=
  mem_runs.mpr ⟨_, hi, by rw [Stage.testFor?, if_pos rfl]⟩

/-- Whoever is in the account of an analysis is a run of it. -/
theorem exists_run_of_mem_runs {rid : Uuid} {test : SecurityTest}
    (h : (i, test) ∈ (c.account r rid).runs) :
    ∃ (ctx : UnitContext) (stage : RunStage),
      ctx.rid = rid ∧ c.stages[i]? = some (.run ctx test stage) := by
  obtain ⟨stage, hi, htest⟩ := mem_runs.mp h
  cases stage with
  | run ctx test' stage =>
    rw [Stage.testFor?] at htest
    split at htest
    · next hrid =>
      cases htest
      exact ⟨ctx, stage, hrid, hi⟩
    · cases htest
  | admission | status | plain => cases htest

/-- A run is of a stored analysis. -/
theorem Founded.exists_of_run {ctx : UnitContext} {test : SecurityTest} {stage : RunStage}
    (hc : c.Founded r) (hi : c.stages[i]? = some (.run ctx test stage)) :
    ∃ a ∈ c.store.analyses, a.rid = ctx.rid := by
  by_contra hnot
  have hrun := mem_runs_of_run (r := r) hi
  rw [hc.blank _ fun hmem => hnot (List.mem_map.mp hmem)] at hrun
  cases hrun

/-! ## Turns of founded stagings -/

/-- A client that comes changes no account. -/
theorem account_request {e : Errand} (he : e.isRequest = true) (rid : Uuid) :
    ({ c with stages := c.stages ++ [.begin r e] } : Staging).account r rid = c.account r rid := by
  have htest : (Stage.begin r e).testFor? rid = none := by
    cases e <;> first | rfl | cases he
  refine Account.ext ?_ (funext fun j => ?_) rfl
  · simp [account, runsFrom_append, runsFrom, htest]
  · simp only [account, List.getElem?_append]
    split
    · rfl
    · next hlt =>
      have hnone : c.stages[j]? = none := List.getElem?_eq_none (by omega)
      rw [hnone, List.getElem?_singleton]
      split <;> simp [Stage.entryFor?_begin]

theorem Founded.request {e : Errand} (hc : c.Founded r) (he : e.isRequest = true) :
    ({ c with stages := c.stages ++ [.begin r e] } : Staging).Founded r where
  rids := hc.rids
  blank rid h := (account_request he rid).trans (hc.blank rid h)

/-- The analyses after a turn were stored before, with the same identifier and of the same
repository, or one of them has been inserted. -/
theorem Effect.origin (h : Effect r lost i c c') (ha : a ∈ c'.store.analyses) :
    (∃ b ∈ c.store.analyses, b.rid = a.rid ∧ b.url = a.url) ∨
      ∃ url repository tests rid now,
        c.stages[i]? = some (.admission url (.insert repository tests rid now)) ∧
          rid ∉ c.store.analyses.map Analysis.rid ∧ a = .admitted rid repository.url tests now := by
  cases h with
  | aside hm => exact .inl ⟨a, hm ▸ ha, rfl, rfl⟩
  | run hi hlive hmove hm =>
    rw [hm, Store.mem_editAnalysis] at ha
    obtain ⟨b, hb, rfl⟩ := ha
    refine .inl ⟨b, hb, ?_⟩
    split <;> simp [hmove.rid_apply, hmove.url_apply]
  | finalize hi hm =>
    rw [hm, Store.mem_editAnalysis] at ha
    obtain ⟨b, hb, rfl⟩ := ha
    refine .inl ⟨b, hb, ?_⟩
    split <;> simp
  | insert hi hnew hm =>
    rw [hm] at ha
    rcases List.mem_append.mp ha with ha | ha
    · exact .inl ⟨a, ha, rfl, rfl⟩
    · exact .inr ⟨_, _, _, _, _, hi, hnew, List.mem_singleton.mp ha⟩

/-- An analysis that is stored stays so, with its identifier and its repository. -/
theorem Effect.persists (h : Effect r lost i c c') (ha : a ∈ c.store.analyses) :
    ∃ b ∈ c'.store.analyses, b.rid = a.rid ∧ b.url = a.url := by
  cases h with
  | aside hm => exact ⟨a, hm ▸ ha, rfl, rfl⟩
  | run hi hlive hmove hm =>
    refine ⟨_, hm ▸ Store.mem_editAnalysis.mpr ⟨a, ha, rfl⟩, ?_⟩
    split <;> simp [hmove.rid_apply, hmove.url_apply]
  | finalize hi hm =>
    refine ⟨_, hm ▸ Store.mem_editAnalysis.mpr ⟨a, ha, rfl⟩, ?_⟩
    split <;> simp
  | insert hi hnew hm => exact ⟨a, hm ▸ List.mem_append_left _ ha, rfl, rfl⟩

theorem Effect.rids (h : Effect r lost i c c') (hn : (c.store.analyses.map Analysis.rid).Nodup) :
    (c'.store.analyses.map Analysis.rid).Nodup ∧
      ∀ rid, rid ∉ c'.store.analyses.map Analysis.rid →
        rid ∉ c.store.analyses.map Analysis.rid := by
  cases h with
  | aside hm =>
    rw [hm]
    exact ⟨hn, fun _ h => h⟩
  | run hi hlive hmove hm =>
    rw [hm, Store.map_rid_editAnalysis hmove.rid_apply]
    exact ⟨hn, fun _ h => h⟩
  | finalize hi hm =>
    rw [hm, Store.map_rid_editAnalysis fun a => AnalysisPatch.rid_apply _ a]
    exact ⟨hn, fun _ h => h⟩
  | insert hi hnew hm =>
    rw [hm, List.map_append, List.map_singleton, ← List.concat_eq_append]
    refine ⟨hn.concat hnew, fun rid h hmem => h ?_⟩
    rw [List.concat_eq_append]
    exact List.mem_append_left _ hmem

/-- What is true of all records and their accounts goes on being true if moves of runs, ends that
are stored and analyses that are inserted keep it so. -/
theorem Founded.forall_of_effect {P : Account → Analysis → Prop} (hc : c.Founded r)
    (h : Effect r lost i c c') (hP : ∀ a ∈ c.store.analyses, P (c.account r a.rid) a)
    (hrun : ∀ {ctx : UnitContext} {test : SecurityTest} {stage : RunStage}
      {f : Analysis → Analysis}, c.stages[i]? = some (.run ctx test stage) → stage.isEnded = false →
      Account.Move lost i (c.account r ctx.rid) (c'.account r ctx.rid) f →
      ∀ b ∈ c.store.analyses, b.rid = ctx.rid → P (c.account r ctx.rid) b →
        P (c'.account r ctx.rid) (f b))
    (hend : ∀ (k : Account) (a b : Analysis), P k b → P k ((finalization a).apply b))
    (hnew : ∀ (runs : List (Nat × SecurityTest)) (rid : Uuid) (url : String) (now : Timestamp),
      rid ∉ c.store.analyses.map Analysis.rid →
        P { Account.blank with runs := runs } (.admitted rid url (runs.map (·.2)) now)) :
    ∀ a ∈ c'.store.analyses, P (c'.account r a.rid) a := by
  intro a ha
  cases h with
  | aside hm hk =>
    rw [hk]
    exact hP a (hm ▸ ha)
  | @run ctx test stage f hi hlive hmove hm hk =>
    rw [hm, Store.mem_editAnalysis] at ha
    obtain ⟨b, hb, rfl⟩ := ha
    by_cases hrid : b.rid = ctx.rid
    · rw [if_pos hrid, hmove.rid_apply, hrid]
      exact hrun hi hlive hmove b hb hrid (hrid ▸ hP b hb)
    · rw [if_neg hrid, hk b.rid hrid]
      exact hP b hb
  | @finalize url repository x rest hi hm hk =>
    rw [hm, Store.mem_editAnalysis] at ha
    obtain ⟨b, hb, rfl⟩ := ha
    rw [hk]
    split
    · exact hend _ x b (hP b hb)
    · exact hP b hb
  | @insert url repository tests rid now runs hi hnew' hm hown hruns hk =>
    rw [hm] at ha
    rcases List.mem_append.mp ha with ha | ha
    · have hne : a.rid ≠ rid := fun he => hnew' (he ▸ List.mem_map_of_mem ha)
      rw [hk a.rid hne]
      exact hP a ha
    · obtain rfl := List.mem_singleton.mp ha
      rw [show (Analysis.admitted rid repository.url tests now).rid = rid from rfl, hown,
        hc.blank rid hnew', ← hruns]
      exact hnew runs rid repository.url now hnew'

/-- There go on being no runs of analyses that are not stored. -/
theorem Founded.blank_of_effect (hc : c.Founded r) (h : Effect r lost i c c') {rid : Uuid}
    (hrid : rid ∉ c'.store.analyses.map Analysis.rid) : c'.account r rid = .blank := by
  have hblank := hc.blank rid ((h.rids hc.rids).2 rid hrid)
  cases h with
  | aside hm hk | finalize hi hm hk => rw [hk, hblank]
  | run hi hlive hmove hm hk =>
    rw [hk rid, hblank]
    rintro rfl
    have hrun := mem_runs_of_run (r := r) hi
    rw [hblank] at hrun
    cases hrun
  | insert hi hnew hm hown hruns hk =>
    rw [hk rid, hblank]
    rintro rfl
    exact hrid (by simp [hm, Analysis.admitted])

theorem Founded.effect (hc : c.Founded r) (h : Effect r lost i c c') : c'.Founded r where
  rids := (h.rids hc.rids).1
  blank _ hrid := hc.blank_of_effect h hrid

/-- **Every history keeps runs to stored analyses.** -/
theorem Founded.history {start : Staging} {t : List Crowd.Event} (hs : start.Founded r)
    (h : History r w start t c) : c.Founded r := by
  induction h with
  | start => exact hs
  | request _ he ih => exact ih.request he
  | turn _ hturn ih => exact ih.effect (hturn.effect ih.rids)

/-- Tasks that are about to begin, the runs among them being of stored analyses. -/
theorem founded_gathered {m : Store.Memory} {errands : List Errand} (hm : m.Hosts errands) :
    (gathered r m errands).Founded r where
  rids := hm.rids
  blank rid hrid := by
    refine Account.ext ?_ (funext fun i => ?_) rfl
    · refine List.eq_nil_iff_forall_not_mem.mpr fun ⟨i, test⟩ hrun => ?_
      obtain ⟨ctx, stage, hctx, hi⟩ := exists_run_of_mem_runs hrun
      exact hrid (hctx ▸ hm.runs ctx test (eq_first_of_gathered hi).1)
    · simp only [account, gathered, List.getElem?_map, Option.bind_map, Account.blank]
      exact Option.bind_eq_none_iff.mpr fun e _ => Stage.entryFor?_begin r rid e

/-! ## Reliable stores -/

/-- A reliable store refuses a run no entry, and no change of an entry that is there. -/
theorem Turn.not_loses {q : Call} {answer : q.Answer} (h : Turn r w.reliable i q answer c c')
    (hc : c.Founded r) {ctx : UnitContext} {test : SecurityTest} {stage : RunStage}
    (hi : c.stages[i]? = some (.run ctx test stage))
    (hentry : ∀ a ∈ c.store.analyses, a.rid = ctx.rid → ∀ job, stage.entry? r test = some job →
      ∃ j ∈ a.jobs, j.executionId = job.executionId) : ¬q.Loses answer := by
  cases h with
  | @runStore _ ctx' test' stage₀ stage' q answer m tests hi' ha h =>
    cases hi'.symm.trans hi
    obtain ⟨a, hmem, hrid⟩ := hc.exists_of_run hi
    cases h.change with
    | aside hq =>
      have hq : q.sparesAnalyses := hq q rfl
      cases q <;> first | exact id | exact hq.elim
    | record answer hfresh =>
      rw [w.stores_pushJob_isOk (hrid ▸ List.mem_map_of_mem hmem) ha]
      exact id
    | @change _ job unit p answer hid hknown =>
      obtain ⟨j, hj, hunit⟩ := hentry a hmem hrid job hknown
      rw [← hrid] at ha
      rw [w.stores_updateJob_isOk hmem ⟨j, hj, hunit.trans hid⟩ ha]
      exact id
    | follow => exact id
  | runBackend | enter | status => exact id
  | admission hi' | plain hi' => cases hi'.symm.trans hi

end Staging
end Service
end ScanService
