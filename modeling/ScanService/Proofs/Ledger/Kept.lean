import ScanService.Proofs.Ledger.Founded

/-!
# The books are kept

In whatever order the tasks take their turns, whatever the backend answers and whichever calls to
the store fail: every stored analysis stays balanced with the account of its runs, and there are no
runs of an analysis that is not stored.  `Kept` says so of a staging; it holds of a store without
analyses that nobody uses yet, and turns keep it.

## What is here

* `Kept.history` — **every history keeps the books.**
* `Kept.not_isComplete_of_run` — an analysis with a run that has not ended is not complete.
* `Turn.scheduled` — where the tests of an analysis come from that is stored after a turn.
-/

namespace ScanService
namespace Service

open Execution (UnitContext)
open Store (AnalysisPatch editAnalysis)

namespace Staging

/-- Every stored analysis is balanced with the account of its runs, and all runs are of stored
analyses. -/
structure Kept (r : Runner) (c : Staging) : Prop where
  /-- No two analyses share an identifier. -/
  rids : (c.store.analyses.map Analysis.rid).Nodup
  /-- There are no runs of an analysis that is not stored. -/
  blank : ∀ rid, rid ∉ c.store.analyses.map Analysis.rid → c.account r rid = .blank
  /-- The record of each analysis agrees with the account of its runs. -/
  balances : ∀ a ∈ c.store.analyses, (c.account r a.rid).Balances a
  /-- A run is of the repository of its analysis. -/
  urls : ∀ (i : Nat) (ctx : UnitContext) (test : SecurityTest) (stage : RunStage),
    c.stages[i]? = some (.run ctx test stage) →
      ∀ a ∈ c.store.analyses, a.rid = ctx.rid → a.url = ctx.repositoryUrl

variable {r : Runner} {w : Surroundings} {c c' : Staging} {i : Nat} {a : Analysis} {lost : Prop}

/-! ## What the books say about runs -/

/-- In particular all runs are of stored analyses. -/
theorem Kept.founded (hc : c.Kept r) : c.Founded r := ⟨hc.rids, hc.blank⟩

/-- A run is of a stored analysis, and of its repository. -/
theorem Kept.mem_of_run {ctx : UnitContext} {test : SecurityTest} {stage : RunStage}
    (hc : c.Kept r) (hi : c.stages[i]? = some (.run ctx test stage)) :
    ∃ a ∈ c.store.analyses, a.rid = ctx.rid ∧ a.url = ctx.repositoryUrl := by
  obtain ⟨a, ha, hrid⟩ := hc.founded.exists_of_run hi
  exact ⟨a, ha, hrid, hc.urls i ctx test stage hi a ha hrid⟩

/-- It is a run of one of its tests. -/
theorem Kept.mem_of_test {ctx : UnitContext} {test : SecurityTest} {stage : RunStage}
    (hc : c.Kept r) (ha : a ∈ c.store.analyses) (hi : c.stages[i]? = some (.run ctx test stage))
    (hrid : ctx.rid = a.rid) : test ∈ a.securityTests := by
  rw [(hc.balances a ha).tests, ← hrid]
  exact List.mem_map_of_mem (mem_runs_of_run hi)

/-- Each test of an analysis has a run. -/
theorem Kept.exists_run_of_mem (hc : c.Kept r) (ha : a ∈ c.store.analyses) {test : SecurityTest}
    (h : test ∈ a.securityTests) : ∃ (i : Nat) (ctx : UnitContext) (stage : RunStage),
      ctx.rid = a.rid ∧ c.stages[i]? = some (.run ctx test stage) := by
  rw [(hc.balances a ha).tests] at h
  obtain ⟨⟨i, _⟩, hrun, rfl⟩ := List.mem_map.mp h
  exact ⟨i, exists_run_of_mem_runs hrun⟩

/-- **An analysis with a run that has not ended is not complete.** -/
theorem Kept.not_isComplete_of_run {ctx : UnitContext} {test : SecurityTest} {stage : RunStage}
    (hc : c.Kept r) (hi : c.stages[i]? = some (.run ctx test stage))
    (hlive : stage.isEnded = false) (ha : a ∈ c.store.analyses) (hrid : a.rid = ctx.rid) :
    a.isComplete = false := by
  by_contra hcomplete
  rw [Bool.not_eq_false] at hcomplete
  have hplace : i ∈ (c.account r a.rid).places := by
    rw [hrid]
    exact List.mem_map_of_mem (mem_runs_of_run hi)
  obtain ⟨job, hjob, hterminal⟩ :=
    (hc.balances a ha).ended_of_isComplete account_sane hcomplete hplace
  rw [hrid, known_of_run hi] at hjob
  rw [RunStage.isTerminal_of_entry? hjob hlive] at hterminal
  cases hterminal

/-- A run that has not ended is not of a complete analysis. -/
theorem Kept.rid_ne_of_run {ctx : UnitContext} {test : SecurityTest} {stage : RunStage}
    (hc : c.Kept r) (hi : c.stages[i]? = some (.run ctx test stage))
    (hlive : stage.isEnded = false) (ha : a ∈ c.store.analyses) (hcomplete : a.isComplete = true) :
    a.rid ≠ ctx.rid := by
  intro hrid
  rw [hc.not_isComplete_of_run hi hlive ha hrid] at hcomplete
  cases hcomplete

/-! ## Turns keep the books -/

theorem kept_idle {m : Store.Memory} (hm : m.analyses = []) : (idle m).Kept r where
  rids := by simp [idle, hm]
  blank rid _ := Account.ext rfl (funext fun i => by simp [account, idle, Account.blank]) rfl
  balances a ha := by simp [idle, hm] at ha
  urls i ctx test stage hi := by simp [idle] at hi

theorem Kept.request {e : Errand} (hc : c.Kept r) (he : e.isRequest = true) :
    ({ c with stages := c.stages ++ [.begin r e] } : Staging).Kept r where
  rids := hc.rids
  blank := (hc.founded.request he).blank
  balances a ha := (account_request (r := r) he a.rid).symm ▸ hc.balances a ha
  urls i ctx test stage hi := hc.urls i ctx test stage (run_of_request he hi)

/-- Accounts go on being balanced. -/
theorem Kept.balances_of_effect (hc : c.Kept r) (h : Effect r lost i c c') :
    ∀ a ∈ c'.store.analyses, (c'.account r a.rid).Balances a := by
  refine hc.founded.forall_of_effect h hc.balances (fun hi hlive hmove b _ _ hbal => ?_)
    (fun k a b hbal => hbal.congr (List.append_nil _) rfl) fun runs rid url now _ => ?_
  · refine hmove.balances (fun job hjob => ?_) hbal
    rw [known_of_run hi] at hjob
    exact RunStage.isTerminal_of_entry? hjob hlive
  · exact
      { tests := rfl
        nodup := List.nodup_nil
        entries := .nil
        yields := .nil
        lags := fun _ => .nil }

theorem Kept.turn {q : Call} {answer : q.Answer} (hc : c.Kept r) (h : Turn r w i q answer c c') :
    c'.Kept r := by
  have heffect := h.effect hc.rids
  have hfounded := hc.founded.effect heffect
  refine ⟨hfounded.rids, hfounded.blank, hc.balances_of_effect heffect, fun j ctx test stage hj a ha hrid => ?_⟩
  have horigin : (∃ (j : Nat) (test : SecurityTest) (stage : RunStage),
        c.stages[j]? = some (.run ctx test stage)) ∨
      ∃ (repository : Repository) (tests : List SecurityTest) (rid : Uuid) (now : Timestamp),
        ctx = ⟨rid, repository.url⟩ ∧
          w.Stores (.insertAnalysis (.admitted rid repository.url tests now)) c.store (.ok ())
            c'.store := by
    rcases h.origin hj with ⟨stage', hrun⟩ | ⟨test', stage', hrun⟩ | ⟨_, _, _, _, _, -, rfl, hst⟩
    · exact .inl ⟨j, test, stage', hrun⟩
    · exact .inl ⟨i, test', stage', hrun⟩
    · exact .inr ⟨_, _, _, _, rfl, hst⟩
  rcases horigin with ⟨j, test, stage, hrun⟩ | ⟨repository, tests, rid, now, rfl, hst⟩
  · rcases heffect.origin ha with ⟨b, hb, hbrid, hburl⟩ | ⟨_, _, _, rid, _, -, hnew, rfl⟩
    · rw [← hburl]
      exact hc.urls j ctx test stage hrun b hb (hbrid.trans hrid)
    · obtain ⟨b, hb, hbrid, -⟩ := hc.mem_of_run hrun
      exact absurd (List.mem_map.mpr ⟨b, hb, hbrid.trans hrid.symm⟩) hnew
  · obtain ⟨hm, hnew⟩ := w.stores_insertAnalysis hst
    rw [hm] at ha
    rcases List.mem_append.mp ha with ha | ha
    · exact absurd (List.mem_map.mpr ⟨a, ha, hrid⟩) hnew
    · rw [List.mem_singleton.mp ha]
      rfl

/-- **Every history keeps the books.** -/
theorem Kept.history {start : Staging} {t : List Crowd.Event} (hs : start.Kept r)
    (h : History r w start t c) : c.Kept r := by
  induction h with
  | start => exact hs
  | request _ he ih => exact ih.request he
  | turn _ hturn ih => exact ih.turn hturn

/-! ## Where the tests of analyses come from -/

/-- Where the tests of an analysis come from that is stored after the turn of the task in one
place. -/
inductive Scheduled (c : Staging) (i : Nat) (a' : Analysis) : Prop where
  /-- They were its tests before. -/
  | kept {a : Analysis} (ha : a ∈ c.store.analyses) (hrid : a.rid = a'.rid) (hurl : a.url = a'.url)
    (ht : a'.securityTests = a.securityTests)
  /-- A detector has recorded some more. -/
  | appended {ctx : UnitContext} {test : SecurityTest} {id : String} {startedAt : Timestamp}
    {reading : Reading} {tests : List SecurityTest} {a : Analysis}
    (hi : c.stages[i]? = some (.run ctx test (.follow id startedAt reading (.recordTests tests))))
    (ha : a ∈ c.store.analyses) (hctx : a.rid = ctx.rid) (hrid : a.rid = a'.rid)
    (hurl : a.url = a'.url) (ht : a'.securityTests = a.securityTests ++ tests)
  /-- It has been admitted with them. -/
  | admitted {url : String} {repository : Repository} {tests : List SecurityTest} {rid : Uuid}
    {now : Timestamp}
    (hi : c.stages[i]? = some (.admission url (.insert repository tests rid now)))
    (hnew : rid ∉ c.store.analyses.map Analysis.rid)
    (he : a' = .admitted rid repository.url tests now)

theorem Turn.scheduled {q : Call} {answer : q.Answer} (h : Turn r w i q answer c c')
    (hn : (c.store.analyses.map Analysis.rid).Nodup) {a' : Analysis}
    (ha' : a' ∈ c'.store.analyses) : c.Scheduled i a' := by
  have hsame : c'.store.analyses = c.store.analyses → c.Scheduled i a' := fun hm =>
    .kept (hm ▸ ha') rfl rfl rfl
  -- most changes have nothing to do with the tests
  have hedit : ∀ {rid : Uuid} {f : Analysis → Analysis},
      c'.store.analyses = editAnalysis rid f c.store.analyses →
      (∀ a, (f a).rid = a.rid ∧ (f a).url = a.url ∧ (f a).securityTests = a.securityTests) →
        c.Scheduled i a' := by
    intro rid f hm hf
    rw [hm, Store.mem_editAnalysis] at ha'
    obtain ⟨a, ha, rfl⟩ := ha'
    split
    · exact .kept ha (hf a).1.symm (hf a).2.1.symm (hf a).2.2
    · exact .kept ha rfl rfl rfl
  cases h with
  | runBackend | enter => exact hsame rfl
  | status hi ha =>
    exact hsame (w.stores_of_sparesAnalyses (c := .findAnalysis _) True.intro ha)
  | plain hi hq ha => exact hsame (w.stores_of_sparesAnalyses hq ha)
  | admission hi ha hstep =>
    cases hstep with
    | failed _ e => exact hsame (by rw [w.stores_error ha])
    | unknown | found => exact hsame (w.stores_of_sparesAnalyses (c := .findRepository _) True.intro ha)
    | foundRunning => exact hsame (w.stores_of_sparesAnalyses (c := .findAnalyses _) True.intro ha)
    | detectorFound =>
      exact hsame (w.stores_of_sparesAnalyses (c := .findSecurityTest _) True.intro ha)
    | finalized => exact hedit (w.stores_updateAnalysis hn ha) fun a => ⟨rfl, rfl, List.append_nil _⟩
    | inserted =>
      obtain ⟨hm, hnew⟩ := w.stores_insertAnalysis ha
      rw [hm] at ha'
      rcases List.mem_append.mp ha' with ha' | ha'
      · exact .kept ha' rfl rfl rfl
      · exact .admitted hi hnew (List.mem_singleton.mp ha')
  | runStore hi ha hstep =>
    cases hstep with
    | lookedUp => exact hsame (w.stores_of_sparesAnalyses (c := .findSecurityTests _) True.intro ha)
    | selectionRecorded =>
      exact hsame (w.stores_of_sparesAnalyses (c := .updateRepository _ _) True.intro ha)
    | scheduledRead | nothingToFollow =>
      exact hsame (w.stores_of_sparesAnalyses (c := .findAnalysis _) True.intro ha)
    | failureRecorded answer | unitRecorded answer =>
      cases answer with
      | ok u => exact hedit (w.stores_pushJob hn ha) fun a => ⟨rfl, rfl, rfl⟩
      | error e => exact hsame (by rw [w.stores_error ha])
    | startRecorded answer | endRecorded answer =>
      cases answer with
      | ok u => exact hedit (w.stores_updateJob hn ha) fun a => ⟨rfl, rfl, rfl⟩
      | error e => exact hsame (by rw [w.stores_error ha])
    | testsRefused e now => exact hsame (by rw [w.stores_error ha])
    | testsRecorded now =>
      have hm := w.stores_updateAnalysis hn ha
      rw [hm, Store.mem_editAnalysis] at ha'
      obtain ⟨a, ha, rfl⟩ := ha'
      split
      · next hctx => exact .appended hi ha hctx rfl rfl rfl
      · exact .kept ha rfl rfl rfl

/-- Of the runs of an analysis whose tests have different names, no two are of one name. -/
theorem Kept.eq_of_name_eq (hc : c.Kept r) {a : Analysis} (ha : a ∈ c.store.analyses)
    (hapart : a.pendingNames.Nodup) {j : Nat} {ctx ctx' : UnitContext}
    {test test' : SecurityTest} {stage stage' : RunStage}
    (hi : c.stages[i]? = some (.run ctx test stage))
    (hj : c.stages[j]? = some (.run ctx' test' stage')) (hrid : a.rid = ctx.rid)
    (hrid' : a.rid = ctx'.rid) (hname : test.name = test'.name) : i = j := by
  rw [Analysis.pendingNames, (hc.balances a ha).tests, Account.tests, List.map_map] at hapart
  have hruns : (i, test) = (j, test') := List.inj_on_of_nodup_map hapart
    (hrid ▸ mem_runs_of_run hi) (hrid' ▸ mem_runs_of_run hj) hname
  exact congrArg Prod.fst hruns

end Staging
end Service
end ScanService
