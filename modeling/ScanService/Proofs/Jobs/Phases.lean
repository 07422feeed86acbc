import ScanService.Proofs.Jobs.Coverage
import ScanService.Proofs.Jobs.Detection
import ScanService.Proofs.Jobs.Readings

/-!
# Everything is in one phase

`Staging.InPhase` says that the repository, the tests of its new analysis and all that tasks know are
where they must be in a phase of the detection.  It is kept for two reasons.  A turn of the detector's
run changes the repository and the tests just when its own stage moves on to the next phase.  No other
turn changes them: only a detector's run writes into a repository or appends to an analysis, and as
long as there is one new analysis of the repository and its tests have different names, there is one
detector's run of it.

## What is here

* `Staging.InPhase` — everything is in a phase.
* `InPhase.turn_of_detector`, `InPhase.turn_of_others` — turns of the detector's run may lead to the
  next phase, those of others stay in the same one.
* `inPhase_history` — **at all times everything is in one phase.**
-/

namespace ScanService
namespace Service

open Execution (UnitContext)

variable {r : Runner} {o : Outset} {p : Phase} {m m' : Store.Memory} {w : Surroundings}

namespace Staging

variable {c c' : Staging} {i : Nat} {rid : Uuid}

/-- Everything is in a phase. -/
structure InPhase (r : Runner) (o : Outset) (p : Phase) (c : Staging) : Prop where
  /-- The same tests are registered as at the outset. -/
  known : c.store.securityTests = o.known
  /-- The analyses that there have been are still stored. -/
  earlier : o.earlier ⊆ c.store.analyses.map Analysis.rid
  /-- The repository is the one of the phase. -/
  repository : c.store.repositories.find? (·.url == o.url) = some (p.repository o)
  /-- So are the tests of its new analysis. -/
  tests : ∀ a ∈ c.store.analyses, o.Concerns ⟨a.rid, a.url⟩ → a.securityTests = p.tests o
  /-- So is whatever tasks know. -/
  stages : ∀ (i : Nat) (x : Stage), c.stages[i]? = some x → x.Fits r o p c.store
  /-- Only the detector leads out of the first phase. -/
  begun : p ≠ .waiting → ∃ (i : Nat) (ctx : UnitContext) (test : SecurityTest) (stage : RunStage),
    c.stages[i]? = some (.run ctx test stage) ∧ o.Concerns ctx ∧
      test.name = SecurityTest.detectorName

/-- The analysis of a run that concerns the detection does so, too. -/
theorem Kept.exists_concerned (hc : c.Kept r) {ctx : UnitContext} {test : SecurityTest}
    {stage : RunStage} (hi : c.stages[i]? = some (.run ctx test stage)) (hctx : o.Concerns ctx) :
    ∃ a ∈ c.store.analyses, a.rid = ctx.rid ∧ o.Concerns ⟨a.rid, a.url⟩ := by
  obtain ⟨a, ha, hrid, hurl⟩ := hc.mem_of_run hi
  refine ⟨a, ha, hrid, ?_⟩
  rw [hrid, hurl]
  exact hctx

/-- Nothing has been recorded as long as there is no new analysis. -/
theorem InPhase.eq_waiting (hp : c.InPhase r o p) (hc : c.Kept r) (hfirst : o.IsFirst c.store) :
    p = .waiting := by
  by_contra hne
  obtain ⟨i, ctx, test, stage, hi, hctx, -⟩ := hp.begun hne
  obtain ⟨a, ha, -, hconcerned⟩ := hc.exists_concerned hi hctx
  exact hfirst a ha hconcerned

/-- A run that takes a turn is not of an analysis that there has been at the outset. -/
theorem InPhase.not_earlier (hp : c.InPhase r o p) {ctx : UnitContext} {test : SecurityTest}
    {stage : RunStage} (hi : c.stages[i]? = some (.run ctx test stage))
    (hlive : stage.isEnded = false) : ctx.rid ∉ o.earlier := by
  intro hold
  have hended := (hp.stages i _ hi).1 hold
  rw [hlive] at hended
  cases hended

section Turns

variable {t : List Crowd.Event} {q : Call} {answer : q.Answer} {start : Store.Memory}

/-- A new analysis is still stored after a turn. -/
theorem Turn.exists_concerned (h : Turn r w i q answer c c') (hc : c.Kept r) {a : Analysis}
    (ha : a ∈ c.store.analyses) (hconcerned : o.Concerns ⟨a.rid, a.url⟩) :
    ∃ b ∈ c'.store.analyses, b.rid = a.rid ∧ o.Concerns ⟨b.rid, b.url⟩ := by
  obtain ⟨b, hb, hrid, hurl⟩ := (h.effect hc.rids).persists ha
  refine ⟨b, hb, hrid, ?_⟩
  rw [hrid, hurl]
  exact hconcerned

/-- If there is no new analysis after a turn, there was none before. -/
theorem Turn.isFirst (h : Turn r w i q answer c c') (hc : c.Kept r) (hfirst : o.IsFirst c'.store) :
    o.IsFirst c.store := by
  intro a ha hconcerned
  obtain ⟨b, hb, -, hb'⟩ := h.exists_concerned hc ha hconcerned
  exact hfirst b hb hb'

/-- When the only new analysis is admitted there was none. -/
theorem Turn.isFirst_of_insert (h : Turn r w i q answer c c') (hc : c.Kept r)
    (hone : ∀ a ∈ c'.store.analyses, o.Concerns ⟨a.rid, a.url⟩ → a.rid = rid) {a' : Analysis}
    (ha' : a' ∈ c'.store.analyses) (hconcerned : o.Concerns ⟨a'.rid, a'.url⟩)
    (hnew : a'.rid ∉ c.store.analyses.map Analysis.rid) : o.IsFirst c.store := by
  intro a ha haconcerned
  obtain ⟨b, hb, hbrid, hbconcerned⟩ := h.exists_concerned hc ha haconcerned
  have hsame : a'.rid = b.rid := (hone a' ha' hconcerned).trans (hone b hb hbconcerned).symm
  exact hnew (List.mem_map.mpr ⟨a, ha, (hsame.trans hbrid).symm⟩)

theorem InPhase.earlier_of_turn (hp : c.InPhase r o p) (hc : c.Kept r)
    (h : Turn r w i q answer c c') : o.earlier ⊆ c'.store.analyses.map Analysis.rid := by
  intro rid hrid
  obtain ⟨a, ha, rfl⟩ := List.mem_map.mp (hp.earlier hrid)
  obtain ⟨b, hb, hbrid, -⟩ := (h.effect hc.rids).persists ha
  exact List.mem_map.mpr ⟨b, hb, hbrid⟩

/-! ### Turns of others -/

theorem InPhase.repository_of_others (hp : c.InPhase r o p)
    (hhist : History r w.reliable (idle start) t c) (h : Turn r w.reliable i q answer c c')
    (hnot : ∀ ctx test stage, c.stages[i]? = some (.run ctx test stage) → o.Concerns ctx →
      test.name ≠ SecurityTest.detectorName) :
    c'.store.repositories.find? (·.url == o.url) = some (p.repository o) := by
  cases h with
  | runBackend | enter => exact hp.repository
  | status hi ha => exact w.reliable.find?_repositories_of_ne ha nofun hp.repository
  | plain hi hq ha hrest =>
    obtain ⟨next, s, s', rfl, -⟩ := hrest
    have hold : Program.OnlyAsks _ _ := hp.stages i _ hi
    refine w.reliable.find?_repositories_of_ne ha (fun f p he => ?_) hp.repository
    subst he
    exact hold.1.elim
  | admission hi ha hstep =>
    cases hstep with
    | failed _ e =>
      rw [w.reliable.stores_error ha]
      exact hp.repository
    | _ => exact w.reliable.find?_repositories_of_ne ha nofun hp.repository
  | @runStore _ ctx test stage stage' q answer m tests hi ha hstep =>
    cases hstep with
    | selectionRecorded answer =>
      have hname := (keepsToFollowUps_of_history hhist hi).1
      have hne : ctx.repositoryUrl ≠ o.url := fun hurl =>
        hnot _ _ _ hi ⟨hurl, hp.not_earlier hi rfl⟩ hname
      rw [w.find?_repositories_of_update ha hp.repository, if_neg hne]
    | _ => exact w.reliable.find?_repositories_of_ne ha nofun hp.repository

theorem InPhase.tests_of_others (hp : c.InPhase r o p) (hc : c.Kept r)
    (hhist : History r w.reliable (idle start) t c) (h : Turn r w.reliable i q answer c c')
    (hnot : ∀ ctx test stage, c.stages[i]? = some (.run ctx test stage) → o.Concerns ctx →
      test.name ≠ SecurityTest.detectorName)
    (hone : ∀ a ∈ c'.store.analyses, o.Concerns ⟨a.rid, a.url⟩ → a.rid = rid) {a' : Analysis}
    (ha' : a' ∈ c'.store.analyses) (hconcerned : o.Concerns ⟨a'.rid, a'.url⟩) :
    a'.securityTests = p.tests o := by
  rcases h.scheduled hc.rids ha' with
    ⟨ha, hrid, hurl, ht⟩ | @⟨ctx, _, _, _, _, _, a, hi, ha, hctx, hrid, hurl, -⟩ | ⟨hi, hnew, rfl⟩
  · rw [ht]
    exact hp.tests _ ha (by rwa [hrid, hurl])
  · have hctxurl : ctx.repositoryUrl = o.url :=
      (hc.urls i _ _ _ hi a ha hctx).symm.trans (hurl.trans hconcerned.url_eq)
    have hname := (keepsToFollowUps_of_history hhist hi).1
    exact absurd hname (hnot _ _ _ hi ⟨hctxurl, hp.not_earlier hi rfl⟩)
  · have hfirst := h.isFirst_of_insert hc hone ha' hconcerned hnew
    rw [hp.eq_waiting hc hfirst]
    exact hp.stages i _ hi hfirst hconcerned.url_eq

/-- The runs that a run launches fit. -/
theorem InPhase.fits_launched (hp : c.InPhase r o p) (hhist : History r w.reliable (idle start) t c)
    {ctx : UnitContext} {test : SecurityTest} {stage stage' : RunStage} {tests : List SecurityTest}
    (hi : c.stages[i]? = some (.run ctx test stage))
    (hstep : stage.Step r ctx test c.store.securityTests q answer stage' tests) {e : Errand}
    (he : e ∈ tests.map (.run ctx)) {p' : Phase} {m : Store.Memory} :
    (Stage.begin r e).Fits r o p' m := by
  obtain ⟨test', htest', rfl⟩ := List.mem_map.mp he
  refine Stage.fits_begin fun _ _ he => ?_
  cases he
  have hlaunches := (hstep.launches (keepsToFollowUps_of_history hhist hi)).2
  exact ⟨hp.not_earlier hi hstep.isEnded, fun _ hname => absurd hname (hlaunches test' htest')⟩

theorem InPhase.stages_of_others (hp : c.InPhase r o p) (hc : c.Kept r)
    (hhist : History r w.reliable (idle start) t c) (h : Turn r w.reliable i q answer c c')
    (hnot : ∀ ctx test stage, c.stages[i]? = some (.run ctx test stage) → o.Concerns ctx →
      test.name ≠ SecurityTest.detectorName)
    (hone : ∀ a ∈ c'.store.analyses, o.Concerns ⟨a.rid, a.url⟩ → a.rid = rid) {j : Nat} {x : Stage}
    (hj : c'.stages[j]? = some x) : x.Fits r o p c'.store := by
  have hback := h.isFirst (o := o) hc
  -- whoever has no turn fits as before
  have hrest : c.stages[j]? = some x → x.Fits r o p c'.store := fun hj =>
    (hp.stages j x hj).mono hback
  cases h with
  | runStore hi ha hstep =>
    have hlive := hp.not_earlier hi hstep.isEnded
    rcases stages_goOn hj with ⟨-, rfl⟩ | ⟨-, hj⟩ | ⟨e, he, rfl⟩
    · exact ⟨fun hold => absurd hold hlive, fun hctx hname => absurd hname (hnot _ _ _ hi hctx)⟩
    · exact hrest hj
    · exact hp.fits_launched hhist hi hstep he
  | runBackend hi ha hstep =>
    have hlive := hp.not_earlier hi hstep.isEnded
    rcases stages_goOn hj with ⟨-, rfl⟩ | ⟨-, hj⟩ | ⟨e, he, -⟩
    · exact ⟨fun hold => absurd hold hlive, fun hctx hname => absurd hname (hnot _ _ _ hi hctx)⟩
    · exact hrest hj
    · cases he
  | enter hi =>
    rcases stages_goOn hj with ⟨-, rfl⟩ | ⟨-, hj⟩ | ⟨e, he, -⟩
    · exact fun _ => True.intro
    · exact hrest hj
    · cases he
  | @admission _ url stage stage' q answer m admitted hi ha hstep =>
    rcases stages_goOn hj with ⟨-, rfl⟩ | ⟨-, hj⟩ | ⟨e, he, rfl⟩
    · intro hfirst
      have hwaiting := hp.eq_waiting hc (hback hfirst)
      refine hstep.fits ha (hp.stages i _ hi (hback hfirst)) hp.known ?_
      rw [hp.repository, hwaiting]
      rfl
    · exact hrest hj
    · -- the runs of an analysis begin when it is admitted
      cases hstep with
      | @inserted repository tests rid' now =>
        obtain ⟨hm, hnew⟩ := w.reliable.stores_insertAnalysis ha
        obtain ⟨test', -, rfl⟩ := List.mem_map.mp he
        refine Stage.fits_begin fun _ _ he => ?_
        cases he
        refine ⟨fun hold => hnew (hp.earlier hold), fun hctx _ => ?_⟩
        have hadmitted : Analysis.admitted rid' repository.url tests now ∈ m.analyses :=
          hm ▸ List.mem_append_right _ (List.mem_singleton.mpr rfl)
        have hturn := Turn.admission (r := r) hi ha .inserted
        exact hp.eq_waiting hc (hturn.isFirst_of_insert hc hone hadmitted hctx hnew)
      | _ => cases he
  | status hi ha =>
    rcases stages_goOn hj with ⟨-, rfl⟩ | ⟨-, hj⟩ | ⟨e, he, -⟩
    · exact True.intro
    · exact hrest hj
    · cases he
  | plain hi hq ha hnext =>
    rcases stages_goOn hj with ⟨-, rfl⟩ | ⟨-, hj⟩ | ⟨e, he, -⟩
    · obtain ⟨next, s, s', rfl, ht⟩ := hnext
      have hold : Program.OnlyAsks _ _ := hp.stages i _ hi
      exact OnlyAsks.settles (hold.2 _) ht
    · exact hrest hj
    · cases he

/-- **Turns of others stay in the same phase.** -/
theorem InPhase.turn_of_others (hp : c.InPhase r o p) (hc : c.Kept r)
    (hhist : History r w.reliable (idle start) t c) (h : Turn r w.reliable i q answer c c')
    (hnot : ∀ ctx test stage, c.stages[i]? = some (.run ctx test stage) → o.Concerns ctx →
      test.name ≠ SecurityTest.detectorName)
    (hknown : c'.store.securityTests = o.known)
    (hone : ∀ a ∈ c'.store.analyses, o.Concerns ⟨a.rid, a.url⟩ → a.rid = rid) :
    c'.InPhase r o p where
  known := hknown
  earlier := hp.earlier_of_turn hc h
  repository := hp.repository_of_others hhist h hnot
  tests _ ha' := hp.tests_of_others hc hhist h hnot hone ha'
  stages _ _ hj := hp.stages_of_others hc hhist h hnot hone hj
  begun hne := by
    obtain ⟨j, ctx, test, stage, hj, hctx, hname⟩ := hp.begun hne
    obtain ⟨stage', hj', -⟩ := h.run_goes_on hj
    exact ⟨j, ctx, test, stage', hj', hctx, hname⟩

/-! ### Turns of the detector's run -/

variable {ctx : UnitContext} {test : SecurityTest} {stage : RunStage}

/-- The repository after a turn of the detector's run, and what the run knows. -/
theorem InPhase.repository_of_detector (hp : c.InPhase r o p) (hc : c.Kept r)
    (h : Turn r w.reliable i q answer c c') (hi : c.stages[i]? = some (.run ctx test stage))
    (hctx : o.Concerns ctx) (hname : test.name = SecurityTest.detectorName) :
    ∃ stage', c'.stages[i]? = some (.run ctx test stage') ∧ stage'.Fits r o test ∧
      c'.store.repositories.find? (·.url == o.url) = some ((stage'.phase r test).repository o) := by
  obtain ⟨rfl, hst⟩ := (hp.stages i _ hi).2 hctx hname
  obtain ⟨a, ha, hrid, hconcerned⟩ := hc.exists_concerned hi hctx
  have htests := hp.tests a ha hconcerned
  cases h with
  | runStore hi' hans hstep =>
    cases hi'.symm.trans hi
    exact ⟨_, getElem?_goOn_self hi' _ _,
      hstep.fits_store hans hp.known hc.rids ha hrid htests hst,
      hstep.repository_store hans hctx.url_eq hst hp.repository⟩
  | runBackend hi' hans hstep =>
    cases hi'.symm.trans hi
    rw [hp.known] at hstep
    obtain ⟨hphase, hfits⟩ := hstep.fits_backend hname
    exact ⟨_, getElem?_goOn_self hi' _ _, hfits, hphase.symm ▸ hp.repository⟩
  | enter hi' | admission hi' | status hi' | plain hi' => cases hi'.symm.trans hi

/-- The tests of the analysis after a turn of the detector's run. -/
theorem InPhase.tests_of_detector (hp : c.InPhase r o p) (hc : c.Kept r)
    (h : Turn r w.reliable i q answer c c') (hi : c.stages[i]? = some (.run ctx test stage))
    (hctx : o.Concerns ctx) (hname : test.name = SecurityTest.detectorName)
    (hone : ∀ a ∈ c.store.analyses, o.Concerns ⟨a.rid, a.url⟩ → a.rid = ctx.rid)
    {stage' : RunStage} (hi' : c'.stages[i]? = some (.run ctx test stage')) {a' : Analysis}
    (ha' : a' ∈ c'.store.analyses) (hconcerned' : o.Concerns ⟨a'.rid, a'.url⟩) :
    a'.securityTests = (stage'.phase r test).tests o := by
  obtain ⟨rfl, hst⟩ := (hp.stages i _ hi).2 hctx hname
  obtain ⟨a, ha, hrid, hconcerned⟩ := hc.exists_concerned hi hctx
  have htests := hp.tests a ha hconcerned
  have hscheduled := h.scheduled hc.rids ha'
  cases h with
  | @runStore _ _ _ stage₀ stage₁ q answer m tests hi₀ hans hstep =>
    cases hi₀.symm.trans hi
    cases (getElem?_goOn_self (r := r) hi₀ _ _).symm.trans hi'
    by_cases hrecords : ∃ id startedAt reading tests,
        stage = .follow id startedAt reading (.recordTests tests)
    · obtain ⟨id, startedAt, reading, tests, rfl⟩ := hrecords
      have hfollow : tests = o.followUps _ := hst.2
      have hstored : ctx.rid ∈ c.store.analyses.map Analysis.rid :=
        List.mem_map.mpr ⟨a, ha, hrid⟩
      cases hstep with
      | testsRefused e now => cases w.stores_updateAnalysis_isOk hstored hans
      | testsRecorded now =>
        have hm := w.reliable.stores_updateAnalysis hc.rids hans
        have hmem : a' ∈ Store.editAnalysis ctx.rid _ c.store.analyses := hm ▸ ha'
        obtain ⟨b, hb, rfl⟩ := Store.mem_editAnalysis.mp hmem
        have hbconcerned : o.Concerns ⟨b.rid, b.url⟩ := by
          split at hconcerned' <;> exact hconcerned'
        have hbtests := hp.tests b hb hbconcerned
        rw [if_pos (hone b hb hbconcerned), RunStage.phase_recordEnd hst.1, Phase.tests, ← hfollow]
        exact congrArg (· ++ tests) hbtests
    · have hsame := hstep.phase_tests hans hc.rids ha hrid htests hst
        fun id startedAt reading tests he => hrecords ⟨id, startedAt, reading, tests, he⟩
      rw [hsame]
      rcases hscheduled with ⟨hb, hbrid, hburl, ht⟩ | ⟨hi, -, -, -, -, -⟩ | ⟨hi, -, -⟩
      · exact ht.trans (hp.tests _ hb (by rwa [hbrid, hburl]))
      · cases hi.symm.trans hi₀
        exact absurd ⟨_, _, _, _, rfl⟩ hrecords
      · cases hi.symm.trans hi₀
  | @runBackend _ _ _ stage₀ stage₁ q answer hi₀ hans hstep =>
    cases hi₀.symm.trans hi
    cases (getElem?_goOn_self (r := r) hi₀ _ _).symm.trans hi'
    rw [hp.known] at hstep
    rw [(hstep.fits_backend hname).1]
    exact hp.tests a' ha' hconcerned'
  | enter hi₀ | admission hi₀ | status hi₀ | plain hi₀ => cases hi₀.symm.trans hi

/-- What tasks know after a turn of the detector's run. -/
theorem InPhase.stages_of_detector (hp : c.InPhase r o p) (hc : c.Kept r)
    (hhist : History r w.reliable (idle start) t c) (h : Turn r w.reliable i q answer c c')
    (hi : c.stages[i]? = some (.run ctx test stage)) (hctx : o.Concerns ctx)
    (hname : test.name = SecurityTest.detectorName) (hapart : NamesApart o.tests)
    (hone : ∀ a ∈ c.store.analyses, o.Concerns ⟨a.rid, a.url⟩ → a.rid = ctx.rid)
    {stage' : RunStage} (hi' : c'.stages[i]? = some (.run ctx test stage'))
    (hst' : stage'.Fits r o test) {j : Nat} {x : Stage} (hj : c'.stages[j]? = some x) :
    x.Fits r o (stage'.phase r test) c'.store := by
  obtain ⟨a, ha, hrid, hconcerned⟩ := hc.exists_concerned hi hctx
  obtain ⟨a', ha', -, hconcerned'⟩ := h.exists_concerned hc ha hconcerned
  have hrest : j ≠ i → c.stages[j]? = some x → x.Fits r o (stage'.phase r test) c'.store := by
    intro hne hj
    have hold := hp.stages j x hj
    cases x with
    | run ctx₁ test₁ stage₁ =>
      refine ⟨hold.1, fun hctx₁ hname₁ => ?_⟩
      -- no two runs of the analysis are the detector's
      obtain ⟨b, hb, hbrid, hbconcerned⟩ := hc.exists_concerned hj hctx₁
      have hsame : ctx₁.rid = a.rid := hbrid.symm.trans ((hone b hb hbconcerned).trans hrid.symm)
      have hpending : a.pendingNames.Nodup := by
        rw [Analysis.pendingNames, hp.tests a ha hconcerned]
        exact Phase.namesApart_tests hapart
      exact absurd (hc.eq_of_name_eq ha hpending hj hi hsame.symm hrid (hname₁.trans hname.symm)) hne
    | admission => exact fun hfirst => absurd hconcerned' (hfirst a' ha')
    | status | plain => exact hold
  have hown : x = .run ctx test stage' → x.Fits r o (stage'.phase r test) c'.store := by
    rintro rfl
    exact ⟨fun hold => absurd hold hctx.not_earlier, fun _ _ => ⟨rfl, hst'⟩⟩
  cases h with
  | runStore hi₀ hans hstep =>
    cases hi₀.symm.trans hi
    cases (getElem?_goOn_self (r := r) hi₀ _ _).symm.trans hi'
    rcases stages_goOn hj with ⟨-, hx⟩ | ⟨hne, hj⟩ | ⟨e, he, rfl⟩
    · exact hown hx
    · exact hrest hne hj
    · exact hp.fits_launched hhist hi hstep he
  | runBackend hi₀ hans hstep =>
    cases hi₀.symm.trans hi
    cases (getElem?_goOn_self (r := r) hi₀ _ _).symm.trans hi'
    rcases stages_goOn hj with ⟨-, hx⟩ | ⟨hne, hj⟩ | ⟨e, he, -⟩
    · exact hown hx
    · exact hrest hne hj
    · cases he
  | enter hi₀ | admission hi₀ | status hi₀ | plain hi₀ => cases hi₀.symm.trans hi

/-- **A turn of the detector's run stays in the same phase, or leads to the next one.** -/
theorem InPhase.turn_of_detector (hp : c.InPhase r o p) (hc : c.Kept r)
    (hhist : History r w.reliable (idle start) t c) (h : Turn r w.reliable i q answer c c')
    (hi : c.stages[i]? = some (.run ctx test stage)) (hctx : o.Concerns ctx)
    (hname : test.name = SecurityTest.detectorName) (hapart : NamesApart o.tests)
    (hknown : c'.store.securityTests = o.known)
    (hone : ∀ a ∈ c'.store.analyses, o.Concerns ⟨a.rid, a.url⟩ → a.rid = rid) :
    ∃ p', c'.InPhase r o p' := by
  obtain ⟨a, ha, hrid, hconcerned⟩ := hc.exists_concerned hi hctx
  have hone : ∀ b ∈ c.store.analyses, o.Concerns ⟨b.rid, b.url⟩ → b.rid = ctx.rid := by
    have hback : ∀ b ∈ c.store.analyses, o.Concerns ⟨b.rid, b.url⟩ → b.rid = rid := by
      intro b hb hbconcerned
      obtain ⟨b', hb', hbrid, hb'concerned⟩ := h.exists_concerned hc hb hbconcerned
      exact hbrid.symm.trans (hone b' hb' hb'concerned)
    exact fun b hb hbconcerned =>
      (hback b hb hbconcerned).trans ((hback a ha hconcerned).symm.trans hrid)
  obtain ⟨stage', hi', hst', hrepository⟩ := hp.repository_of_detector hc h hi hctx hname
  exact ⟨stage'.phase r test, {
    known := hknown
    earlier := hp.earlier_of_turn hc h
    repository := hrepository
    tests := fun _ ha' => hp.tests_of_detector hc h hi hctx hname hone hi' ha'
    stages := fun _ _ hj => hp.stages_of_detector hc hhist h hi hctx hname hapart hone hi' hst' hj
    begun := fun _ => ⟨i, ctx, test, stage', hi', hctx, hname⟩ }⟩

end Turns

/-! ### Histories -/

/-- Nothing has been recorded as long as nobody is at work. -/
theorem inPhase_of_rest (hc : c.Kept r) (hrest : ∀ x ∈ (c.crowd r).workers, x.isLive = false)
    (hknown : c.store.securityTests = o.known)
    (hearlier : c.store.analyses.map Analysis.rid = o.earlier)
    (hrepository : c.store.repositories.find? (·.url == o.url) = some o.repository) :
    c.InPhase r o .waiting where
  known := hknown
  earlier := hearlier ▸ List.Subset.refl _
  repository := hrepository
  tests a ha hconcerned :=
    absurd (hearlier ▸ List.mem_map_of_mem ha) hconcerned.not_earlier
  stages i x hi := by
    have hdone : (x.worker r).isLive = false := hrest _ (List.mem_map_of_mem (List.mem_of_getElem? hi))
    cases x with
    | run ctx test stage =>
      rw [Stage.isLive_worker_run, Bool.not_eq_false'] at hdone
      obtain ⟨a, ha, hrid, -⟩ := hc.mem_of_run hi
      have hold : ctx.rid ∈ o.earlier := hrid ▸ hearlier ▸ List.mem_map_of_mem ha
      exact ⟨fun _ => hdone, fun hctx _ => absurd hold hctx.not_earlier⟩
    | admission url stage =>
      cases stage with
      | ended => exact fun _ => True.intro
      | _ => cases hdone
    | status => exact True.intro
    | plain e rest =>
      cases rest with
      | done a => exact True.intro
      | ask q next => cases hdone
  begun hne := absurd rfl hne

theorem InPhase.request (hp : c.InPhase r o p) {e : Errand} (he : e.isRequest = true) :
    ({ c with stages := c.stages ++ [.begin r e] } : Staging).InPhase r o p where
  known := hp.known
  earlier := hp.earlier
  repository := hp.repository
  tests := hp.tests
  stages j x hj := by
    rcases stages_request hj with hj | rfl
    · exact hp.stages j x hj
    · refine Stage.fits_begin fun ctx test hrun => ?_
      subst hrun
      cases he
  begun hne := by
    obtain ⟨i, ctx, test, stage, hi, h⟩ := hp.begun hne
    refine ⟨i, ctx, test, stage, ?_, h⟩
    rw [List.getElem?_append_left (List.getElem?_eq_some_iff.mp hi).1, hi]

/-- The tests that were registered at the outset are registered still, in their order. -/
theorem History.securityTests_isPrefix {start : Staging} {t : List Crowd.Event}
    (h : History r w start t c) : start.store.securityTests <+: c.store.securityTests := by
  induction h with
  | start => exact List.prefix_refl _
  | request _ _ ih => exact ih
  | turn _ hturn ih => exact ih.trans hturn.securityTests_isPrefix

/-- **At all times everything is in one phase,** as long as there is one new analysis of the
repository at most and no test is registered. -/
theorem inPhase_history {m : Store.Memory} (hm : m.analyses = []) {t t' : List Crowd.Event}
    {start : Staging} (hstart : History r w.reliable (idle m) t start)
    (hp : start.InPhase r o .waiting) (hapart : NamesApart o.tests)
    (h : History r w.reliable start t' c) (hsame : c.store.securityTests = o.known)
    (hone : ∀ a ∈ c.store.analyses, o.Concerns ⟨a.rid, a.url⟩ → a.rid = rid) :
    ∃ p, c.InPhase r o p := by
  induction h with
  | start => exact ⟨.waiting, hp⟩
  | request _ he ih =>
    obtain ⟨p, hp⟩ := ih hsame hone
    exact ⟨p, hp.request he⟩
  | @turn t' c c' i q answer hlater hturn ih =>
    have hhist := hstart.trans hlater
    have hc : c.Kept r := (kept_idle hm).history hhist
    have hbefore : c.store.securityTests = o.known := by
      have hfirst := hlater.securityTests_isPrefix
      have hlast := hturn.securityTests_isPrefix
      rw [hp.known] at hfirst
      rw [hsame] at hlast
      exact (hfirst.eq_of_length (Nat.le_antisymm hfirst.length_le hlast.length_le)).symm
    obtain ⟨p, hp⟩ := ih hbefore fun a ha hconcerned => by
      obtain ⟨b, hb, hbrid, hbconcerned⟩ := hturn.exists_concerned hc ha hconcerned
      exact hbrid.symm.trans (hone b hb hbconcerned)
    by_cases hdetector : ∃ ctx test stage, c.stages[i]? = some (.run ctx test stage) ∧
        o.Concerns ctx ∧ test.name = SecurityTest.detectorName
    · obtain ⟨ctx, test, stage, hi, hctx, hname⟩ := hdetector
      exact hp.turn_of_detector hc hhist hturn hi hctx hname hapart hsame hone
    · refine ⟨p, hp.turn_of_others hc hhist hturn (fun ctx test stage hi hctx hname => ?_) hsame hone⟩
      exact hdetector ⟨ctx, test, stage, hi, hctx, hname⟩

end Staging
end Service
end ScanService
