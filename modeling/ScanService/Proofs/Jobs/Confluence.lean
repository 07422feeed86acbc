import ScanService.Proofs.Jobs.Phases
import ScanService.Proofs.Schedule

/-!
# Results do not depend on the schedule

Fix the registered tests, a repository, and a backend whose answers about a unit depend on nothing
but what the unit is made of.  However the turns are taken, when an analysis of the repository has no
run left, the repository and the tests of the analysis are those of the last phase, and each entry
says what the fate of its test is.  Phase and fates were settled at the outset, so two such courses
of events have the same results.

## What is here

* `Crowd.HasAnalysed` — an analysis of a repository has come to its end, with such a backend.
* `HasAnalysed.conclusion` — **what there is in the end is settled at the outset.**
* `schedule_makes_no_difference` — **two courses of events have the same results.**
-/

namespace ScanService

/-! ## Results of jobs in some order -/

/-- What an entry contributes to the result. -/
def Findings.outcome (f : Findings) : Verdict :=
  match f.status with
  | .error => .error
  | _ => f.verdict.getD .passed

theorem Job.outcome_findings (j : Job) : j.findings.outcome = j.outcome := rfl

/-- The order of outcomes does not matter. -/
theorem Verdict.combine_eq_of_perm {xs ys : List Verdict} (h : xs.Perm ys) :
    combine xs = combine ys := by
  simp only [combine, h.mem_iff]

namespace Service

open Execution (UnitContext)

variable {r : Runner} {w : Surroundings} {m : Store.Memory} {b : Conduct} {o : Outset}

/-! ## The last phase -/

/-- The phase in which the detection ends. -/
def Outset.lastPhase (o : Outset) (r : Runner) (b : Conduct) : Phase :=
  match o.tests.find? (·.name == SecurityTest.detectorName) with
  | some test => (b.fate (r.recipe o.url test) test.timeout).phase r test
  | none => .waiting

/-- The tests of an analysis have different names at its beginning. -/
theorem Outset.namesApart_tests (h : NamesApart o.repository.securityTests) :
    NamesApart o.tests := by
  rw [tests]
  split
  · next hlacks =>
    refine namesApart_detector h hlacks fun test htest => ?_
    have hname := List.find?_some htest
    simpa using hname
  · exact h

namespace Staging

variable {c : Staging} {a : Analysis}

/-- **When no run of the analysis is left, the phase is the last one.** -/
theorem InPhase.eq_lastPhase {p : Phase} (hp : c.InPhase r o p) (hc : c.Kept r)
    (ha : a ∈ c.store.analyses) (hconcerned : o.Concerns ⟨a.rid, a.url⟩)
    (hone : ∀ b ∈ c.store.analyses, o.Concerns ⟨b.rid, b.url⟩ → b.rid = a.rid)
    (hended : ∀ ctx test, (c.crowd r).HasLiveRun ctx test → ctx.rid ≠ a.rid)
    {t : List Crowd.Event} (hfated : ∀ {i : Nat} {ctx : UnitContext} {test : SecurityTest}
      {stage : RunStage}, c.stages[i]? = some (.run ctx test stage) → ctx.rid = a.rid →
        stage.IsFated r b t i ctx test) : p = o.lastPhase r b := by
  have htests := hp.tests a ha hconcerned
  rw [Outset.lastPhase]
  cases hfind : o.tests.find? (·.name == SecurityTest.detectorName) with
  | some test =>
    have hname : test.name = SecurityTest.detectorName := by simpa using List.find?_some hfind
    have hmem : test ∈ a.securityTests := by
      rw [htests]
      have hmem := List.mem_of_find?_eq_some hfind
      cases p with
      | waiting | selected => exact hmem
      | followed => exact List.mem_append_left _ hmem
    obtain ⟨i, ctx, stage, hrid, hi⟩ := hc.exists_run_of_mem ha hmem
    have hctx : o.Concerns ctx := by
      have hurl : a.url = ctx.repositoryUrl := hc.urls i ctx test stage hi a ha hrid.symm
      exact ⟨hurl.symm.trans hconcerned.url_eq, hrid ▸ hconcerned.not_earlier⟩
    have hphase := ((hp.stages i _ hi).2 hctx hname).1
    have hfate := (hfated hi hrid).prospect
    rw [hctx.url_eq] at hfate
    rw [← hphase, RunStage.phase_of_isEnded (isEnded_of_all_ended hended hi hrid) b
      (r.recipe o.url test) test.timeout, hfate]
  | none =>
    by_contra hne
    obtain ⟨i, ctx, test, stage, hi, hctx, hname⟩ := hp.begun hne
    obtain ⟨a', ha', hrid', hconcerned'⟩ := hc.exists_concerned hi hctx
    have hrid : ctx.rid = a.rid := hrid'.symm.trans (hone a' ha' hconcerned')
    have hmem := hc.mem_of_test ha hi hrid
    rw [htests] at hmem
    have hnot : test ∉ o.tests := fun h => by
      have hno := List.find?_eq_none.mp hfind test h
      simp [hname] at hno
    cases p with
    | waiting | selected => exact hnot hmem
    | followed languages =>
      rcases List.mem_append.mp hmem with hmem | hmem
      · exact hnot hmem
      · exact name_ne_of_mem_followUps hmem hname

end Staging

/-! ## Analyses that have come to an end -/

/-- In some turns an analysis of a repository has been admitted, the only one since the start, and no
run of it is left; the backend has behaved according to a conduct, and no test has been
registered. -/
structure Crowd.HasAnalysed (r : Runner) (w : Surroundings) (start : Crowd) (b : Conduct)
    (url : String) (t : List Crowd.Event) (s : Crowd) (a : Analysis) : Prop where
  /-- The turns have been taken with a reliable store, and units have identifiers of their own. -/
  history : Crowd.History r w.reliable.withFreshUnits start t s
  /-- The backend takes notice of what units are made of alone. -/
  governed : b.Governs t
  /-- No test has been registered. -/
  known : s.store.securityTests = start.store.securityTests
  /-- The analysis is stored. -/
  mem : a ∈ s.store.analyses
  /-- It is of the repository. -/
  url_eq : a.url = url
  /-- It has been admitted meanwhile. -/
  admitted : a.rid ∉ start.store.analyses.map Analysis.rid
  /-- There is no other. -/
  only : ∀ a' ∈ s.store.analyses, a'.url = url →
    a'.rid ∉ start.store.analyses.map Analysis.rid → a'.rid = a.rid
  /-- No run of it is left. -/
  ended : ∀ ctx test, s.HasLiveRun ctx test → ctx.rid ≠ a.rid

/-- A repository in a state of the service. -/
def Crowd.outset (s : Crowd) (x : Repository) : Outset :=
  ⟨x, s.store.securityTests, s.store.analyses.map Analysis.rid⟩

variable {url : String} {x : Repository} {t : List Crowd.Event} {start s : Crowd} {a : Analysis}

/-- **What there is in the end is settled at the outset.** -/
theorem Crowd.HasAnalysed.conclusion (h : Crowd.HasAnalysed r w start b url t s a)
    (hm : m.analyses = []) (hstart : Crowd.Reachable r w.reliable.withFreshUnits (.idle m) start)
    (hrest : ∀ y ∈ start.workers, y.isLive = false)
    (hx : start.store.repositories.find? (·.url == url) = some x)
    (hnames : (x.securityTests.map (·.name)).Nodup) :
    a.securityTests = ((start.outset x).lastPhase r b).tests (start.outset x) ∧
      s.store.repositories.find? (·.url == url) =
        some (((start.outset x).lastPhase r b).repository (start.outset x)) ∧
      (a.jobs.map Job.findings).Perm (a.securityTests.map fun test =>
        (b.fate (r.recipe url test) test.timeout).findings r test) ∧
      a.aggregate.result = some (.combine ((a.jobs.map Job.findings).map Findings.outcome)) := by
  obtain ⟨hlater, hb, hknown, ha, haurl, hnew, honly, hended⟩ := h
  obtain ⟨t₀, c₀, hstaged₀, rfl⟩ := Staging.exists_staging_of_reachable hstart
  obtain ⟨c, hstaged, rfl⟩ := Staging.exists_staging hlater
  have hxurl : x.url = url := by simpa using List.find?_some hx
  subst hxurl
  have hwhole := hstaged₀.trans hstaged
  have hc₀ : c₀.Kept r := (Staging.kept_idle hm).history hstaged₀
  obtain ⟨hc, hexact⟩ := Staging.exact_history (w := w.withFreshUnits) hm hwhole
  have hu := Staging.unitsApart_history (w := w.reliable) hwhole
  have hone : ∀ a' ∈ c.store.analyses, ((c₀.crowd r).outset x).Concerns ⟨a'.rid, a'.url⟩ →
      a'.rid = a.rid := fun a' ha' hconcerned =>
    honly a' ha' hconcerned.url_eq hconcerned.not_earlier
  obtain ⟨p, hp⟩ := Staging.inPhase_history (w := w.withFreshUnits) (o := (c₀.crowd r).outset x) hm
    hstaged₀ (Staging.inPhase_of_rest hc₀ hrest rfl rfl hx) (Outset.namesApart_tests hnames) hstaged
    hknown hone
  have hfated : ∀ {i : Nat} {ctx : UnitContext} {test : SecurityTest} {stage : RunStage},
      c.stages[i]? = some (.run ctx test stage) → ctx.rid = a.rid →
        stage.IsFated r b t i ctx test := by
    intro i ctx test stage hi hrid
    -- the runs at the start are of other analyses
    refine Staging.isFated_of_history hstaged hb (fun i₀ test₀ stage₀ hi₀ => ?_) hi
    obtain ⟨a₀, ha₀, hrid₀, -⟩ := hc₀.mem_of_run hi₀
    exact hnew (List.mem_map.mpr ⟨a₀, ha₀, hrid₀.trans hrid⟩)
  have hconcerned : ((c₀.crowd r).outset x).Concerns ⟨a.rid, a.url⟩ := ⟨haurl, hnew⟩
  obtain rfl := hp.eq_lastPhase hc ha hconcerned hone hended hfated
  refine ⟨hp.tests a ha hconcerned, hp.repository, ?_, ?_⟩
  · have hperm := Staging.findings_perm_of_all_ended hc hexact hu ha hended hfated
    rwa [haurl] at hperm
  · have hcomplete := (Staging.isComplete_of_all_ended hc hexact hu ha hended).1
    have hearned := ((Staging.orderly_idle (r := r) hm).history hwhole).stored.earned a ha
    rw [hearned.aggregate_eq hcomplete, List.map_map]
    simp only [Function.comp_def, Job.outcome_findings]

/-- **The schedule makes no difference.**  Start from a state that the service has come to and in which
nobody is at work, with a repository that has tests of different names, and with one backend that takes
notice of what units are made of alone.  In two courses of events let an analysis of the repository be
admitted and run until no run of it is left, whatever else happens, as long as no test is registered,
the repository is not analysed again, the store does not fail of itself and units have identifiers of
their own.  Then

* the tests that were to run are the same, in the same order;
* the entries say the same, in some order;
* the repository is the same, with the same languages and the same tests;
* both analyses have come to the same result. -/
theorem schedule_makes_no_difference {t' : List Crowd.Event} {s' : Crowd} {a' : Analysis}
    (hm : m.analyses = []) (hstart : Crowd.Reachable r w.reliable.withFreshUnits (.idle m) start)
    (hrest : ∀ y ∈ start.workers, y.isLive = false)
    (hx : start.store.repositories.find? (·.url == url) = some x)
    (hnames : (x.securityTests.map (·.name)).Nodup)
    (h : Crowd.HasAnalysed r w start b url t s a)
    (h' : Crowd.HasAnalysed r w start b url t' s' a') :
    a.securityTests = a'.securityTests ∧
      (a.jobs.map Job.findings).Perm (a'.jobs.map Job.findings) ∧
      (∃ y, s.store.repositories.find? (·.url == url) = some y ∧
        s'.store.repositories.find? (·.url == url) = some y) ∧
      ∃ verdict, a.aggregate.result = some verdict ∧ a'.aggregate.result = some verdict := by
  obtain ⟨htests, hrepository, hjobs, hresult⟩ := h.conclusion hm hstart hrest hx hnames
  obtain ⟨htests', hrepository', hjobs', hresult'⟩ := h'.conclusion hm hstart hrest hx hnames
  have hsame : a.securityTests = a'.securityTests := htests.trans htests'.symm
  have hperm : (a.jobs.map Job.findings).Perm (a'.jobs.map Job.findings) := by
    rw [hsame] at hjobs
    exact hjobs.trans hjobs'.symm
  refine ⟨hsame, hperm, ⟨_, hrepository, hrepository'⟩, _, hresult, ?_⟩
  rw [hresult', Verdict.combine_eq_of_perm (hperm.map Findings.outcome)]

/-! ### A sample -/

namespace Script

/-- Units are named after their images, and the detector finds the language. -/
def byImage : Script :=
  { sample with
    backend := fun _ c =>
      match c with
      | .imageIsLoaded _ => .ok true
      | .pullImage _ | .startUnit _ | .waitUnit _ _ | .ping => .ok ()
      | .createUnit _ image _ => .ok image
      | .readOutput id => .ok (if id = sampleDetector.imageRef then "python" else "") }

/-- What a backend makes of units that is like this. -/
def imageConduct : Conduct where
  create _ := .ok ()
  start _ := .ok ()
  wait _ _ := .ok ()
  output x := .ok (if x.image = sampleDetector.imageRef then "python" else "")

/-- A test that is attached to a repository. -/
def attachedTest : SecurityTest :=
  ⟨"safety", "safety", "latest", "safety", SecurityTest.genericLanguage, true, 60⟩

/-- A store with the tests, and a repository to which one is attached. -/
def attachedStore : Store.Memory :=
  ⟨[{ sampleRepository with securityTests := [attachedTest] }],
    [sampleDetector, sampleTest, attachedTest], []⟩

/-- An analysis is admitted, then the detector runs, the attached test and the one that follows. -/
def detectorFirst : List Move :=
  admission ++ List.replicate 13 (.turn 1) ++ List.replicate 8 (.turn 2) ++ List.replicate 8 (.turn 3)

/-- An analysis is admitted, then the attached test runs, the detector and the one that follows. -/
def detectorSecond : List Move :=
  admission ++ List.replicate 8 (.turn 2) ++ List.replicate 13 (.turn 1) ++ List.replicate 8 (.turn 3)

theorem governs_imageConduct {moves : List Move} {s s' : Crowd}
    (h : Crowd.follow r (byImage.schedule moves) s = some (s', t)) : imageConduct.Governs t where
  creations i ctx image command answer hmem := by
    rw [byImage.answer_of_mem_follow h hmem]
    rfl
  units i ctx image command id q answer hmade hq hmem := by
    have hid : id = image := Except.ok.inj (byImage.answer_of_mem_follow h hmade)
    cases q with
    | backend c =>
      rw [byImage.answer_of_mem_follow h hmem]
      cases c with
      | startUnit | waitUnit => rfl
      | readOutput =>
        cases hq
        rw [hid]
        rfl
      | _ => cases hq
    | _ => cases hq

/-- What is analysed in the sample. -/
theorem hasAnalysed_byImage {moves : List Move}
    (h : Crowd.follow sampleRunner (byImage.schedule moves) (.idle attachedStore) = some (s, t))
    (hfresh : Crowd.createsFresh [] t = true) (hstored : s.store.analyses = [a])
    (hurl : a.url = sampleRepository.url)
    (hknown : s.store.securityTests = attachedStore.securityTests)
    (hended : s.workers.any Worker.isLive = false) :
    Crowd.HasAnalysed sampleRunner .arbitrary (.idle attachedStore) imageConduct sampleRepository.url t
      s a where
  history := Crowd.history_of_follow .start h (fun _ => isAllowedBy_of_mem_schedule)
    (Surroundings.allow_of_createsFresh (fun _ _ _ => True.intro) hfresh)
  governed := governs_imageConduct h
  known := hknown
  mem := hstored ▸ List.mem_cons_self
  url_eq := hurl
  admitted := List.not_mem_nil
  only a' ha' _ _ := by
    rw [hstored, List.mem_singleton] at ha'
    rw [ha']
  ended ctx test hrun := by
    obtain ⟨x, hx, -, hlive⟩ := hrun
    rw [List.any_eq_false] at hended
    exact absurd hlive (hended x hx)

end Script

/-- In the sample the entries are recorded in another order, and say the same. -/
theorem schedule_makes_no_difference_sample : ∃ s t a s' t' a',
    Crowd.follow Script.sampleRunner (Script.byImage.schedule Script.detectorFirst)
        (.idle Script.attachedStore) = some (s, t) ∧
      Crowd.follow Script.sampleRunner (Script.byImage.schedule Script.detectorSecond)
        (.idle Script.attachedStore) = some (s', t') ∧
      s.store.analyses = [a] ∧ s'.store.analyses = [a'] ∧
      a.startedNames = [SecurityTest.detectorName, "safety", "bandit"] ∧
      a'.startedNames = ["safety", SecurityTest.detectorName, "bandit"] ∧
      (a.jobs.map Job.findings).Perm (a'.jobs.map Job.findings) ∧
      ∃ verdict, a.aggregate.result = some verdict ∧ a'.aggregate.result = some verdict := by
  obtain ⟨s, t, a, hs, hfresh, hstored, hurl, hknown, hended, hnames⟩ : ∃ s t a,
      Crowd.follow Script.sampleRunner (Script.byImage.schedule Script.detectorFirst)
          (.idle Script.attachedStore) = some (s, t) ∧
        Crowd.createsFresh [] t = true ∧ s.store.analyses = [a] ∧
        a.url = Script.sampleRepository.url ∧
        s.store.securityTests = Script.attachedStore.securityTests ∧
        s.workers.any Worker.isLive = false ∧
        a.startedNames = [SecurityTest.detectorName, "safety", "bandit"] :=
    ⟨_, _, _, rfl, rfl, rfl, rfl, rfl, rfl, rfl⟩
  obtain ⟨s', t', a', hs', hfresh', hstored', hurl', hknown', hended', hnames'⟩ : ∃ s t a,
      Crowd.follow Script.sampleRunner (Script.byImage.schedule Script.detectorSecond)
          (.idle Script.attachedStore) = some (s, t) ∧
        Crowd.createsFresh [] t = true ∧ s.store.analyses = [a] ∧
        a.url = Script.sampleRepository.url ∧
        s.store.securityTests = Script.attachedStore.securityTests ∧
        s.workers.any Worker.isLive = false ∧
        a.startedNames = ["safety", SecurityTest.detectorName, "bandit"] :=
    ⟨_, _, _, rfl, rfl, rfl, rfl, rfl, rfl, rfl⟩
  have h := Script.hasAnalysed_byImage hs hfresh hstored hurl hknown hended
  have h' := Script.hasAnalysed_byImage hs' hfresh' hstored' hurl' hknown' hended'
  obtain ⟨-, hjobs, -, hresult⟩ := schedule_makes_no_difference
    (x := { Script.sampleRepository with securityTests := [Script.attachedTest] }) rfl .refl nofun rfl
    (by decide) h h'
  exact ⟨s, t, a, s', t', a', hs, hs', hstored, hstored', hnames, hnames', hjobs, hresult⟩

end Service
end ScanService
