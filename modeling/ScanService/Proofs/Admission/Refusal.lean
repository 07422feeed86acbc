import ScanService.Proofs.Admission.Ends
import ScanService.Proofs.Schedule
import ScanService.Proofs.Stages.Admission
import ScanService.Proofs.Store.Repositories

/-!
# Refused admissions

An admission writes before it knows that it will be refused: it stores the running analyses that it
finds complete as ended, one by one, and may then come upon one that is not, or upon a store that
fails.  Nobody notices these writes, since an end is stored exactly as readers have been told it all
along.

## What is here

* `Memory.withEnds` — a store in which some ends have been stored; its readers are told the same
  (`told_withEnds`).
* `AdmissionStage.Leaves` — what an admission has left behind, by the stage where it stands;
  `Leaves.step` and `leaves_of_history` carry it along a history in which nobody else takes a turn.
* `outcome_of_admission` — **a refused admission leaves no trace**, and an accepted one leaves one
  analysis, one run for each of its tests, and the ends of the analyses before it.
-/

namespace ScanService

namespace Store.Memory

variable {m : Memory} {url : String} {ended : List Analysis} {a : Analysis}

/-- The analyses of a repository that are stored as running. -/
def running (m : Memory) (url : String) : List Analysis :=
  m.analyses.filter fun a => a.url == url && a.status == .running

/-- The same store, some analyses being stored as their readers are told of them. -/
def withEnds (ended : List Analysis) (m : Memory) : Memory :=
  { m with analyses := m.analyses.map fun a => if a ∈ ended then a.snapshot else a }

/-- The tests that an analysis of a repository is to run: its own, after the detector if that is
registered and the repository lacks it. -/
def testsFor (m : Memory) (repository : Repository) : List SecurityTest :=
  if Service.lacksDetector repository then
    (m.securityTests.find? (·.name == SecurityTest.detectorName)).toList ++ repository.securityTests
  else repository.securityTests

theorem mem_running : a ∈ m.running url ↔ a ∈ m.analyses ∧ a.url = url ∧ a.status = .running := by
  simp [running]

@[simp] theorem withEnds_nil : m.withEnds [] = m := by
  simp [withEnds]

@[simp] theorem map_rid_withEnds :
    (m.withEnds ended).analyses.map Analysis.rid = m.analyses.map Analysis.rid := by
  rw [withEnds, List.map_map]
  refine List.map_congr_left fun a _ => ?_
  simp only [Function.comp_apply]
  split <;> rfl

theorem analyses_withEnds_running : (m.withEnds (m.running url)).analyses =
    m.analyses.map fun a => if a.url = url ∧ a.status = .running then a.snapshot else a := by
  refine List.map_congr_left fun a ha => ?_
  simp only [mem_running, ha, true_and]

/-- **Readers do not notice ends that are stored**, if the analyses are complete. -/
theorem told_withEnds (h : ∀ a ∈ ended, a.status = .running ∧ a.isComplete = true) (rid : Uuid) :
    ((m.withEnds ended).analyses.find? (·.rid == rid)).map Analysis.snapshot =
      (m.analyses.find? (·.rid == rid)).map Analysis.snapshot := by
  have hrid : ((·.rid == rid) ∘ fun a : Analysis => if a ∈ ended then a.snapshot else a) =
      (·.rid == rid) := by
    funext a
    simp only [Function.comp_apply]
    split <;> rfl
  rw [withEnds, List.find?_map, hrid, Option.map_map]
  congr 1
  funext a
  simp only [Function.comp_apply]
  split
  · next ha =>
    obtain ⟨hrunning, hcomplete⟩ := h a ha
    exact Analysis.snapshot_snapshot _
  · rfl

/-- One more end is stored. -/
theorem editAnalysis_withEnds (hn : (m.analyses.map Analysis.rid).Nodup) (ha : a ∈ m.analyses)
    (hrunning : a.status = .running) (hcomplete : a.isComplete = true) (hnew : a ∉ ended) :
    editAnalysis a.rid (Service.finalization a).apply (m.withEnds ended).analyses =
      (m.withEnds (ended ++ [a])).analyses := by
  rw [editAnalysis, withEnds, withEnds, List.map_map]
  refine List.map_congr_left fun b hb => ?_
  simp only [Function.comp_apply, List.mem_append, List.mem_singleton]
  by_cases hba : b = a
  · subst hba
    rw [if_neg hnew, if_pos rfl, if_pos (Or.inr rfl),
      Analysis.finalization_apply hrunning hcomplete]
  · have hrid : b.rid ≠ a.rid := fun he => hba (eq_of_rid_eq hn hb ha he)
    by_cases hended : b ∈ ended
    · rw [if_pos hended, if_pos (Or.inl hended)]
      exact if_neg hrid
    · rw [if_neg hended, if_neg hrid, if_neg (by simp [hended, hba])]

end Store.Memory

namespace Service

open Execution (UnitContext)
open Store (Memory)

namespace Surroundings

variable {w : Surroundings} {m m' : Memory}

/-- Whoever asks for a change of analyses changes nothing else. -/
theorem stores_concerningAnalyses {c : Store.Call} {answer : c.Answer}
    (h : w.Stores c m answer m') (hr : ∀ x, c ≠ .insertRepository x)
    (hu : ∀ f p, c ≠ .updateRepository f p) (ht : ∀ test, c ≠ .insertSecurityTest test) :
    m' = { m with analyses := m'.analyses } := by
  have hrepositories : m'.repositories = m.repositories := by
    rcases stores_repositories_cases h with he | ⟨x, hc, -⟩ | ⟨f, p, hc, -⟩
    · exact he
    · exact absurd hc (hr x)
    · exact absurd hc (hu f p)
  have htests : m'.securityTests = m.securityTests := by
    rcases stores_securityTests_cases h with he | ⟨test, hc, -⟩
    · exact he
    · exact absurd hc (ht test)
  cases m
  cases m'
  simp_all

end Surroundings

theorem lacksDetector_iff {repository : Repository} : lacksDetector repository = true ↔
    repository.languages = [] ∧
      SecurityTest.detectorName ∉ repository.securityTests.map (·.name) := by
  simp [lacksDetector]

theorem testsFor_eq {m : Memory} {repository : Repository} : m.testsFor repository =
    (if repository.languages = [] ∧
        SecurityTest.detectorName ∉ repository.securityTests.map (·.name) then
      (m.securityTests.find? (·.name == SecurityTest.detectorName)).toList
    else []) ++ repository.securityTests := by
  simp only [Memory.testsFor, lacksDetector_iff]
  split <;> rfl

namespace AdmissionStage

/-- What an admission to a store has left behind when it stands at a stage: the store, and the runs
that it has launched.  Until it is accepted it has stored some ends, in the order in which it found
the running analyses. -/
inductive Leaves (url : String) (m : Memory) :
    AdmissionStage → Memory → List (UnitContext × SecurityTest) → Prop where
  | enter : Leaves url m enter m []
  | findRepository : Leaves url m findRepository m []
  | findRunning {repository : Repository}
    (hr : m.repositories.find? (·.url == url) = some repository) :
    Leaves url m (findRunning repository) m []
  | finalize {repository : Repository} {ended rest : List Analysis} {a : Analysis}
    (hr : m.repositories.find? (·.url == url) = some repository)
    (hs : m.running url = ended ++ a :: rest) (he : ∀ b ∈ ended, b.isComplete = true)
    (ha : a.isComplete = true) :
    Leaves url m (finalize repository a rest) (m.withEnds ended) []
  | findDetector {repository : Repository}
    (hr : m.repositories.find? (·.url == url) = some repository)
    (he : ∀ b ∈ m.running url, b.isComplete = true) (hl : lacksDetector repository = true) :
    Leaves url m (findDetector repository) (m.withEnds (m.running url)) []
  | insert {repository : Repository}
    (hr : m.repositories.find? (·.url == url) = some repository)
    (he : ∀ b ∈ m.running url, b.isComplete = true) (rid : Uuid) (now : Timestamp) :
    Leaves url m (insert repository (m.testsFor repository) rid now) (m.withEnds (m.running url)) []
  | refused {ended : List Analysis} (hs : ended <+: m.running url)
    (he : ∀ b ∈ ended, b.isComplete = true) (e : ServiceError) :
    Leaves url m (AdmissionStage.ended (.error e)) (m.withEnds ended) []
  | accepted {repository : Repository} {rid : Uuid}
    (hr : m.repositories.find? (·.url == url) = some repository)
    (he : ∀ b ∈ m.running url, b.isComplete = true) (hnew : rid ∉ m.analyses.map Analysis.rid)
    (now : Timestamp) :
    Leaves url m (AdmissionStage.ended (.ok rid))
      { m with
        analyses := (m.withEnds (m.running url)).analyses ++
          [.admitted rid url (m.testsFor repository) now] }
      ((m.testsFor repository).map fun test => (⟨rid, url⟩, test))

variable {r : Runner} {w : Surroundings} {url : String} {m m₁ m₂ : Memory}
  {launched : List (UnitContext × SecurityTest)}

/-- Where an admission may still fail it has left nothing but ends. -/
theorem Leaves.refuse {stage : AdmissionStage} (h : stage.Leaves url m m₁ launched)
    (hg : stage.holdsGate = true) (e : ServiceError) :
    (ended (.error e)).Leaves url m m₁ launched := by
  have hnone : (ended (.error e)).Leaves url m (m.withEnds []) [] :=
    .refused List.nil_prefix (by simp) e
  rw [Memory.withEnds_nil] at hnone
  cases h with
  | enter | refused | accepted => cases hg
  | findRepository | findRunning => exact hnone
  | finalize hr hs he ha => exact .refused (hs ▸ List.prefix_append _ _) he e
  | findDetector hr he | insert hr he => exact .refused (List.prefix_refl _) he e

/-- What an admission leaves behind when it goes on to the running analyses that it has not dealt
with. -/
theorem Leaves.proceeds {repository : Repository} {dealt awaited : List Analysis}
    {stage : AdmissionStage} (h : Proceeds url repository awaited stage)
    (hr : m.repositories.find? (·.url == url) = some repository)
    (hs : m.running url = dealt ++ awaited) (he : ∀ b ∈ dealt, b.isComplete = true) :
    stage.Leaves url m (m.withEnds dealt) [] := by
  cases h with
  | conflict => exact .refused (hs ▸ List.prefix_append _ _) he _
  | @finalize a rest hended =>
    have ha : a ∈ m.running url := hs ▸ List.mem_append_right _ List.mem_cons_self
    have hstatus : a.aggregate.status = .finished := by
      cases h : a.aggregate.status with
      | running => exact absurd h hended
      | finished => rfl
    exact .finalize hr hs he
      (Analysis.isComplete_of_aggregate (Memory.mem_running.mp ha).2.2 hstatus)
  | detect hl =>
    obtain rfl : dealt = m.running url := by rw [hs, List.append_nil]
    exact .findDetector hr he hl
  | insert hl rid now =>
    obtain rfl : dealt = m.running url := by rw [hs, List.append_nil]
    have htests : m.testsFor repository = repository.securityTests := by
      rw [Memory.testsFor, hl, if_neg Bool.false_ne_true]
    exact htests ▸ .insert hr he rid now

/-- The end of the next running analysis is stored behind those that are stored already. -/
theorem eq_withEnds_of_stores {ended rest : List Analysis} {a : Analysis}
    (hn : (m.analyses.map Analysis.rid).Nodup) (hs : m.running url = ended ++ a :: rest)
    (hcomplete : a.isComplete = true)
    (h : w.Stores (.updateAnalysis (.rid a.rid) (finalization a)) (m.withEnds ended) (.ok ()) m₂) :
    m₂ = m.withEnds (ended ++ [a]) := by
  have hrunning := Memory.mem_running.mp
    (hs ▸ List.mem_append_right _ List.mem_cons_self : a ∈ m.running url)
  have hnew : a ∉ ended := by
    have hnodup : (m.running url).Nodup := (List.Nodup.of_map _ hn).filter _
    rw [hs] at hnodup
    exact fun hmem => (List.disjoint_of_nodup_append hnodup) hmem List.mem_cons_self
  have hanalyses := Surroundings.stores_updateAnalysis (by rwa [Memory.map_rid_withEnds]) h
  rw [Memory.editAnalysis_withEnds hn hrunning.1 hrunning.2.2 hcomplete hnew] at hanalyses
  have hm := Surroundings.stores_concerningAnalyses h (by simp) (by simp) (by simp)
  rwa [hanalyses] at hm

/-- The runs that are launched for an analysis that has been admitted. -/
def launchedFor (admitted : Option Analysis) : List (UnitContext × SecurityTest) :=
  admitted.elim [] fun a => a.securityTests.map fun test => (⟨a.rid, a.url⟩, test)

/-- **What one answer of the store adds to what an admission leaves behind.** -/
theorem Leaves.step (hn : (m.analyses.map Analysis.rid).Nodup) {stage stage' : AdmissionStage}
    {q : Store.Call} {answer : q.Answer} {admitted : Option Analysis}
    (h : stage.Leaves url m m₁ launched) (hs : stage.Step url (.store q) answer stage' admitted)
    (ha : w.Stores q m₁ answer m₂) :
    stage'.Leaves url m m₂ (launched ++ launchedFor admitted) := by
  rw [launchedFor]
  cases hs with
  | failed hg e =>
    obtain rfl := Surroundings.stores_error ha
    rw [Option.elim_none, List.append_nil]
    exact h.refuse hg e
  | unknown =>
    cases h
    have hm : m₂ = m := congrArg Prod.snd (Surroundings.stores_ok ha)
    subst hm
    exact Leaves.refuse .findRepository rfl _
  | found repository =>
    cases h
    have hm : m₂ = m := congrArg Prod.snd (Surroundings.stores_ok ha)
    subst hm
    exact .findRunning (Surroundings.find?_of_stores_findRepository ha).symm
  | foundRunning hp =>
    cases h with
    | findRunning hr =>
      obtain ⟨rfl, rfl⟩ := Surroundings.stores_runningFor ha
      have hnext := Leaves.proceeds hp hr (List.nil_append _).symm (by simp)
      rwa [Memory.withEnds_nil] at hnext
  | @finalized repository a rest _ hp =>
    cases h with
    | @finalize _ ended _ _ hr hs he hcomplete =>
      obtain rfl := eq_withEnds_of_stores hn hs hcomplete ha
      refine Leaves.proceeds hp hr (by simpa using hs) fun b hb => ?_
      rcases List.mem_append.mp hb with hb | hb
      · exact he b hb
      · exact List.mem_singleton.mp hb ▸ hcomplete
  | detectorFound detector rid now =>
    cases h with
    | @findDetector repository hr he hl =>
      obtain rfl := Surroundings.find?_of_stores_findSecurityTest ha
      have hm : m₂ = m.withEnds (m.running url) := congrArg Prod.snd (Surroundings.stores_ok ha)
      subst hm
      have hinsert := Leaves.insert hr he rid now
      rwa [Memory.testsFor, if_pos hl] at hinsert
  | @inserted repository tests rid now =>
    cases h with
    | insert hr he =>
      obtain ⟨hanalyses, hnew⟩ := Surroundings.stores_insertAnalysis ha
      have hm := Surroundings.stores_concerningAnalyses ha (by simp) (by simp) (by simp)
      rw [hanalyses] at hm
      have hurl : repository.url = url := by
        simpa using List.find?_some (p := fun x : Repository => x.url == url) hr
      rw [Memory.map_rid_withEnds] at hnew
      subst hm hurl
      exact .accepted hr he hnew now

end AdmissionStage

/-! ## Left alone -/

variable {r : Runner} {w : Surroundings} {s s' start : Crowd} {i : Nat} {url : String}

namespace Crowd

theorem launched_resume {e : Errand} {t t' : Task e.Result} (h : s.workers[i]? = some ⟨e, t⟩) :
    (s.resume i ⟨e, t'⟩).launched = s.launched := by
  rw [launched, errands_resume h, launched]

/-- Clients that come launch nothing. -/
theorem launched_begin {e : Errand} (he : e.isRequest = true) :
    (s.begin r e).launched = s.launched := by
  cases e with
  | run => cases he
  | _ => simp [launched, errands_begin, Errand.run?]

end Crowd

namespace AdmissionStage

/-- What an admission changes itself when it has an answer: it launches the runs of the analysis
that it has admitted, if any, and may leave the gate. -/
theorem settled_eq (st : AdmissionStage) (admitted : Option Analysis) (s : Crowd) :
    (st.settled r admitted s).store = s.store ∧ (st.settled r admitted s).units = s.units ∧
      (st.settled r admitted s).workers =
        s.workers ++ (launchedFor admitted).map fun x => .begin r (.run x.1 x.2) := by
  cases admitted <;> cases hg : st.holdsGate <;>
    simp [settled, launchedFor, hg, Crowd.launchAll, Function.comp_def]

end AdmissionStage

namespace Crowd

/-- The turn of an admission, by its chart: where it goes on to, and what it launches. -/
theorem Turn.admission {stage : AdmissionStage} {q : Call} {answer : q.Answer}
    (h : Turn r w i q answer s s') (hi : s.workers[i]? = some ⟨.analyse url, stage.task url⟩) :
    ∃ stage' admitted s₁, stage.Step url q answer stage' admitted ∧ Answers w s q answer s₁ ∧
      s'.workers[i]? = some ⟨.analyse url, stage'.task url⟩ ∧
      s'.launched = s.launched ++ AdmissionStage.launchedFor admitted ∧
      s'.store = s₁.store ∧ s'.units = s₁.units := by
  obtain @⟨s₁, _, e, next, rest, hworker, ha, ht⟩ := h
  obtain ⟨rfl, htask⟩ := Worker.mk.inj (Option.some.inj (hi.symm.trans hworker))
  obtain ⟨stage', admitted, hstep, rfl, rfl⟩ :=
    AdmissionStage.step_of_settles (eq_of_heq htask) ht
  obtain ⟨hstore, hunits, hworkers⟩ := stage'.settled_eq (r := r) admitted s₁
  rw [ha.workers_eq] at hworkers
  have hold : (stage'.settled r admitted s₁).workers[i]? =
      some ⟨.analyse url, stage.task url⟩ := by
    rw [hworkers, List.getElem?_append_left (List.getElem?_eq_some_iff.mp hi).1, hi]
  refine ⟨stage', admitted, s₁, hstep, ha, ?_, ?_, hstore, hunits⟩
  · rw [resume, List.getElem?_set_self (List.getElem?_eq_some_iff.mp hold).1]
  · rw [launched_resume hold, launched, launched, errands, errands, hworkers]
    simp [List.filterMap_map, Function.comp_def, Worker.begin, Errand.run?]

/-- **An admission to itself.**  As long as nobody else takes a turn, an admission stands at a stage,
has left behind what belongs to it, and has not asked the backend. -/
theorem leaves_of_history (hn : (start.store.analyses.map Analysis.rid).Nodup)
    (hi : start.workers[i]? = some (.begin r (.analyse url))) {t : List Event}
    (h : History r w start t s) (halone : ∀ x ∈ t, x.place = i) :
    ∃ (stage : AdmissionStage) (launched : _),
      s.workers[i]? = some ⟨.analyse url, stage.task url⟩ ∧
      stage.Leaves url start.store s.store launched ∧ s.launched = start.launched ++ launched ∧
      s.units = start.units ∧ ∀ x ∈ t, ∀ c, x.call ≠ .backend c := by
  induction h with
  | start => exact ⟨.enter, [], hi, .enter, (List.append_nil _).symm, rfl, by simp⟩
  | @request t s e _ he ih =>
    obtain ⟨stage, launched, hworker, hl, hlaunched, hunits, hcalls⟩ := ih halone
    refine ⟨stage, launched, ?_, hl, (launched_begin he).trans hlaunched, hunits, hcalls⟩
    rw [begin, List.getElem?_append_left (List.getElem?_eq_some_iff.mp hworker).1, hworker]
  | @turn t s s' j q answer _ hturn ih =>
    obtain ⟨stage, launched, hworker, hl, hlaunched, hunits, hcalls⟩ :=
      ih fun x hx => halone x (List.mem_append_left _ hx)
    obtain rfl : j = i := halone ⟨j, q, answer⟩ (by simp)
    obtain ⟨stage', admitted, s₁, hstep, ha, hworker', hlaunched', hstore, hunits'⟩ :=
      hturn.admission hworker
    refine ⟨stage', launched ++ AdmissionStage.launchedFor admitted, hworker', ?_, ?_, ?_, ?_⟩
    · rw [hstore]
      cases ha with
      | store ha => exact hl.step hn hstep ha
      | backend ha => cases hstep
      | gate hg =>
        cases hstep
        generalize s.store = m at hl
        cases hl
        exact .findRepository
    · rw [hlaunched', hlaunched, List.append_assoc]
    · rw [hunits', ← hunits]
      cases ha with
      | store | gate => rfl
      | backend ha => cases hstep
    · intro x hx
      rcases List.mem_append.mp hx with hx | hx
      · exact hcalls x hx
      · rw [List.mem_singleton.mp hx]
        rintro c rfl
        cases hstep

end Crowd

/-- A stage whose task is done is the end. -/
theorem AdmissionStage.eq_ended {stage : AdmissionStage} {result : Except ServiceError Uuid}
    (h : stage.task url = .done result) : stage = ended result := by
  cases stage with
  | ended result' => exact congrArg ended (by injection h)
  | _ => cases h

/-- **A refused admission leaves no trace.**  Let an admission begin when no two stored analyses have
one identifier, and let nobody else take a turn before it ends, whichever calls to the store fail.
Then no unit is created and the backend is not asked, repositories and tests are as they were, and

* if it is refused, no analysis has been added and no run launched, and every reader is told what it
  would have been told before;
* if it is accepted, the analyses of the repository that were stored as running are all stored as
  their readers were told, and that is as ended; behind the others there is one new analysis, with
  the tests of the repository and, exactly if it lacks it, the registered detector before them; and
  one run has been launched for each test, in order. -/
theorem outcome_of_admission (hn : (start.store.analyses.map Analysis.rid).Nodup)
    (hi : start.workers[i]? = some (.begin r (.analyse url))) {t : List Crowd.Event}
    (h : Crowd.History r w start t s) (halone : ∀ x ∈ t, x.place = i)
    {result : Except ServiceError Uuid}
    (hend : s.workers[i]? = some ⟨.analyse url, .done result⟩) :
    (∀ x ∈ t, ∀ c, x.call ≠ .backend c) ∧ s.units = start.units ∧
      s.store.repositories = start.store.repositories ∧
      s.store.securityTests = start.store.securityTests ∧
      match result with
      | .error _ =>
        s.store.analyses.map Analysis.rid = start.store.analyses.map Analysis.rid ∧
          s.launched = start.launched ∧ ∀ rid, s.told? rid = start.told? rid
      | .ok rid => ∃ repository tests now,
        start.store.repositories.find? (·.url == url) = some repository ∧
          tests =
            (if repository.languages = [] ∧
                SecurityTest.detectorName ∉ repository.securityTests.map (·.name) then
              (start.store.securityTests.find? (·.name == SecurityTest.detectorName)).toList
            else []) ++ repository.securityTests ∧
          s.store.analyses =
            (start.store.analyses.map fun a =>
              if a.url = url ∧ a.status = .running then a.snapshot else a) ++
              [.admitted rid url tests now] ∧
          rid ∉ start.store.analyses.map Analysis.rid ∧
          (∀ a ∈ start.store.analyses, a.url = url → a.status = .running →
            a.snapshot.status = .finished) ∧
          s.launched = start.launched ++ tests.map fun test => (⟨rid, url⟩, test) := by
  obtain ⟨stage, launched, hworker, hl, hlaunched, hunits, hcalls⟩ :=
    Crowd.leaves_of_history hn hi h halone
  obtain ⟨-, htask⟩ := Worker.mk.inj (Option.some.inj (hworker.symm.trans hend))
  obtain rfl := AdmissionStage.eq_ended (eq_of_heq htask)
  generalize hm : s.store = m at hl
  cases hl with
  | @refused ended hs he e =>
    refine ⟨hcalls, hunits, rfl, rfl, Memory.map_rid_withEnds, ?_, fun rid => ?_⟩
    · rw [hlaunched, List.append_nil]
    · rw [Crowd.told?, hm]
      exact Memory.told_withEnds (fun a ha =>
        ⟨(Memory.mem_running.mp (hs.subset ha)).2.2, he a ha⟩) rid
  | @accepted repository rid hr he hnew now =>
    refine ⟨hcalls, hunits, rfl, rfl, repository, _, now, hr, testsFor_eq, ?_, hnew, ?_,
      hlaunched⟩
    · exact congrArg (· ++ _) Memory.analyses_withEnds_running
    · intro a ha hurl hrunning
      rw [Analysis.status_snapshot, Analysis.aggregate_of_running hrunning,
        if_pos (he a (Memory.mem_running.mpr ⟨ha, hurl, hrunning⟩))]

/-! ### A sample -/

/-- A store in which one analysis of the repository is complete and another one is not, both stored
as running. -/
def Script.contestedStore : Memory :=
  { sampleStore with
    analyses := [.admitted .zero sampleRepository.url [] sample.now,
      .admitted (.ofNat 1) sampleRepository.url [sampleTest] sample.now] }

/-- In the sample an admission is refused once it has stored the end of an analysis, and readers are
told the same of all analyses. -/
theorem outcome_of_admission_sample : ∃ s t,
    Crowd.follow Script.sampleRunner (Script.sample.schedule (List.replicate 4 (.turn 0)))
        ((Crowd.idle Script.contestedStore).begin Script.sampleRunner
          (.analyse Script.sampleRepository.url)) = some (s, t) ∧
      s.workers[0]? = some ⟨.analyse Script.sampleRepository.url,
        .done (.error (alreadyRunning (.ofNat 1) Script.sampleRepository.url))⟩ ∧
      s.store.analyses.map (·.status) = [.finished, .running] ∧
      ∀ rid, s.told? rid = (Crowd.idle Script.contestedStore).told? rid := by
  obtain ⟨s, t, hs, hend, hstored, hplaces⟩ : ∃ s t,
      Crowd.follow Script.sampleRunner (Script.sample.schedule (List.replicate 4 (.turn 0)))
          ((Crowd.idle Script.contestedStore).begin Script.sampleRunner
            (.analyse Script.sampleRepository.url)) = some (s, t) ∧
        s.workers[0]? = some ⟨.analyse Script.sampleRepository.url,
          .done (.error (alreadyRunning (.ofNat 1) Script.sampleRepository.url))⟩ ∧
        s.store.analyses.map (·.status) = [.finished, .running] ∧
        t.map (·.place) = List.replicate 4 0 := ⟨_, _, rfl, rfl, rfl, rfl⟩
  have hhist := Crowd.history_of_follow (w := .arbitrary) .start hs
    (fun _ => Script.isAllowedBy_of_mem_schedule)
    (Surroundings.allow_of_forall (fun _ _ _ => True.intro) t _)
  have halone : ∀ x ∈ t, x.place = 0 := fun x hx =>
    List.eq_of_mem_replicate (hplaces ▸ List.mem_map_of_mem hx)
  exact ⟨s, t, hs, hend, hstored,
    (outcome_of_admission (by decide) rfl hhist halone hend).2.2.2.2.2.2⟩

end Service
end ScanService
