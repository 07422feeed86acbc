import ScanService.Proofs.Jobs.Course
import ScanService.Proofs.Ledger.Entries
import ScanService.Proofs.Schedule

/-!
# The record of a run

What a run knows of its fate at any stage is what the backend has told it last, so at its end its job
says what its conversation with the backend comes to.  With a store that does not fail of itself, and
a unit that nobody else has, its entry is its job.  So the record of a run is a function of its own
conversation, whatever the other tasks have done meanwhile to entries of this analysis or others.

## What is here

* `RunStage.Step.fate?` — a step goes by what the backend has said.
* `Staging.findings_of_ended` — the job of a run that has ended says what the course comes to.
* `run_records_what_it_is_told` — **the order of a run's calls, and the one entry that it leaves.**
-/

namespace ScanService

/-- A run is waited for at least a second. -/
theorem SecurityTest.one_second_le_timeout (test : SecurityTest) :
    Duration.ofSeconds 1 ≤ test.timeout := by
  have hone : 1 ≤ (max test.timeoutSeconds.toInt 1).toNat := by omega
  exact Nat.mul_le_mul_right 1000000000 hone

namespace Service

open Execution (UnitContext)

/-- A store that does not fail of itself is a reliable one. -/
theorem Surroundings.reliable_eq {w : Surroundings} (h : ∀ c e, ¬w.failure c e) : w.reliable = w := by
  have hfailure : w.failure = fun _ _ => False := funext fun c => funext fun e => eq_false (h c e)
  rw [reliable, ← hfailure]

/-! ## What a run knows of its fate -/

variable {r : Runner} {w : Surroundings} {ctx : UnitContext} {test : SecurityTest}
  {m : Store.Memory} {errands : List Errand} {t : List Crowd.Event}

/-- What a report comes to, by whether there is a reader for it. -/
theorem Fate.findings_reported (r : Runner) (test : SecurityTest) (report : String) :
    (∀ e, r.readers.dispatch test.name report = .ok e →
        (Fate.reported report).findings r test =
          ⟨test, .finished, e.verdict, e.output, e.issues⟩) ∧
      (r.readers.get? test.name = none → (Fate.reported report).findings r test =
        ⟨test, .finished, some .error, (ServiceError.unknownTool test.name).message, []⟩) := by
  refine ⟨fun e he => ?_, fun hnone => ?_⟩
  · simp only [Fate.findings, Runner.evaluate, he]
  · simp only [Fate.findings, Runner.evaluate, Report.Registry.dispatch, hnone]

/-- A step goes by what the backend has said. -/
theorem RunStage.Step.fate? {st st' : RunStage} {known : List SecurityTest} {q : Call}
    {answer : q.Answer} {tests : List SecurityTest}
    (h : st.Step r ctx test known q answer st' tests) {u : List (Program.Exchange activity)}
    (hu : fateOf? (toBackend u) = st.fate?) :
    fateOf? (toBackend (u ++ [⟨q, answer⟩])) = st'.fate? := by
  rw [toBackend_append]
  cases h with
  | @image _ _ _ _ c answer hc =>
    cases c with
    | imageIsLoaded | pullImage => exact fateOf?_append_singleton _ _
    | _ => exact hc.elim
  | waitFailed he => exact (fateOf?_append_singleton _ _).trans (fateTold?_wait he)
  | unitCreated | unitRefused | started | startFailed | awaited | timedOut | detected | read
  | readFailed => exact fateOf?_append_singleton _ _
  | failureRecorded | unitRecorded | startRecorded | lookedUp | selectionRecorded | scheduledRead
  | nothingToFollow | testsRecorded | testsRefused | endRecorded =>
    -- what is said to the store is not said to the backend
    exact (congrArg fateOf? (List.append_nil _)).trans hu

namespace Staging

variable {c : Staging} {i : Nat} {stage : RunStage}

/-- A run knows what the backend has told it. -/
theorem fate?_of_history (h : History r w (gathered r m errands) t c)
    (hi : c.stages[i]? = some (.run ctx test stage)) :
    fateOf? (toBackend (Crowd.said i t)) = stage.fate? :=
  run_of_turns (P := fun u _ _ stage => fateOf? (toBackend u) = stage.fate?) (fun _ _ => rfl)
    (fun hstep hu => hstep.fate? hu) h hi

/-- The job of a run that has ended says what its course comes to. -/
theorem findings_of_ended (h : History r w (gathered r m errands) t c)
    (hi : c.stages[i]? = some (.run ctx test stage)) (hended : stage.isEnded = true) {fate : Fate}
    (hfate : Course r ctx test (toBackend (Crowd.said i t)) fate) :
    ∃ job, (c.account r ctx.rid).known i = some job ∧
      stage.unit? = job.executionId ∧ job.findings = fate.findings r test := by
  obtain ⟨job, hjob, -⟩ : ∃ job, stage.entry? r test = some job ∧ job.status.isTerminal = true :=
    RunStage.isEnded_iff.mp hended
  obtain ⟨fate', hknown, hfindings⟩ := RunStage.findings_of_entry? hjob hended
  have hsame : fate' = fate :=
    Option.some.inj ((hknown.symm.trans (fate?_of_history h hi).symm).trans hfate.fateOf?_eq)
  exact ⟨job, (known_of_run hi).trans hjob, RunStage.unit?_of_entry? hjob, hsame ▸ hfindings⟩

/-- **With a reliable store and a unit of its own, a run that has ended leaves one entry**, and the
entry says what its course comes to. -/
theorem exists_entry_of_ended (hs : (gathered r m errands).Founded r)
    (h : History r w.reliable (gathered r m errands) t c)
    (hi : c.stages[i]? = some (.run ctx test stage)) (hended : stage.isEnded = true) {fate : Fate}
    (hfate : Course r ctx test (toBackend (Crowd.said i t)) fate)
    (hunit : ∀ x ∈ t, x.place = i → ∀ id, x.call.created? x.answer = some (ctx.rid, id) →
      Crowd.HasToItself m t ctx.rid i id) :
    ∃ a ∈ c.store.analyses, a.rid = ctx.rid ∧ ∃ old new, a.jobs = old ++ new ∧
      old.map Job.executionId = (m.entriesOf ctx.rid).map Job.executionId ∧
      (Crowd.recorders t ctx.rid).count i = 1 ∧
      List.Forall₂ (fun i' j => i' = i → j.findings = fate.findings r test)
        (Crowd.recorders t ctx.rid) new := by
  obtain ⟨job, hknown, hid, hfindings⟩ := findings_of_ended h hi hended hfate
  obtain ⟨a, ha, hrid⟩ := (hs.history h).exists_of_run hi
  have hextends : (c.account r ctx.rid).Extends job.executionId (m.entriesOf ctx.rid) a :=
    extends_history hs h (fun id he =>
      hunit _ (created_of_unit? h hi (hid.trans he)) rfl id rfl) a ha hrid
  obtain ⟨old, new, hjobs, hold, htracks⟩ := hextends.entries
  have howners : (c.account r ctx.rid).owners = Crowd.recorders t ctx.rid :=
    owners_account_of_start rfl h
  refine ⟨a, ha, hrid, old, new, hjobs, hold, ?_, ?_⟩
  · rw [← howners]
    exact List.count_eq_one_of_mem hextends.nodup (hextends.owned i job hknown)
  · rw [← howners]
    refine List.Forall₂.imp (fun i' j ⟨job', hknown', hshows⟩ he => ?_) htracks
    subst he
    obtain rfl : job' = job := Option.some.inj (hknown'.symm.trans hknown)
    rw [hshows.2 rfl, hfindings]

end Staging

/-! ## Crowds -/

/-- **What a run records is a function of what the backend has told it.**  Tasks begin around any
store, and take their turns in any order with any others that come; the backend may answer anything.
Then a run among them

* keeps to the course in its calls to the backend, and has come to the end of it when it has ended;
  what it comes to there is a function of the conversation, a report being read by the reader for the
  test if there is one; and it is waited for at least a second;
* if no call to the store fails of itself and nobody else has its unit: leaves exactly one entry when
  it has ended, behind those that its analysis had at the beginning and among those that others have
  recorded, and this entry says what its course comes to. -/
theorem run_records_what_it_is_told {s : Crowd}
    (h : Crowd.History r w (.gathered r m errands) t s) {i : Nat} {x : Worker}
    (hi : s.workers[i]? = some x) (hx : x.errand = .run ctx test) :
    ((∃ rest fate, Course r ctx test (toBackend (Crowd.said i t) ++ rest) fate ∧
        (x.isLive = false → rest = [])) ∧
      (∀ l fate fate', Course r ctx test l fate → Course r ctx test l fate' → fate = fate') ∧
      (∀ report,
        (∀ e, r.readers.dispatch test.name report = .ok e →
          (Fate.reported report).findings r test =
            ⟨test, .finished, e.verdict, e.output, e.issues⟩) ∧
        (r.readers.get? test.name = none → (Fate.reported report).findings r test =
          ⟨test, .finished, some .error, (ServiceError.unknownTool test.name).message, []⟩)) ∧
      Duration.ofSeconds 1 ≤ test.timeout) ∧
    ((∀ c e, ¬w.failure c e) → m.Hosts errands →
      (∀ y ∈ t, y.place = i → ∀ id, y.call.created? y.answer = some (ctx.rid, id) →
        Crowd.HasToItself m t ctx.rid i id) →
      x.isLive = false →
      ∃ fate, Course r ctx test (toBackend (Crowd.said i t)) fate ∧
        ∃ a ∈ s.store.analyses, a.rid = ctx.rid ∧ ∃ old new, a.jobs = old ++ new ∧
          old.map Job.executionId = (m.entriesOf ctx.rid).map Job.executionId ∧
          (Crowd.recorders t ctx.rid).count i = 1 ∧
          List.Forall₂ (fun i' j => i' = i → j.findings = fate.findings r test)
            (Crowd.recorders t ctx.rid) new) := by
  have hcourse := exists_course_of_history h hi hx
  refine ⟨⟨hcourse, fun _ _ _ => Course.unique, Fate.findings_reported r test,
    test.one_second_le_timeout⟩, fun hreliable hm hunit hended => ?_⟩
  obtain ⟨rest, fate, hfate, hrest⟩ := hcourse
  rw [hrest hended, List.append_nil] at hfate
  rw [← Staging.crowd_gathered, ← Surroundings.reliable_eq hreliable] at h
  obtain ⟨c, hhist, rfl⟩ := Staging.exists_staging h
  obtain ⟨stage, hstage, rfl⟩ := Staging.getElem?_workers_crowd.mp hi
  obtain ⟨st, rfl⟩ := Stage.eq_run_of_errand hx
  rw [Stage.isLive_worker_run, Bool.not_eq_false'] at hended
  exact ⟨fate, hfate, Staging.exists_entry_of_ended (Staging.founded_gathered hm) hhist hstage hended
    hfate hunit⟩

namespace Script

/-- Units are named after their images, and the sample test's does not end in time. -/
def slow : Script :=
  { sample with
    backend := fun _ c =>
      match c with
      | .imageIsLoaded _ => .ok true
      | .pullImage _ | .startUnit _ | .ping => .ok ()
      | .createUnit _ image _ => .ok image
      | .waitUnit id limit => if id = sampleTest.imageRef then .error (.timeout limit) else .ok ()
      | .readOutput _ => .ok "python" }

/-- A store with an analysis that has an entry. -/
def startedStore : Store.Memory :=
  { sampleStore with
    analyses := [{ Analysis.admitted .zero sampleRepository.url [sampleDetector, sampleTest]
      sampleRepository.createdAt with jobs := [.created sampleDetector "old"] }] }

/-- Runs of the test and of the detector, which take turns. -/
def sampleRuns : List Errand :=
  [sampleTest, sampleDetector].map (.run ⟨.zero, sampleRepository.url⟩)

theorem hosts_sampleRuns : startedStore.Hosts sampleRuns where
  rids := by decide
  runs ctx test h := by
    obtain ⟨test', -, he⟩ := List.mem_map.mp h
    cases he
    exact List.mem_cons_self

end Script

/-- In the sample the detector's run reports, and the other one does not end in time; its entry says
so, behind the entry that was there. -/
theorem run_records_what_it_is_told_sample : ∃ s t,
    Crowd.follow Script.sampleRunner (Script.slow.schedule
        ((List.replicate 7 [.turn 0, .turn 1]).flatten ++ List.replicate 5 (.turn 1)))
      (.gathered Script.sampleRunner Script.startedStore Script.sampleRuns) = some (s, t) ∧
    ∃ a ∈ s.store.analyses, ∃ old j j', a.jobs = old ++ [j, j'] ∧ old.length = 1 ∧
      j.findings = ⟨Script.sampleTest, .finished, some .error, "wait timeout", []⟩ := by
  obtain ⟨s, t, x, hs, hx, herrand, hended, hunits, hrecorders, htold⟩ : ∃ s t x,
      Crowd.follow Script.sampleRunner (Script.slow.schedule
          ((List.replicate 7 [.turn 0, .turn 1]).flatten ++ List.replicate 5 (.turn 1)))
        (.gathered Script.sampleRunner Script.startedStore Script.sampleRuns) = some (s, t) ∧
      s.workers[0]? = some x ∧
      x.errand = .run ⟨.zero, Script.sampleRepository.url⟩ Script.sampleTest ∧ x.isLive = false ∧
      t.filterMap (fun y => (y.call.created? y.answer).map fun u => (y.place, u.2)) =
        [(0, "bandit:latest"), (1, "enry:latest")] ∧
      Crowd.recorders t .zero = [0, 1] ∧
      fateOf? (toBackend (Crowd.said 0 t)) = some .timedOut :=
    ⟨_, _, _, rfl, rfl, rfl, rfl, rfl, rfl, rfl⟩
  have hhist := Crowd.history_of_follow (w := Surroundings.arbitrary.reliable) .start hs
    (fun _ => Script.isAllowedBy_of_mem_schedule)
    (Surroundings.allow_of_forall (fun _ _ _ => True.intro) t _)
  have hunit : ∀ y ∈ t, ∀ id, y.call.created? y.answer = some (.zero, id) →
      (y.place, id) ∈ [(0, "bandit:latest"), (1, "enry:latest")] := by
    intro y hy id hid
    rw [← hunits]
    exact List.mem_filterMap.mpr ⟨y, hy, by rw [hid]; rfl⟩
  obtain ⟨fate, hfate, a, ha, -, old, new, hjobs, hold, -, hentries⟩ :=
    (run_records_what_it_is_told hhist hx herrand).2 (fun _ _ => id) Script.hosts_sampleRuns
      (fun y hy hplace id hid => by
        have hown : id = "bandit:latest" := by simpa [hplace] using hunit y hy id hid
        subst hown
        exact ⟨by decide, fun y' hy' hid' => by simpa using hunit y' hy' _ hid'⟩)
      hended
  obtain rfl : fate = .timedOut := Option.some.inj (hfate.fateOf?_eq.symm.trans htold)
  rw [List.nil_append, hrecorders] at hentries
  obtain ⟨j, _, hj, hrest, rfl⟩ := List.forall₂_cons_left_iff.mp hentries
  obtain ⟨j', _, -, hnil, rfl⟩ := List.forall₂_cons_left_iff.mp hrest
  rw [List.forall₂_nil_left_iff.mp hnil] at hjobs
  have hlength : old.length = 1 := by
    rw [← List.length_map Job.executionId, hold]
    rfl
  exact ⟨s, t, hs, a, ha, old, j, j', hjobs, hlength, hj rfl⟩

end Service
end ScanService
