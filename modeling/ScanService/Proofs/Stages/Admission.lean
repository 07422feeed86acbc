import ScanService.Proofs.Turns

/-!
# The stages of an admission

The counterpart of `RunStage` for the errand that starts an analysis: where it stands between two
turns, and the chart of its steps.  From `findRepository` to its end an admission is behind the
gate.

## What is here

* `AdmissionStage.Proceeds` — where an admission goes on to once it has dealt with some of the
  running analyses it has found.
* `AdmissionStage.step_of_settles` — **what an admission does between two turns is a step of the
  chart**, and it leaves the gate exactly when it ends.
-/

namespace ScanService
namespace Service

open Execution (UnitContext)

/-- Whether the detector is to be put in front of the tests of a repository. -/
def lacksDetector (repository : Repository) : Bool :=
  repository.languages.isEmpty
    && !repository.securityTests.any (·.name == SecurityTest.detectorName)

/-- Where an admission stands: before which question, or at its end. -/
inductive AdmissionStage where
  /-- Waits at the gate. -/
  | enter
  /-- Looks for the repository. -/
  | findRepository
  /-- Looks for the running analyses of the repository. -/
  | findRunning (repository : Repository)
  /-- Stores an analysis as ended, with others still to be dealt with. -/
  | finalize (repository : Repository) (a : Analysis) (rest : List Analysis)
  /-- Looks for the detector. -/
  | findDetector (repository : Repository)
  /-- Inserts the new analysis. -/
  | insert (repository : Repository) (tests : List SecurityTest) (rid : Uuid) (now : Timestamp)
  /-- Has ended. -/
  | ended (result : Except ServiceError Uuid)

namespace AdmissionStage

/-- What is left to do once the tests are known. -/
def insertion (repository : Repository) (tests : List SecurityTest) : Action Uuid := do
  let rid ← Action.ofTask Task.drawRid
  let now ← Action.ofTask Task.readClock
  let _ ← Action.store (.insertAnalysis (.admitted rid repository.url tests now))
  Action.ofTask (Program.forEach (Task.launch ⟨rid, repository.url⟩) tests)
  return rid

/-- What is left to do when some running analyses are still to be dealt with. -/
def remainder (url : String) (repository : Repository) (running : List Analysis) : Action Uuid := do
  finalizeEnded url running
  let tests ← testsToRun repository
  insertion repository tests

/-- Leaves the gate with a result. -/
def leave (result : Except ServiceError Uuid) : Task (Except ServiceError Uuid) :=
  .ask (I := activity) .leaveGate fun _ => .done result

/-- What is left to do. -/
def task (url : String) : AdmissionStage → Task (Except ServiceError Uuid)
  | enter => (admitAnalysis url).run
  | findRepository => (admitAlone url).run.bind leave
  | findRunning repository =>
    Program.bind (do
      let running : List Analysis ← Action.store (.findAnalyses (.runningFor url))
      remainder url repository running : Action Uuid).run leave
  | finalize repository a rest =>
    Program.bind (do
      let _ ← Action.store (.updateAnalysis (.rid a.rid) (finalization a))
      remainder url repository rest : Action Uuid).run leave
  | findDetector repository =>
    Program.bind (do
      let detector : Option SecurityTest ←
        Action.store (.findSecurityTest (.name SecurityTest.detectorName))
      insertion repository (detector.toList ++ repository.securityTests) : Action Uuid).run leave
  | insert repository tests rid now =>
    Program.bind (do
      let _ ← Action.store (.insertAnalysis (.admitted rid repository.url tests now))
      Action.ofTask (Program.forEach (Task.launch ⟨rid, repository.url⟩) tests)
      return rid : Action Uuid).run leave
  | ended result => .done result

/-- Whether the admission is behind the gate. -/
def holdsGate : AdmissionStage → Bool
  | enter | ended _ => false
  | _ => true

/-- Where an admission goes on to when some running analyses are still to be dealt with. -/
inductive Proceeds (url : String) (repository : Repository) :
    List Analysis → AdmissionStage → Prop where
  | conflict {a : Analysis} {rest : List Analysis} (h : a.aggregate.status = .running) :
    Proceeds url repository (a :: rest) (ended (.error (alreadyRunning a.rid url)))
  | finalize {a : Analysis} {rest : List Analysis} (h : a.aggregate.status ≠ .running) :
    Proceeds url repository (a :: rest) (finalize repository a rest)
  | detect (h : lacksDetector repository = true) :
    Proceeds url repository [] (findDetector repository)
  | insert (h : lacksDetector repository = false) (rid : Uuid) (now : Timestamp) :
    Proceeds url repository [] (insert repository repository.securityTests rid now)

/-- The chart of an admission: the stage, the question and its answer, the next stage and the
analysis that has been admitted before it. -/
inductive Step (url : String) :
    AdmissionStage → (c : Call) → c.Answer → AdmissionStage → Option Analysis → Prop where
  | entered : Step url enter .enterGate () findRepository none
  | failed {st : AdmissionStage} {c : Store.Call} (h : st.holdsGate = true) (e : ServiceError) :
    Step url st (.store c) (.error e) (ended (.error e)) none
  | unknown : Step url findRepository (.store (.findRepository (.url url))) (.ok none)
      (ended (.error (unknownRepository url))) none
  | found (repository : Repository) :
    Step url findRepository (.store (.findRepository (.url url))) (.ok (some repository))
      (findRunning repository) none
  | foundRunning {repository : Repository} {running : List Analysis} {st : AdmissionStage}
    (h : Proceeds url repository running st) :
    Step url (findRunning repository) (.store (.findAnalyses (.runningFor url))) (.ok running) st
      none
  | finalized {repository : Repository} {a : Analysis} {rest : List Analysis} {st : AdmissionStage}
    (h : Proceeds url repository rest st) :
    Step url (finalize repository a rest) (.store (.updateAnalysis (.rid a.rid) (finalization a)))
      (.ok ()) st none
  | detectorFound {repository : Repository} (detector : Option SecurityTest) (rid : Uuid)
    (now : Timestamp) :
    Step url (findDetector repository)
      (.store (.findSecurityTest (.name SecurityTest.detectorName))) (.ok detector)
      (insert repository (detector.toList ++ repository.securityTests) rid now) none
  | inserted {repository : Repository} {tests : List SecurityTest} {rid : Uuid} {now : Timestamp} :
    Step url (insert repository tests rid now)
      (.store (.insertAnalysis (.admitted rid repository.url tests now))) (.ok ())
      (ended (.ok rid)) (some (.admitted rid repository.url tests now))

/-- What a step has launched, and whether the gate is left. -/
def settled (r : Runner) (st : AdmissionStage) (admitted : Option Analysis) (s : Crowd) : Crowd :=
  let s' := admitted.elim s fun a => s.launchAll r ⟨a.rid, a.url⟩ a.securityTests
  if st.holdsGate then s' else { s' with gateTaken := false }

variable {r : Runner} {url : String} {s s' : Crowd} {t : Task (Except ServiceError Uuid)}

theorem settles_leave_iff {result : Except ServiceError Uuid} :
    Crowd.Settles r (leave result) s t s' ↔ t = .done result ∧ s' = { s with gateTaken := false } :=
  Crowd.settles_leaveGate_iff.trans Crowd.settles_done_iff

theorem settles_insertion_iff (url : String) {repository : Repository} {tests : List SecurityTest} :
    Crowd.Settles r ((insertion repository tests).run.bind leave) s t s' ↔
      ∃ rid now, t = (insert repository tests rid now).task url ∧ s' = s := by
  refine Crowd.settles_drawRid_iff.trans (exists_congr fun rid => ?_)
  refine Crowd.settles_readClock_iff.trans (exists_congr fun now => ?_)
  exact Crowd.settles_store_iff

/-! ### What is left to do, by the analyses still to be dealt with -/

theorem remainder_nil_of_lacksDetector {repository : Repository}
    (h : lacksDetector repository = true) :
    (remainder url repository []).run.bind leave = (findDetector repository).task url := by
  rw [lacksDetector] at h
  simp only [remainder, finalizeEnded, testsToRun, h, if_true, pure_bind, bind_assoc]
  rfl

theorem remainder_nil {repository : Repository} (h : lacksDetector repository = false) :
    (remainder url repository []).run.bind leave =
      (insertion repository repository.securityTests).run.bind leave := by
  rw [lacksDetector] at h
  simp only [remainder, finalizeEnded, testsToRun, h, Bool.false_eq_true, if_false]
  rfl

theorem remainder_cons_of_running {repository : Repository} {a : Analysis} {rest : List Analysis}
    (h : a.aggregate.status = .running) :
    (remainder url repository (a :: rest)).run.bind leave =
      leave (.error (alreadyRunning a.rid url)) := by
  simp only [remainder, finalizeEnded, h, if_true]
  rfl

theorem remainder_cons {repository : Repository} {a : Analysis} {rest : List Analysis}
    (h : a.aggregate.status ≠ .running) :
    (remainder url repository (a :: rest)).run.bind leave =
      (finalize repository a rest).task url := by
  simp only [remainder, finalizeEnded, h, if_false, bind_assoc]
  rfl

theorem proceeds_of_settles {repository : Repository} {running : List Analysis}
    (ht : Crowd.Settles r ((remainder url repository running).run.bind leave) s t s') :
    ∃ st, Proceeds url repository running st ∧ t = st.task url ∧ s' = st.settled r none s := by
  cases running with
  | nil =>
    by_cases h : lacksDetector repository = true
    · rw [remainder_nil_of_lacksDetector h] at ht
      obtain ⟨rfl, rfl⟩ := Crowd.settles_store_iff.mp ht
      exact ⟨_, .detect h, rfl, rfl⟩
    · rw [Bool.not_eq_true] at h
      rw [remainder_nil h] at ht
      obtain ⟨rid, now, rfl, rfl⟩ := (settles_insertion_iff url).mp ht
      exact ⟨_, .insert h rid now, rfl, rfl⟩
  | cons a rest =>
    by_cases h : a.aggregate.status = .running
    · rw [remainder_cons_of_running h] at ht
      obtain ⟨rfl, rfl⟩ := settles_leave_iff.mp ht
      exact ⟨_, .conflict h, rfl, rfl⟩
    · rw [remainder_cons h] at ht
      obtain ⟨rfl, rfl⟩ := Crowd.settles_store_iff.mp ht
      exact ⟨_, .finalize h, rfl, rfl⟩

/-- After its launches an admission leaves the gate. -/
theorem launches_bind_leave (p : Task Unit) (rid : Uuid) :
    (do Action.ofTask p; return rid : Action Uuid).run.bind leave =
      p.bind fun _ => leave (.ok rid) := by
  induction p with
  | done a => rfl
  | ask c next ih =>
    exact congrArg (Program.ask (I := activity) c) (funext fun answer => ih answer)

theorem step_of_settles {st : AdmissionStage} {c : Call}
    {next : c.Answer → Task (Except ServiceError Uuid)} {answer : c.Answer}
    (hst : st.task url = .ask (I := activity) c next) (ht : Crowd.Settles r (next answer) s t s') :
    ∃ st' admitted, st.Step url c answer st' admitted ∧ t = st'.task url ∧
      s' = st'.settled r admitted s := by
  cases st with
  | enter =>
    cases hst
    obtain ⟨rfl, rfl⟩ := Crowd.settles_store_iff.mp ht
    exact ⟨_, _, .entered, rfl, rfl⟩
  | findRepository =>
    cases hst
    cases answer with
    | ok found =>
      cases found with
      | none =>
        obtain ⟨rfl, rfl⟩ := settles_leave_iff.mp ht
        exact ⟨_, _, .unknown, rfl, rfl⟩
      | some repository =>
        obtain ⟨rfl, rfl⟩ := Crowd.settles_store_iff.mp ht
        exact ⟨_, _, .found repository, rfl, rfl⟩
    | error e =>
      obtain ⟨rfl, rfl⟩ := settles_leave_iff.mp ht
      exact ⟨_, _, .failed rfl e, rfl, rfl⟩
  | findRunning repository =>
    cases hst
    cases answer with
    | ok running =>
      obtain ⟨st', h, rfl, rfl⟩ := proceeds_of_settles ht
      exact ⟨_, _, .foundRunning h, rfl, rfl⟩
    | error e =>
      obtain ⟨rfl, rfl⟩ := settles_leave_iff.mp ht
      exact ⟨_, _, .failed rfl e, rfl, rfl⟩
  | finalize repository a rest =>
    cases hst
    cases answer with
    | ok u =>
      obtain ⟨st', h, rfl, rfl⟩ := proceeds_of_settles ht
      exact ⟨_, _, .finalized h, rfl, rfl⟩
    | error e =>
      obtain ⟨rfl, rfl⟩ := settles_leave_iff.mp ht
      exact ⟨_, _, .failed rfl e, rfl, rfl⟩
  | findDetector repository =>
    cases hst
    cases answer with
    | ok detector =>
      obtain ⟨rid, now, rfl, rfl⟩ := (settles_insertion_iff url).mp ht
      exact ⟨_, _, .detectorFound detector rid now, rfl, rfl⟩
    | error e =>
      obtain ⟨rfl, rfl⟩ := settles_leave_iff.mp ht
      exact ⟨_, _, .failed rfl e, rfl, rfl⟩
  | insert repository tests rid now =>
    cases hst
    cases answer with
    | ok u =>
      have ht : Crowd.Settles r ((do
          Action.ofTask (Program.forEach (Task.launch ⟨rid, repository.url⟩) tests)
          return rid : Action Uuid).run.bind leave) s t s' := ht
      rw [launches_bind_leave] at ht
      obtain ⟨rfl, rfl⟩ := settles_leave_iff.mp (Crowd.settles_launches_iff.mp ht)
      exact ⟨_, _, .inserted, rfl, rfl⟩
    | error e =>
      obtain ⟨rfl, rfl⟩ := settles_leave_iff.mp ht
      exact ⟨_, _, .failed rfl e, rfl, rfl⟩
  | ended result => cases hst

end AdmissionStage
end Service
end ScanService
