import ScanService.Proofs.Stages.Plain
import ScanService.Proofs.Stages.Run

/-!
# The entry of a run

What matters of a run to others is its job entry.  Seen from there the chart of a run is short: the
run asks for an entry once, it asks for changes of that entry, a detector that has passed asks for
more tests, and nothing else that it does concerns the analysis (`RunStage.Change`).

## What is here

* `RunStage.isEnded_iff` — a run has ended exactly if it takes its job to be terminal.
* `RunStage.Step.change` — **each step of the chart is one of these changes.**
-/

namespace ScanService
namespace Service
namespace RunStage

open Execution (UnitContext)
open Store (JobPatch)

variable {r : Runner} {ctx : UnitContext} {test : SecurityTest}

/-- The job of a run is a job of its test. -/
theorem securityTest_of_entry? {st : RunStage} {job : Job} (h : st.entry? r test = some job) :
    job.securityTest = test := by
  cases st <;> cases h <;> first | rfl | exact securityTest_knownJob _ _ _

/-- **A run has ended exactly if it takes its job to be terminal.** -/
theorem isEnded_iff {st : RunStage} :
    st.isEnded = true ↔ ∃ job, st.entry? r test = some job ∧ job.status.isTerminal = true := by
  cases st with
  | ended id startedAt ending now =>
    obtain ⟨status, hstatus, hterminal⟩ := ending.exists_status_patch r test now
    simp [isEnded, entry?, JobPatch.apply, hstatus, hterminal]
  | noUnit reason now => simp [isEnded, entry?, Job.notCreated, JobStatus.isTerminal]
  | _ => simp [isEnded, entry?]

/-- A run that has not ended takes its job not to be terminal. -/
theorem isTerminal_of_entry? {st : RunStage} {job : Job} (h : st.entry? r test = some job)
    (hlive : st.isEnded = false) : job.status.isTerminal = false := by
  rw [← Bool.not_eq_true]
  intro hterminal
  rw [isEnded_iff.mpr ⟨job, h, hterminal⟩] at hlive
  cases hlive

/-- What a step of a run is about: the stage, the question and its answer, the next stage and the
tests that are launched before it. -/
inductive Change (r : Runner) (ctx : UnitContext) (test : SecurityTest) :
    RunStage → (c : Call) → c.Answer → RunStage → List SecurityTest → Prop where
  /-- It has nothing to do with the analysis. -/
  | aside {st st' : RunStage} {c : Call} {answer : c.Answer}
    (hc : ∀ q, c = .store q → q.sparesAnalyses) (h : st'.entry? r test = st.entry? r test) :
    Change r ctx test st c answer st' []
  /-- It asks for an entry, which is terminal if there is no unit. -/
  | record {st st' : RunStage} {job : Job} (answer : Except ServiceError Unit)
    (hfresh : job.executionId ≠ none → job.status = .created) (h : st.entry? r test = none)
    (h' : st'.entry? r test = some job) :
    Change r ctx test st (.store (.pushJob (.rid ctx.rid) job)) answer st' []
  /-- It asks for a change of its entry. -/
  | change {st st' : RunStage} {job : Job} {id : String} {p : JobPatch}
    (answer : Except ServiceError Unit) (hid : job.executionId = some id)
    (h : st.entry? r test = some job) (h' : st'.entry? r test = some (p.apply job)) :
    Change r ctx test st (.store (.updateJob (.job ctx.rid id) p)) answer st' []
  /-- It asks for more tests, and launches them once they are recorded. -/
  | follow {st st' : RunStage} {tests launched : List SecurityTest}
    {answer : Except ServiceError Unit} (h : st'.entry? r test = st.entry? r test)
    (hl : launched = if answer.isOk then tests else []) :
    Change r ctx test st (.store (.updateAnalysis (.rid ctx.rid) { append := tests })) answer st'
      launched

/-- **Each step of the chart is one of these changes.** -/
theorem Step.change {known : List SecurityTest} {st st' : RunStage} {c : Call} {answer : c.Answer}
    {tests : List SecurityTest} (h : st.Step r ctx test known c answer st' tests) :
    Change r ctx test st c answer st' tests := by
  cases h with
  | image | unitCreated | unitRefused | started | startFailed | awaited | timedOut | waitFailed
  | detected | read | readFailed => exact .aside (fun _ h => nomatch h) rfl
  | lookedUp | selectionRecorded | scheduledRead | nothingToFollow =>
    exact .aside (fun q h => by cases h; exact True.intro) rfl
  | failureRecorded => exact .record _ (fun h => absurd rfl h) rfl rfl
  | unitRecorded => exact .record _ (fun _ => rfl) rfl rfl
  | startRecorded => exact .change _ rfl rfl rfl
  | endRecorded => exact .change _ (executionId_knownJob _ _ _) rfl rfl
  | testsRecorded | testsRefused => exact .follow rfl rfl

end RunStage
end Service
end ScanService
