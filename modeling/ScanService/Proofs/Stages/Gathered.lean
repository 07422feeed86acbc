import ScanService.Proofs.Conversations
import ScanService.Proofs.Stages.Staging

/-!
# Runs and what they have been told

A staging of tasks that are about to begin has all its runs at their first stage.  So what a run
knows at any time it knows from its own turns, and a fact about a stage and the exchanges that led to
it is shown of all runs in all such histories by one induction (`run_of_turns`).

## What is here

* `Staging.gathered` — the staging of tasks that are about to begin.
* `Turn.cases_run` — where the stage of a run comes from: the run has just taken a step, has stood
  there before, or has just begun.
* `run_of_turns` — **what the first stage says of no exchanges, and each step says of one more, is
  true of all runs and what they have been told.**
-/

namespace ScanService
namespace Service

open Execution (UnitContext)

namespace Staging

variable {r : Runner} {w : Surroundings} {c c' : Staging} {m : Store.Memory}
  {errands : List Errand} {t : List Crowd.Event} {i : Nat}

/-- A store and tasks that are about to begin. -/
def gathered (r : Runner) (m : Store.Memory) (errands : List Errand) : Staging :=
  ⟨m, false, [], errands.map (.begin r), []⟩

theorem crowd_gathered : (gathered r m errands).crowd r = .gathered r m errands := by
  simp [gathered, crowd, Crowd.gathered, Function.comp_def]

/-- Runs that are about to begin are at their first stage. -/
theorem eq_first_of_gathered {ctx : UnitContext} {test : SecurityTest} {stage : RunStage}
    (hi : (gathered r m errands).stages[i]? = some (.run ctx test stage)) :
    .run ctx test ∈ errands ∧ stage = .first r test := by
  rw [gathered, List.getElem?_map, Option.map_eq_some_iff] at hi
  obtain ⟨e, he, hstage⟩ := hi
  cases e <;> cases hstage
  exact ⟨List.mem_of_getElem? he, rfl⟩

/-- Whoever has a turn is there, and tasks stay. -/
theorem Turn.place_lt {q : Call} {answer : q.Answer} (h : Turn r w i q answer c c') :
    i < c.stages.length ∧ c.stages.length ≤ c'.stages.length := by
  have hgoOn : ∀ {old stage : Stage} {launched : List Errand}, c.stages[i]? = some old →
      i < c.stages.length ∧ c.stages.length ≤ (c.goOn r i stage launched).stages.length := by
    intro old stage launched hi
    refine ⟨(List.getElem?_eq_some_iff.mp hi).1, ?_⟩
    rw [goOn, List.length_append, List.length_set]
    exact Nat.le_add_right _ _
  cases h with
  | runStore hi | runBackend hi | enter hi | admission hi | status hi | plain hi => exact hgoOn hi

/-- Nobody had a turn who is not there. -/
theorem History.place_lt (h : History r w (gathered r m errands) t c) :
    ∀ x ∈ t, x.place < c.stages.length := by
  induction h with
  | start => exact fun x hx => (by cases hx)
  | request _ _ ih =>
    intro x hx
    rw [List.length_append]
    exact Nat.lt_of_lt_of_le (ih x hx) (Nat.le_add_right _ _)
  | turn _ hturn ih =>
    intro x hx
    obtain ⟨hlt, hle⟩ := hturn.place_lt
    rcases List.mem_append.mp hx with hx | hx
    · exact Nat.lt_of_lt_of_le (ih x hx) hle
    · rw [List.mem_singleton.mp hx]
      exact Nat.lt_of_lt_of_le hlt hle

/-- Where the stage of a run comes from. -/
theorem Turn.cases_run {q : Call} {answer : q.Answer} (h : Turn r w i q answer c c') {j : Nat}
    {ctx : UnitContext} {test : SecurityTest} {stage' : RunStage}
    (hj : c'.stages[j]? = some (.run ctx test stage')) :
    (j = i ∧ ∃ stage tests, c.stages[i]? = some (.run ctx test stage) ∧
        stage.Step r ctx test c.store.securityTests q answer stage' tests) ∨
      (j ≠ i ∧ c.stages[j]? = some (.run ctx test stage')) ∨
      (c.stages.length ≤ j ∧ stage' = .first r test) := by
  have hbegin : ∀ e : Errand, Stage.run ctx test stage' = .begin r e → stage' = .first r test := by
    intro e he
    cases e <;> cases he
    rfl
  cases h with
  | runStore hi ha h | runBackend hi ha h =>
    rcases stages_goOn_cases hj with ⟨rfl, hx⟩ | hj | ⟨hle, e, -, he⟩
    · cases hx
      exact .inl ⟨rfl, _, _, hi, h⟩
    · exact .inr (.inl hj)
    · exact .inr (.inr ⟨hle, hbegin e he⟩)
  | enter | admission | status | plain =>
    rcases stages_goOn_cases hj with ⟨-, hx⟩ | hj | ⟨hle, e, -, he⟩
    · cases hx
    · exact .inr (.inl hj)
    · exact .inr (.inr ⟨hle, hbegin e he⟩)

/-- **What is true of the first stage and no exchanges, and goes on being true with each step and
one exchange more, is true of all runs and what they have been told.** -/
theorem run_of_turns
    {P : List (Program.Exchange activity) → UnitContext → SecurityTest → RunStage → Prop}
    (hfirst : ∀ ctx test, P [] ctx test (.first r test))
    (hstep : ∀ {u : List (Program.Exchange activity)} {ctx : UnitContext} {test : SecurityTest}
      {st st' : RunStage} {known : List SecurityTest} {q : Call} {answer : q.Answer}
      {tests : List SecurityTest}, st.Step r ctx test known q answer st' tests →
        P u ctx test st → P (u ++ [⟨q, answer⟩]) ctx test st')
    (h : History r w (gathered r m errands) t c) {ctx : UnitContext} {test : SecurityTest}
    {stage : RunStage} (hi : c.stages[i]? = some (.run ctx test stage)) :
    P (Crowd.said i t) ctx test stage := by
  induction h generalizing i ctx test stage with
  | start =>
    rw [(eq_first_of_gathered hi).2]
    exact hfirst ctx test
  | request _ he ih => exact ih (run_of_request he hi)
  | @turn t c c' j q answer hhist hturn ih =>
    rcases hturn.cases_run hi with ⟨rfl, stage₀, tests, hj, h⟩ | ⟨hne, hi⟩ | ⟨hle, rfl⟩
    · rw [Crowd.said_concat_self]
      exact hstep h (ih hj)
    · rw [Crowd.said_concat_of_ne (Ne.symm hne)]
      exact ih hi
    · have hne : j ≠ i := Nat.ne_of_lt (Nat.lt_of_lt_of_le hturn.place_lt.1 hle)
      rw [Crowd.said_concat_of_ne hne, Crowd.said_eq_nil_of_le hhist.place_lt hle]
      exact hfirst ctx test

/-- What is true of runs that begin, and goes on being true as they take steps, is true of all runs
at all times. -/
theorem run_of_history {P : UnitContext → SecurityTest → RunStage → Prop}
    (hfirst : ∀ ctx test, P ctx test (.first r test))
    (hstep : ∀ {ctx : UnitContext} {test : SecurityTest} {st st' : RunStage}
      {known : List SecurityTest} {q : Call} {answer : q.Answer} {tests : List SecurityTest},
      st.Step r ctx test known q answer st' tests → P ctx test st → P ctx test st')
    (h : History r w (gathered r m errands) t c) {ctx : UnitContext} {test : SecurityTest}
    {stage : RunStage} (hi : c.stages[i]? = some (.run ctx test stage)) : P ctx test stage :=
  run_of_turns (P := fun _ => P) hfirst hstep h hi

/-- Nobody is about to begin around a store that nobody uses yet. -/
theorem gathered_nil (r : Runner) (m : Store.Memory) : gathered r m [] = idle m := rfl

end Staging
end Service
end ScanService
