import ScanService.Service.Interleaving

/-!
# Turns, one at a time

`Crowd.Step` says what one turn leads to.  Here a turn also says whose it was, what was asked and
what the answer was, and what a task does between two turns is unrolled a question at a time.

## What is here

* `Crowd.Turn` — the turn of one task; a step is the arrival of a client or somebody's turn
  (`step_iff`).
* `Crowd.History` — the turns that were taken since the start, in order; a crowd is reachable
  exactly if it has a history (`reachable_iff_exists_history`).
* `settles_done_iff`, `settles_turn_iff`, `settles_quiet_iff` — how a task goes on, by its next
  question; `settles_launches_iff` takes a whole list of launches at once.
-/

namespace ScanService
namespace Service

open Execution (UnitContext)

namespace Crowd

/-! ## The turn of one task -/

/-- The answer to a question that takes a turn, and what it changes at once. -/
inductive Answers (w : Surroundings) (s : Crowd) : (c : Call) → c.Answer → Crowd → Prop where
  | store {c : Store.Call} {answer : c.Answer} {m : Store.Memory}
    (h : w.Stores c s.store answer m) : Answers w s (.store c) answer { s with store := m }
  | backend {c : Execution.Call} {answer : c.Answer} (h : w.backend s.units c answer) :
    Answers w s (.backend c) answer (s.noteUnit c answer)
  | gate (h : s.gateTaken = false) : Answers w s .enterGate () { s with gateTaken := true }

/-- The task in one place gets an answer and goes on. -/
inductive Turn (r : Runner) (w : Surroundings) (i : Nat) (c : Call) (answer : c.Answer) :
    Crowd → Crowd → Prop where
  | intro {s s₁ s₂ : Crowd} {e : Errand} {next : c.Answer → Task e.Result} {t : Task e.Result}
    (hi : s.workers[i]? = some ⟨e, .ask (I := activity) c next⟩) (ha : Answers w s c answer s₁)
    (ht : Settles r (next answer) s₁ t s₂) : Turn r w i c answer s (s₂.resume i ⟨e, t⟩)

variable {r : Runner} {w : Surroundings} {s s' : Crowd}

/-- An answer changes no task. -/
theorem Answers.workers_eq {c : Call} {answer : c.Answer} (h : Answers w s c answer s') :
    s'.workers = s.workers := by
  cases h with
  | store | gate => rfl
  | backend => exact workers_noteUnit _ _

theorem Turn.step {i : Nat} {c : Call} {answer : c.Answer} (h : Turn r w i c answer s s') :
    Step r w s s' := by
  obtain ⟨hi, ha, ht⟩ := h
  cases ha with
  | store h => exact .store hi h ht
  | backend h => exact .backend hi h ht
  | gate h => exact .gate hi h ht

/-- **A step is the arrival of a client or the turn of a task.** -/
theorem step_iff : Step r w s s' ↔ (∃ e : Errand, e.isRequest = true ∧ s' = s.begin r e) ∨
    ∃ i c answer, Turn r w i c answer s s' := by
  constructor
  · intro h
    cases h with
    | request he => exact .inl ⟨_, he, rfl⟩
    | store hi ha ht => exact .inr ⟨_, _, _, .intro hi (.store ha) ht⟩
    | backend hi ha ht => exact .inr ⟨_, _, _, .intro hi (.backend ha) ht⟩
    | gate hi hg ht => exact .inr ⟨_, _, _, .intro hi (.gate hg) ht⟩
  · rintro (⟨e, he, rfl⟩ | ⟨i, c, answer, h⟩)
    · exact .request he
    · exact h.step

/-! ## Histories -/

/-- A turn that was taken: by the task in which place, what it asked and what it was told. -/
structure Event where
  /-- The place of the task. -/
  place : Nat
  /-- What was asked. -/
  call : Call
  /-- What the answer was. -/
  answer : call.Answer

/-- The turns that led from one crowd to another, in order. -/
inductive History (r : Runner) (w : Surroundings) (start : Crowd) : List Event → Crowd → Prop where
  | start : History r w start [] start
  | request {t : List Event} {s : Crowd} {e : Errand} (h : History r w start t s)
    (he : e.isRequest = true) : History r w start t (s.begin r e)
  | turn {t : List Event} {s s' : Crowd} {i : Nat} {c : Call} {answer : c.Answer}
    (h : History r w start t s) (ht : Turn r w i c answer s s') :
    History r w start (t ++ [⟨i, c, answer⟩]) s'

theorem History.reachable {start : Crowd} {t : List Event} (h : History r w start t s) :
    Reachable r w start s := by
  induction h with
  | start => exact .refl
  | request _ he ih => exact .step ih (.request he)
  | turn _ ht ih => exact .step ih ht.step

/-- **A crowd is reachable exactly if it has a history.** -/
theorem reachable_iff_exists_history {start : Crowd} :
    Reachable r w start s ↔ ∃ t, History r w start t s := by
  constructor
  · intro h
    induction h with
    | refl => exact ⟨[], .start⟩
    | step _ hs ih =>
      obtain ⟨t, ht⟩ := ih
      rcases step_iff.mp hs with ⟨e, he, rfl⟩ | ⟨i, c, answer, hturn⟩
      · exact ⟨t, .request ht he⟩
      · exact ⟨_, .turn ht hturn⟩
  · rintro ⟨t, ht⟩
    exact ht.reachable

/-! ## Going on, a question at a time -/

variable {α : Type} {t : Task α}

theorem settles_done_iff {a : α} : Settles r (.done a) s t s' ↔ t = .done a ∧ s' = s := by
  constructor
  · intro h
    cases h
    exact ⟨rfl, rfl⟩
  · rintro ⟨rfl, rfl⟩
    exact .settled rfl _

/-- At a question that takes a turn a task stops. -/
theorem settles_turn_iff {c : Call} {next : c.Answer → Task α} (hc : Call.takesTurn c = true) :
    Settles r (.ask (I := activity) c next) s t s' ↔
      t = .ask (I := activity) c next ∧ s' = s := by
  constructor
  · intro h
    cases h with
    | settled => exact ⟨rfl, rfl⟩
    | quiet hq => cases hq <;> cases hc
  · rintro ⟨rfl, rfl⟩
    exact .settled (t := .ask (I := activity) c next) hc _

theorem settles_store_iff {c : Store.Call} {k : c.Answer → Task α} :
    Settles r ((Task.store c).bind k) s t s' ↔ t = (Task.store c).bind k ∧ s' = s :=
  settles_turn_iff rfl

theorem settles_backend_iff {c : Execution.Call} {k : c.Answer → Task α} :
    Settles r ((Task.backend c).bind k) s t s' ↔ t = (Task.backend c).bind k ∧ s' = s :=
  settles_turn_iff rfl

/-- At any other question it goes on with some answer. -/
theorem settles_quiet_iff {c : Call} {next : c.Answer → Task α} (hc : Call.takesTurn c = false) :
    Settles r (.ask (I := activity) c next) s t s' ↔
      ∃ answer s₁, Quiet r c s answer s₁ ∧ Settles r (next answer) s₁ t s' := by
  constructor
  · intro h
    cases h with
    | settled h => exact absurd (h.symm.trans hc) (by decide)
    | quiet hq ht => exact ⟨_, _, hq, ht⟩
  · rintro ⟨answer, s₁, hq, ht⟩
    exact .quiet hq ht

theorem settles_readClock_iff {next : Timestamp → Task α} :
    Settles r (.ask (I := activity) .readClock next) s t s' ↔
      ∃ now, Settles r (next now) s t s' := by
  rw [settles_quiet_iff rfl]
  constructor
  · rintro ⟨now, _, ⟨⟩, ht⟩
    exact ⟨now, ht⟩
  · rintro ⟨now, ht⟩
    exact ⟨now, s, .readClock s now, ht⟩

theorem settles_drawRid_iff {next : Uuid → Task α} :
    Settles r (.ask (I := activity) .drawRid next) s t s' ↔ ∃ rid, Settles r (next rid) s t s' := by
  rw [settles_quiet_iff rfl]
  constructor
  · rintro ⟨rid, _, ⟨⟩, ht⟩
    exact ⟨rid, ht⟩
  · rintro ⟨rid, ht⟩
    exact ⟨rid, s, .drawRid s rid, ht⟩

theorem settles_leaveGate_iff {next : Unit → Task α} :
    Settles r (.ask (I := activity) .leaveGate next) s t s' ↔
      Settles r (next ()) { s with gateTaken := false } t s' := by
  rw [settles_quiet_iff rfl]
  constructor
  · rintro ⟨_, _, ⟨⟩, ht⟩
    exact ht
  · intro ht
    exact ⟨(), _, .leaveGate s, ht⟩

/-- Runs of some tests begin, one after the other. -/
def launchAll (r : Runner) (ctx : UnitContext) (tests : List SecurityTest) (s : Crowd) : Crowd :=
  { s with workers := s.workers ++ tests.map fun test => .begin r (.run ctx test) }

@[simp] theorem launchAll_nil (ctx : UnitContext) : s.launchAll r ctx [] = s := by
  simp [launchAll]

/-- Launching some tests takes no turn. -/
theorem settles_launches_iff {ctx : UnitContext} {tests : List SecurityTest}
    {k : Unit → Task α} :
    Settles r ((Program.forEach (Task.launch ctx) tests).bind k) s t s' ↔
      Settles r (k ()) (s.launchAll r ctx tests) t s' := by
  induction tests generalizing s with
  | nil => simp [Program.forEach, launchAll]
  | cons test rest ih =>
    have hall : s.launchAll r ctx (test :: rest) =
        (s.begin r (.run ctx test)).launchAll r ctx rest := by
      simp [launchAll, begin]
    rw [hall, ← ih]
    simp only [Program.forEach, Task.launch, Program.call, Program.bind_ask, Program.bind_done]
    rw [settles_quiet_iff rfl]
    constructor
    · rintro ⟨_, _, ⟨⟩, ht⟩
      exact ht
    · intro ht
      exact ⟨(), _, .launch s ctx test, ht⟩

end Crowd
end Service
end ScanService
