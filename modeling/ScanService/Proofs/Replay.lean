import ScanService.Proofs.Turns

/-!
# Replays

A `Script` says what everybody answers to whom nothing is prescribed, and a replay takes given turns
with these answers.  No call to the store fails in a replay, and no analysis sees an identifier
twice, so that what a replay leads to can be reached in all surroundings that are considered
(`reachable_of_replay`).
-/

namespace ScanService
namespace Service

open Execution (UnitContext)

/-- What is answered in a replay. -/
structure Script where
  /-- What the backend answers, these units having been created before. -/
  backend (units : List (Uuid × String)) (c : Execution.Call) : c.Answer
  /-- The time of day. -/
  now : Timestamp
  /-- The time since the service was started. -/
  timer : Duration
  /-- The identifier that is drawn. -/
  rid : Uuid

/-- A move of a replay. -/
inductive Script.Move where
  /-- A client comes. -/
  | request (e : Errand)
  /-- The task in some place takes a turn. -/
  | turn (place : Nat)

namespace Crowd

variable (r : Runner) (d : Script)

/-- Goes on until the next turn. -/
def settle {α : Type} : Task α → Crowd → Task α × Crowd
  | .ask .readClock next, s => settle (next d.now) s
  | .ask .readTimer next, s => settle (next d.timer) s
  | .ask (.sleep _) next, s => settle (next ()) s
  | .ask .drawRid next, s => settle (next d.rid) s
  | .ask (.launch ctx test) next, s => settle (next ()) (s.begin r (.run ctx test))
  | .ask .leaveGate next, s => settle (next ()) { s with gateTaken := false }
  | t, s => (t, s)

/-- Goes on with an answer. -/
def goOn (i : Nat) (e : Errand) (t : Task e.Result) (s : Crowd) : Crowd :=
  (settle r d t s).2.resume i ⟨e, (settle r d t s).1⟩

/-- A unit that is created gets an identifier that its analysis has not seen. -/
def isFresh (units : List (Uuid × String)) : (c : Execution.Call) → c.Answer → Bool
  | .createUnit ctx _ _, .ok id => !units.contains (ctx.rid, id)
  | _, _ => true

/-- The worker in some place takes a turn. -/
def takeTurn (i : Nat) (s : Crowd) : Worker → Option Crowd
  | ⟨e, .ask (.store c) next⟩ =>
    some (goOn r d i e (next (s.store.answer c).1) { s with store := (s.store.answer c).2 })
  | ⟨e, .ask (.backend c) next⟩ =>
    if isFresh s.units c (d.backend s.units c) then
      some (goOn r d i e (next (d.backend s.units c)) (s.noteUnit c (d.backend s.units c)))
    else none
  | ⟨e, .ask .enterGate next⟩ =>
    if s.gateTaken then none else some (goOn r d i e (next ()) { s with gateTaken := true })
  | _ => none

/-- Makes the moves of a replay. -/
def replay : List Script.Move → Crowd → Option Crowd
  | [], s => some s
  | .request e :: rest, s => if e.isRequest then replay rest (s.begin r e) else none
  | .turn i :: rest, s => (s.workers[i]?.bind (takeTurn r d i s)).bind (replay rest)

/-! ## Replays reach what they lead to -/

variable {r d} {w : Surroundings} {s s' : Crowd}

theorem settles_settle {α : Type} (t : Task α) (s : Crowd) :
    Settles r t s (settle r d t s).1 (settle r d t s).2 := by
  induction t generalizing s with
  | done a => exact .settled rfl s
  | ask c next ih =>
    cases c with
    | store | backend | enterGate => exact .settled rfl s
    | readClock => exact .quiet (.readClock s d.now) (ih _ s)
    | readTimer => exact .quiet (.readTimer s d.timer) (ih _ s)
    | sleep span => exact .quiet (.sleep s span) (ih _ s)
    | drawRid => exact .quiet (.drawRid s d.rid) (ih _ s)
    | launch ctx test => exact .quiet (.launch s ctx test) (ih _ _)
    | leaveGate => exact .quiet (.leaveGate s) (ih _ _)

theorem isFresh_iff {units : List (Uuid × String)} {c : Execution.Call} {answer : c.Answer} :
    isFresh units c answer = true ↔ Surroundings.IsFresh units c answer := by
  unfold isFresh Surroundings.IsFresh
  split <;> simp

theorem step_of_takeTurn
    (hw : ∀ units c answer, Surroundings.IsFresh units c answer → w.backend units c answer)
    {i : Nat} {x : Worker} (hi : s.workers[i]? = some x) (h : takeTurn r d i s x = some s') :
    Step r w s s' := by
  obtain ⟨e, t⟩ := x
  cases t with
  | done a => cases h
  | ask c next =>
    cases c with
    | store c =>
      cases h
      exact .store hi (.inl rfl) (settles_settle _ _)
    | backend c =>
      rw [takeTurn] at h
      split at h
      · next hfresh =>
        cases h
        exact .backend hi (hw _ _ _ (isFresh_iff.mp hfresh)) (settles_settle _ _)
      · cases h
    | enterGate =>
      rw [takeTurn] at h
      split at h
      · cases h
      · next hg =>
        cases h
        exact .gate hi (Bool.not_eq_true _ ▸ hg) (settles_settle _ _)
    | _ => cases h

/-- **What a replay leads to can be reached** wherever the backend may give fresh identifiers. -/
theorem reachable_of_replay
    (hw : ∀ units c answer, Surroundings.IsFresh units c answer → w.backend units c answer)
    {moves : List Script.Move} (h : replay r d moves s = some s') : Reachable r w s s' := by
  induction moves generalizing s with
  | nil =>
    cases h
    exact .refl
  | cons move rest ih =>
    cases move with
    | request e =>
      rw [replay] at h
      split at h
      · next he => exact (Reachable.step .refl (.request he)).trans (ih h)
      · cases h
    | turn i =>
      rw [replay, Option.bind_eq_some_iff] at h
      obtain ⟨s₁, hturn, h⟩ := h
      obtain ⟨x, hi, hturn⟩ := Option.bind_eq_some_iff.mp hturn
      exact (Reachable.step .refl (step_of_takeTurn hw hi hturn)).trans (ih h)

end Crowd

/-! ## A sample -/

namespace Script

/-- A repository in which nothing has been detected yet. -/
def sampleRepository : Repository :=
  ⟨"https://github.com/acme/api.git", none, [], [], .unixEpoch, none⟩

/-- The detector. -/
def sampleDetector : SecurityTest :=
  ⟨SecurityTest.detectorName, "enry", "latest", "enry", SecurityTest.genericLanguage, false, 60⟩

/-- A default test for one language. -/
def sampleTest : SecurityTest := ⟨"bandit", "bandit", "latest", "bandit", "python", true, 60⟩

/-- A store with the repository and the tests. -/
def sampleStore : Store.Memory := ⟨[sampleRepository], [sampleDetector, sampleTest], []⟩

/-- The built-in readers, and the settings where nothing else is said. -/
def sampleRunner : Runner := ⟨.standard, .builtin⟩

/-- Everything goes well, and the detector finds the language. -/
def sample : Script where
  backend units
    | .imageIsLoaded _ => .ok true
    | .pullImage _ | .startUnit _ | .waitUnit _ _ | .ping => .ok ()
    | .createUnit _ _ _ => .ok (if units.isEmpty then "first" else "second")
    | .readOutput id => .ok (if id = "first" then "python" else "")
  now := sampleRepository.createdAt
  timer := .ofSeconds 0
  rid := .zero

/-- An analysis is admitted. -/
def admission : List Move :=
  .request (.analyse sampleRepository.url) :: List.replicate 5 (.turn 0)

/-- The detector runs, and the test that follows; then somebody asks for the analysis. -/
def completion : List Move :=
  List.replicate 13 (.turn 1) ++ List.replicate 8 (.turn 2) ++ [.request (.status .zero), .turn 3]

end Script
end Service
end ScanService
