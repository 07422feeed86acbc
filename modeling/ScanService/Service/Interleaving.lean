import ScanService.Service.Admission
import ScanService.Service.Defaults
import ScanService.Service.Registration
import ScanService.Service.Runner
import ScanService.Store.Memory

/-!
# Tasks that take turns

`Simulation` runs the tasks of the service in one order; here nothing is said about the order.  A
`Crowd` is a store in memory and the tasks that use it.  In a turn one of them gets an answer of the
store or the backend, or passes the gate of admission, and goes on until it needs the next one.  What
the store and the backend may answer is up to the `Surroundings`.

* `Errand.task`: what a task does for a client, or as a run.
* `Crowd.Settles`: what a task does between two turns; it reads clocks, draws identifiers, launches
  runs and leaves the gate.
* `Crowd.Step` is one turn, and `Crowd.Reachable` says what turns can lead to.

Tasks are never removed: a task at its end stays in its place, so that a place stands for one errand
throughout (`errands_isPrefix`), and the launched runs can be counted.
-/

namespace ScanService
namespace Service

open Execution (UnitContext)

/-! ## Errands -/

/-- What a task is for. -/
inductive Errand where
  /-- To start an analysis. -/
  | analyse (url : String)
  /-- To read an analysis. -/
  | status (rid : Uuid)
  /-- To register a repository. -/
  | registerRepository (form : RepositoryForm)
  /-- To register a security test. -/
  | registerSecurityTest (form : SecurityTestForm)
  /-- To register the built-in tests. -/
  | ensureDefaults
  /-- To run a test for an analysis. -/
  | run (ctx : UnitContext) (test : SecurityTest)
  deriving DecidableEq

namespace Errand

/-- What a task ends with. -/
@[reducible]
def Result : Errand → Type
  | analyse _ => Except ServiceError Uuid
  | status _ => Except ServiceError Analysis
  | registerRepository _ => Except ServiceError Repository
  | registerSecurityTest _ => Except ServiceError SecurityTest
  | ensureDefaults => Except ServiceError (List String)
  | run _ _ => Unit

/-- The task of an errand. -/
def task (r : Runner) : (e : Errand) → Task e.Result
  | analyse url => (admitAnalysis url).run
  | status rid => (Service.status rid).run
  | registerRepository form => (Service.registerRepository form).run
  | registerSecurityTest form => (Service.registerSecurityTest form).run
  | ensureDefaults => Service.ensureDefaults.run
  | run ctx test => r.run ctx test

/-- Errands of clients; runs are launched by other tasks alone. -/
def isRequest : Errand → Bool
  | run _ _ => false
  | _ => true

/-- The analysis and the test of a run. -/
def run? : Errand → Option (UnitContext × SecurityTest)
  | run ctx test => some (ctx, test)
  | _ => none

end Errand

/-- Whether a question takes a turn: whether others may come in between. -/
def Call.takesTurn : Call → Bool
  | .store _ | .backend _ | .enterGate => true
  | .readClock | .readTimer | .sleep _ | .drawRid | .launch _ _ | .leaveGate => false

/-- A task at its end, or at a question that takes a turn. -/
def Task.isSettled {α : Type} : Task α → Bool
  | .done _ => true
  | .ask c _ => Call.takesTurn c

/-- Every errand begins with a question that takes a turn, or has ended. -/
theorem Errand.isSettled_task (r : Runner) (e : Errand) : (e.task r).isSettled = true := by
  cases e with
  | analyse url => rfl
  | status rid => rfl
  | registerRepository form =>
    simp only [Errand.task, Service.registerRepository, checkForm]
    by_cases hv : form.violations.isEmpty = true
    · by_cases hu : (Text.trim form.url).isEmpty = true
      · simp [hv, hu]
        rfl
      · by_cases hn : requestedNames form.securityTestNames = []
        · simp [hv, hu, testsToAttach, hn]
          rfl
        · obtain ⟨n, ns, hn⟩ := List.exists_cons_of_ne_nil hn
          simp [hv, hu, testsToAttach, hn]
          rfl
    · simp [hv]
      rfl
  | registerSecurityTest form =>
    simp only [Errand.task, Service.registerSecurityTest, checkForm]
    by_cases hv : form.violations.isEmpty = true
    · simp [hv]
      rfl
    · simp [hv]
      rfl
  | ensureDefaults => rfl
  | run ctx test => rfl

/-! ## Crowds -/

/-- An errand, and what is left to do for it. -/
structure Worker where
  /-- The errand. -/
  errand : Errand
  /-- What is left to do. -/
  rest : Task errand.Result

namespace Worker

/-- The beginning of an errand. -/
def begin (r : Runner) (e : Errand) : Worker := ⟨e, e.task r⟩

/-- Whether something is left to do. -/
def isLive (x : Worker) : Bool :=
  match x.rest with
  | .done _ => false
  | .ask _ _ => true

end Worker

/-- A store and the tasks that use it. -/
structure Crowd where
  /-- The store. -/
  store : Store.Memory
  /-- Whether somebody is behind the gate of admission. -/
  gateTaken : Bool
  /-- The units created so far, by their analyses, latest first. -/
  units : List (Uuid × String)
  /-- The tasks, in the order in which they began. -/
  workers : List Worker

namespace Crowd

/-- A store that nobody uses yet. -/
def idle (store : Store.Memory) : Crowd := ⟨store, false, [], []⟩

/-- Another task begins. -/
def begin (r : Runner) (e : Errand) (s : Crowd) : Crowd :=
  { s with workers := s.workers ++ [.begin r e] }

/-- A task goes on as another worker. -/
def resume (i : Nat) (x : Worker) (s : Crowd) : Crowd := { s with workers := s.workers.set i x }

/-- Notes the unit that a call has created. -/
def noteUnit : (c : Execution.Call) → c.Answer → Crowd → Crowd
  | .createUnit ctx _ _, .ok id, s => { s with units := (ctx.rid, id) :: s.units }
  | _, _, s => s

/-- The errands, in the order in which they began. -/
def errands (s : Crowd) : List Errand := s.workers.map (·.errand)

/-- The runs that have been launched. -/
def launched (s : Crowd) : List (UnitContext × SecurityTest) := s.errands.filterMap Errand.run?

/-- What a reader is told of an analysis. -/
def told? (s : Crowd) (rid : Uuid) : Option Analysis :=
  (s.store.analyses.find? (·.rid == rid)).map Analysis.snapshot

/-- The answer to a question that takes no turn, and what it changes. -/
inductive Quiet (r : Runner) : (c : Call) → Crowd → c.Answer → Crowd → Prop where
  | readClock (s : Crowd) (now : Timestamp) : Quiet r .readClock s now s
  | readTimer (s : Crowd) (now : Duration) : Quiet r .readTimer s now s
  | sleep (s : Crowd) (d : Duration) : Quiet r (.sleep d) s () s
  | drawRid (s : Crowd) (rid : Uuid) : Quiet r .drawRid s rid s
  | launch (s : Crowd) (ctx : UnitContext) (test : SecurityTest) :
    Quiet r (.launch ctx test) s () (s.begin r (.run ctx test))
  | leaveGate (s : Crowd) : Quiet r .leaveGate s () { s with gateTaken := false }

/-- A task goes on until it ends or needs a turn. -/
inductive Settles (r : Runner) {α : Type} : Task α → Crowd → Task α → Crowd → Prop where
  | settled {t : Task α} (h : t.isSettled = true) (s : Crowd) : Settles r t s t s
  | quiet {c : Call} {next : c.Answer → Task α} {answer : c.Answer} {s s' s'' : Crowd} {t : Task α}
    (h : Quiet r c s answer s') (ht : Settles r (next answer) s' t s'') :
    Settles r (.ask (I := activity) c next) s t s''

end Crowd

/-! ## Turns -/

/-- What the store and the backend may do. -/
structure Surroundings where
  /-- What the backend may answer, these units having been created before. -/
  backend (units : List (Uuid × String)) (c : Execution.Call) (answer : c.Answer) : Prop
  /-- What a call to the store may fail with, having done nothing. -/
  failure (c : Store.Call) (e : ServiceError) : Prop

namespace Surroundings

/-- Anything may happen. -/
def arbitrary : Surroundings := ⟨fun _ _ _ => True, fun _ _ => True⟩

/-- The same, but no call to the store fails of itself. -/
def reliable (w : Surroundings) : Surroundings := { w with failure := fun _ _ => False }

/-- A unit gets an identifier that its analysis has not seen before. -/
def IsFresh (units : List (Uuid × String)) : (c : Execution.Call) → c.Answer → Prop
  | .createUnit ctx _ _, .ok id => (ctx.rid, id) ∉ units
  | _, _ => True

/-- The same, but the identifiers of an analysis' units are all different. -/
def withFreshUnits (w : Surroundings) : Surroundings :=
  { w with backend := fun units c answer => w.backend units c answer ∧ IsFresh units c answer }

/-- The answer of a store, and the store after it. -/
def Stores (w : Surroundings) (c : Store.Call) (m : Store.Memory) (answer : c.Answer)
    (m' : Store.Memory) : Prop :=
  (answer, m') = m.answer c ∨ ∃ e, w.failure c e ∧ answer = .error e ∧ m' = m

end Surroundings

namespace Crowd

/-- One turn. -/
inductive Step (r : Runner) (w : Surroundings) : Crowd → Crowd → Prop where
  /-- A client comes. -/
  | request {s : Crowd} {e : Errand} (he : e.isRequest = true) : Step r w s (s.begin r e)
  /-- The store answers a task. -/
  | store {s s' : Crowd} {i : Nat} {e : Errand} {c : Store.Call} {next : c.Answer → Task e.Result}
    {answer : c.Answer} {m : Store.Memory} {t : Task e.Result}
    (hi : s.workers[i]? = some ⟨e, .ask (I := activity) (.store c) next⟩)
    (ha : w.Stores c s.store answer m)
    (ht : Settles r (next answer) { s with store := m } t s') :
    Step r w s (s'.resume i ⟨e, t⟩)
  /-- The backend answers a task. -/
  | backend {s s' : Crowd} {i : Nat} {e : Errand} {c : Execution.Call}
    {next : c.Answer → Task e.Result} {answer : c.Answer} {t : Task e.Result}
    (hi : s.workers[i]? = some ⟨e, .ask (I := activity) (.backend c) next⟩)
    (ha : w.backend s.units c answer)
    (ht : Settles r (next answer) (s.noteUnit c answer) t s') :
    Step r w s (s'.resume i ⟨e, t⟩)
  /-- A task passes the gate. -/
  | gate {s s' : Crowd} {i : Nat} {e : Errand} {next : Unit → Task e.Result} {t : Task e.Result}
    (hi : s.workers[i]? = some ⟨e, .ask (I := activity) .enterGate next⟩)
    (hg : s.gateTaken = false)
    (ht : Settles r (next ()) { s with gateTaken := true } t s') :
    Step r w s (s'.resume i ⟨e, t⟩)

/-- What turns lead to. -/
inductive Reachable (r : Runner) (w : Surroundings) (start : Crowd) : Crowd → Prop where
  | refl : Reachable r w start start
  | step {s s' : Crowd} (h : Reachable r w start s) (hs : Step r w s s') : Reachable r w start s'

/-! ## What turns leave alone -/

variable {r : Runner} {w : Surroundings} {s s' : Crowd}

theorem Reachable.trans {s'' : Crowd} (h : Reachable r w s s') (h' : Reachable r w s' s'') :
    Reachable r w s s'' := by
  induction h' with
  | refl => exact h
  | step _ hs ih => exact .step ih hs

@[simp] theorem errands_begin (e : Errand) : (s.begin r e).errands = s.errands ++ [e] := by
  simp [begin, errands, Worker.begin]

@[simp] theorem workers_noteUnit (c : Execution.Call) (answer : c.Answer) :
    (s.noteUnit c answer).workers = s.workers := by
  unfold noteUnit
  split <;> rfl

@[simp] theorem store_noteUnit (c : Execution.Call) (answer : c.Answer) :
    (s.noteUnit c answer).store = s.store := by
  unfold noteUnit
  split <;> rfl

/-- Between turns nothing is stored. -/
theorem Quiet.store_eq {c : Call} {answer : c.Answer} (h : Quiet r c s answer s') :
    s'.store = s.store := by
  cases h <;> rfl

theorem Quiet.workers_isPrefix {c : Call} {answer : c.Answer} (h : Quiet r c s answer s') :
    s.workers <+: s'.workers := by
  cases h with
  | launch => exact List.prefix_append _ _
  | readClock | readTimer | sleep | drawRid | leaveGate => exact List.prefix_refl _

theorem Settles.store_eq {α : Type} {t t' : Task α} (h : Settles r t s t' s') :
    s'.store = s.store := by
  induction h with
  | settled => rfl
  | quiet h _ ih => exact ih.trans h.store_eq

theorem Settles.workers_isPrefix {α : Type} {t t' : Task α} (h : Settles r t s t' s') :
    s.workers <+: s'.workers := by
  induction h with
  | settled => exact List.prefix_refl _
  | quiet h _ ih => exact h.workers_isPrefix.trans ih

/-- A task that goes on has settled. -/
theorem Settles.isSettled {α : Type} {t t' : Task α} (h : Settles r t s t' s') :
    t'.isSettled = true := by
  induction h with
  | settled h => exact h
  | quiet _ _ ih => exact ih

/-- A task goes on with its own errand. -/
theorem errands_resume {i : Nat} {e : Errand} {t t' : Task e.Result}
    (h : s.workers[i]? = some ⟨e, t⟩) : (s.resume i ⟨e, t'⟩).errands = s.errands := by
  apply List.ext_getElem?
  intro j
  simp only [errands, resume, List.getElem?_map, List.getElem?_set]
  by_cases hij : i = j
  · subst hij
    have hi : i < s.workers.length := (List.getElem?_eq_some_iff.mp h).1
    rw [if_pos rfl, if_pos hi, h]
    rfl
  · rw [if_neg hij]

/-- The errands that there were before a task settled and went on are still there, in place. -/
theorem Settles.errands_isPrefix {i : Nat} {e : Errand} {t t' t'' : Task e.Result}
    (h : Settles r t' s t'' s') (hi : s.workers[i]? = some ⟨e, t⟩) :
    s.errands <+: (s'.resume i ⟨e, t''⟩).errands := by
  have hp := h.workers_isPrefix
  have hi' : s'.workers[i]? = some ⟨e, t⟩ := by
    obtain ⟨rest, hrest⟩ := hp
    rw [← hrest, List.getElem?_append_left (List.getElem?_eq_some_iff.mp hi).1, hi]
  rw [errands_resume hi']
  exact hp.map _

/-- **A place stands for one errand throughout:** turns only ever add errands behind the others. -/
theorem Step.errands_isPrefix (h : Step r w s s') : s.errands <+: s'.errands := by
  cases h with
  | request he =>
    rw [errands_begin]
    exact List.prefix_append _ _
  | store hi _ ht => exact ht.errands_isPrefix hi
  | backend hi _ ht =>
    have hp := ht.errands_isPrefix (by rw [workers_noteUnit]; exact hi)
    rwa [errands, workers_noteUnit] at hp
  | gate hi _ ht => exact ht.errands_isPrefix hi

theorem Reachable.errands_isPrefix (h : Reachable r w s s') : s.errands <+: s'.errands := by
  induction h with
  | refl => exact List.prefix_refl _
  | step _ hs ih => exact ih.trans hs.errands_isPrefix

/-- What is stored changes by answers of the store alone. -/
theorem Step.store_eq (h : Step r w s s') :
    s'.store = s.store ∨ ∃ c answer, w.Stores c s.store answer s'.store := by
  cases h with
  | request he => exact .inl rfl
  | @store s' i e c next answer m t hi ha ht =>
    have hs : (s'.resume i ⟨e, t⟩).store = m := ht.store_eq
    exact .inr ⟨c, answer, hs ▸ ha⟩
  | backend hi ha ht => exact .inl (ht.store_eq.trans (store_noteUnit _ _))
  | gate hi hg ht => exact .inl ht.store_eq

end Crowd
end Service
end ScanService
