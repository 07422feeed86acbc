import Mathlib.Data.Stream.Defs
import ScanService.Proofs.Forms

/-!
# Actions amid failures

Any call to a store may fail.  `Failures` says of the calls that are still to come which of them do,
and with what error; such a call leaves the store as it is, and the others are answered by the store
in memory.  So what an action comes to amid given failures is determined, and whatever is said of all
failures is said of all patterns of failing calls.

## What is here

* `Task.runAmid`, `Action.runAmid` — what a task, or an action, comes to amid failures.
* `runAmid_bind_ok_iff`, `runAmid_bind_error_iff`, `runAmid_store_ok_iff` — an outcome told step by
  step.
* `runAmid_of_reads` — **who only reads leaves the store as it is**, failures or not.
* `runAmid_never` — an action that no failure happens to does what it does in a store of its own.
-/

namespace ScanService

/-- Calls that do not change what is stored. -/
def Store.Call.reads : Store.Call → Prop
  | .findRepository _ | .findSecurityTest _ | .findSecurityTests _ | .findAnalysis _
  | .findAnalyses _ | .ping => True
  | _ => False

namespace Service

open Store (Memory)

/-- Questions that do not change what is stored. -/
def Call.onlyReads : Call → Prop
  | .store c => c.reads
  | _ => True

/-- What the calls to a store that are still to come fail with, if they do. -/
abbrev Failures : Type := Stream' (Option ServiceError)

/-- No call fails. -/
def Failures.never : Failures := Stream'.const none

/-- Failures come first, then the store in memory answers, and a script everything else. -/
def serveOrFail (d : Script) : (c : Call) → Failures × Memory → c.Answer × Failures × Memory
  | .store q, (f, m) =>
    match f.head with
    | some e => (.error e, f.tail, m)
    | none => ((m.answer q).1, f.tail, (m.answer q).2)
  | c, (f, m) => ((serve d c m).1, f, (serve d c m).2)

/-- What a task comes to amid failures, which of them are left, and what is left of the store. -/
def Task.runAmid {α : Type} (t : Task α) (d : Script) (f : Failures) (m : Memory) :
    α × Failures × Memory :=
  Program.run (serveOrFail d) t (f, m)

/-- What an action comes to amid failures, which of them are left, and what is left of the store. -/
def Action.runAmid {α : Type} (a : Action α) (d : Script) (f : Failures) (m : Memory) :
    Except ServiceError α × Failures × Memory :=
  Task.runAmid a.run d f m

section

variable {α β : Type} {d : Script} {f f' : Failures} {m m' : Memory} {s : Failures × Memory}

/-! ## Tasks -/

/-- Two tasks one after the other. -/
theorem Task.runAmid_bind (t : Task α) (next : α → Task β) : Task.runAmid (t.bind next) d f m =
    Task.runAmid (next (Task.runAmid t d f m).1) d (Task.runAmid t d f m).2.1
      (Task.runAmid t d f m).2.2 :=
  Program.run_bind _ t next (f, m)

/-- A call to the store fails if it is to. -/
theorem Task.runAmid_store (c : Store.Call) : (Task.store c).runAmid d f m =
    (f.head.elim (m.answer c).1 .error, f.tail, f.head.elim (m.answer c).2 fun _ => m) := by
  simp only [Task.runAmid, Task.store, Program.call, Program.run, serveOrFail]
  cases f.head <;> rfl

/-- A call that reads leaves the store as it is. -/
theorem answer_of_reads {c : Store.Call} (h : c.reads) : (m.answer c).2 = m := by
  cases c <;> first | rfl | exact h.elim

/-- **Who only reads leaves the store as it is.** -/
theorem Task.runAmid_of_reads {t : Task α} (h : t.OnlyAsks Call.onlyReads) :
    (t.runAmid d f m).2.2 = m := by
  induction t generalizing f m with
  | done a => rfl
  | ask c next ih =>
    obtain ⟨hc, hnext⟩ := h
    have hkept : (serveOrFail d c (f, m)).2.2 = m := by
      cases c with
      | store q =>
        rw [serveOrFail]
        cases f.head with
        | none => exact answer_of_reads hc
        | some e => rfl
      | _ => rfl
    calc (Task.runAmid (.ask c next) d f m).2.2
        = (serveOrFail d c (f, m)).2.2 := ih _ (hnext _)
      _ = m := hkept

/-- A task that no failure happens to has the store for itself. -/
theorem Task.runAmid_never (t : Task α) : t.runAmid d .never m =
    ((Program.run (serve d) t m).1, .never, (Program.run (serve d) t m).2) := by
  induction t generalizing m with
  | done a => rfl
  | ask c next ih =>
    have hserved : serveOrFail d c (.never, m) = ((serve d c m).1, .never, (serve d c m).2) := by
      cases c <;> rfl
    calc Task.runAmid (.ask c next) d .never m
        = Task.runAmid (next (serve d c m).1) d .never (serve d c m).2 := by
          rw [Task.runAmid, Program.run, hserved]
          rfl
      _ = _ := ih _

/-! ## Actions -/

/-- Two actions one after the other, in what the first leaves if it succeeds. -/
theorem runAmid_bind (a : Action α) (next : α → Action β) : (a >>= next).runAmid d f m =
    match a.runAmid d f m with
    | (.ok x, f', m') => (next x).runAmid d f' m'
    | (.error e, s) => (.error e, s) := by
  rw [Action.runAmid, ExceptT.run_bind, Program.bind_eq_bind, Task.runAmid_bind, Action.runAmid]
  generalize Task.runAmid a.run d f m = outcome
  obtain ⟨_ | _, _, _⟩ := outcome <;> rfl

theorem runAmid_bind_of_ok {a : Action α} {next : α → Action β} {x : α}
    (h : a.runAmid d f m = (.ok x, f', m')) :
    (a >>= next).runAmid d f m = (next x).runAmid d f' m' := by
  rw [runAmid_bind, h]

theorem runAmid_bind_of_error {a : Action α} {next : α → Action β} {e : ServiceError}
    (h : a.runAmid d f m = (.error e, s)) : (a >>= next).runAmid d f m = (.error e, s) := by
  rw [runAmid_bind, h]

/-- **Two actions succeed one after the other** if the first does, and the second in what it leaves. -/
theorem runAmid_bind_ok_iff {a : Action α} {next : α → Action β} {y : β} :
    (a >>= next).runAmid d f m = (.ok y, s) ↔
      ∃ x f' m', a.runAmid d f m = (.ok x, f', m') ∧ (next x).runAmid d f' m' = (.ok y, s) := by
  rw [runAmid_bind]
  rcases a.runAmid d f m with ⟨e | x, f', m'⟩
  · simp
  · constructor
    · exact fun h => ⟨x, f', m', rfl, h⟩
    · rintro ⟨x, f', m', ⟨⟩, h⟩
      exact h

/-- **One of two actions fails**: the first, or the second in what the first leaves. -/
theorem runAmid_bind_error_iff {a : Action α} {next : α → Action β} {e : ServiceError} :
    (a >>= next).runAmid d f m = (.error e, s) ↔ a.runAmid d f m = (.error e, s) ∨
      ∃ x f' m', a.runAmid d f m = (.ok x, f', m') ∧ (next x).runAmid d f' m' = (.error e, s) := by
  rw [runAmid_bind]
  rcases a.runAmid d f m with ⟨e' | x, f', m'⟩
  · simp
  · constructor
    · exact fun h => .inr ⟨x, f', m', rfl, h⟩
    · rintro (⟨⟨⟩⟩ | ⟨x, f', m', ⟨⟩, h⟩)
      exact h

/-- A call to the store succeeds if it is not to fail and the store grants it. -/
theorem runAmid_store_ok_iff {c : Store.Call} {x : c.Result} :
    (Action.store c).runAmid d f m = (.ok x, f', m') ↔
      f.head = none ∧ m.answer c = (.ok x, m') ∧ f' = f.tail := by
  have hstore : (Action.store c).runAmid d f m = (Task.store c).runAmid d f m := rfl
  rw [hstore, Task.runAmid_store]
  cases f.head with
  | none =>
    rcases hanswer : m.answer c with ⟨answer, m''⟩
    simp only [Option.elim_none, Prod.mk.injEq, true_and]
    constructor
    · rintro ⟨rfl, rfl, rfl⟩
      exact ⟨⟨rfl, rfl⟩, rfl⟩
    · rintro ⟨⟨rfl, rfl⟩, rfl⟩
      exact ⟨rfl, rfl, rfl⟩
  | some e => simp

/-- A call to the store that fails leaves the store as it is. -/
theorem runAmid_store_error {c : Store.Call} {e : ServiceError}
    (h : (Action.store c).runAmid d f m = (.error e, f', m')) : m' = m := by
  have hstore : (Action.store c).runAmid d f m = (Task.store c).runAmid d f m := rfl
  rw [hstore, Task.runAmid_store] at h
  cases hf : f.head with
  | none =>
    simp only [hf, Option.elim_none, Prod.mk.injEq] at h
    rw [← h.2.2, Memory.answer_of_error h.1]
  | some e' =>
    simp only [hf, Option.elim_some, Prod.mk.injEq] at h
    exact h.2.2.symm

/-- An action that only reads leaves the store as it is. -/
theorem runAmid_of_reads {a : Action α} {outcome : Except ServiceError α}
    (ha : a.run.OnlyAsks Call.onlyReads) (h : a.runAmid d f m = (outcome, f', m')) : m' = m := by
  have hkept := Task.runAmid_of_reads (d := d) (f := f) (m := m) ha
  change (a.runAmid d f m).2.2 = m at hkept
  rwa [h] at hkept

/-- **An action that no failure happens to** does what it does in a store of its own. -/
theorem runAmid_never (a : Action α) :
    a.runAmid d .never m = ((a.runIn d m).1, .never, (a.runIn d m).2) :=
  Task.runAmid_never a.run

theorem runAmid_never_of_runIn {a : Action α} {outcome : Except ServiceError α}
    (h : a.runIn d m = (outcome, m')) : a.runAmid d .never m = (outcome, .never, m') := by
  rw [runAmid_never, h]

end

end Service
end ScanService
