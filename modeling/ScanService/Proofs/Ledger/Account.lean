import Mathlib.Logic.Function.Basic
import ScanService.Proofs.Stages.Entry
import ScanService.Proofs.Stages.Staging

/-!
# The account of an analysis

What a staging says about one analysis is its `Account`: which runs have been launched for it, what
each of them takes its job to be, and which of them have recorded an entry.  The account changes
only by the turns of these runs and by the admission of the analysis, so that all other turns can be
passed over by one equation (`account_goOn_nil_of_eq`).

## What is here

* `Staging.account` — the account of an analysis.
* `account_goOn`, `account_record` — what the account is when a task has gone on, or an entry is
  recorded.
* `account_sane`, `nodup_places` — an account is about launched runs, each in a place of its own.
-/

namespace ScanService
namespace Service

open Execution (UnitContext)

/-! ## Accounts -/

/-- What is known of the runs of one analysis. -/
@[ext]
structure Account where
  /-- The runs that have been launched, by their places. -/
  runs : List (Nat × SecurityTest)
  /-- What the run in a place takes its job to be, once it has asked for an entry. -/
  known : Nat → Option Job
  /-- The places of the runs that have recorded an entry, in the order of the entries. -/
  owners : List Nat

namespace Account

/-- The account of an analysis that nobody has admitted. -/
def blank : Account := ⟨[], fun _ => none, []⟩

/-- The places of the runs. -/
def places (k : Account) : List Nat := k.runs.map (·.1)

/-- The tests of the runs. -/
def tests (k : Account) : List SecurityTest := k.runs.map (·.2)

/-- Whatever is known is known of a run. -/
def Sane (k : Account) : Prop :=
  ∀ i job, k.known i = some job → (i, job.securityTest) ∈ k.runs

theorem Sane.mem_places {k : Account} (hs : k.Sane) {i : Nat} (h : ∃ job, k.known i = some job) :
    i ∈ k.places := by
  obtain ⟨job, h⟩ := h
  exact List.mem_map_of_mem (hs i job h)

end Account

namespace Stage

/-- The test that is run for an analysis. -/
def testFor? (rid : Uuid) : Stage → Option SecurityTest
  | run ctx test _ => if ctx.rid = rid then some test else none
  | _ => none

/-- What a run for an analysis takes its job to be. -/
def entryFor? (r : Runner) (rid : Uuid) : Stage → Option Job
  | run ctx test stage => if ctx.rid = rid then stage.entry? r test else none
  | _ => none

theorem entryFor?_begin (r : Runner) (rid : Uuid) (e : Errand) :
    (begin r e).entryFor? r rid = none := by
  cases e <;> simp [begin, entryFor?, RunStage.first, RunStage.entry?]

theorem testFor?_begin (r : Runner) (rid : Uuid) (e : Errand) :
    (begin r e).testFor? rid =
      e.run?.bind fun run => if run.1.rid = rid then some run.2 else none := by
  cases e <;> rfl

end Stage

/-- The runs for an analysis among some tasks, places being counted from `n`. -/
def runsFrom (rid : Uuid) : Nat → List Stage → List (Nat × SecurityTest)
  | _, [] => []
  | n, stage :: rest =>
    match stage.testFor? rid with
    | some test => (n, test) :: runsFrom rid (n + 1) rest
    | none => runsFrom rid (n + 1) rest

namespace Staging

/-- The account of an analysis. -/
def account (r : Runner) (c : Staging) (rid : Uuid) : Account where
  runs := runsFrom rid 0 c.stages
  known i := c.stages[i]?.bind (Stage.entryFor? r rid)
  owners := (c.recorded.filter (·.1 == rid)).map (·.2)

end Staging

/-! ## The runs among some tasks -/

variable {rid : Uuid} {n i : Nat} {stages : List Stage} {test : SecurityTest}

theorem runsFrom_cons (stage : Stage) (rest : List Stage) :
    runsFrom rid n (stage :: rest) =
      ((stage.testFor? rid).map fun test => (n, test)).toList ++ runsFrom rid (n + 1) rest := by
  rw [runsFrom]
  cases stage.testFor? rid <;> rfl

theorem runsFrom_append (xs ys : List Stage) :
    runsFrom rid n (xs ++ ys) = runsFrom rid n xs ++ runsFrom rid (n + xs.length) ys := by
  induction xs generalizing n with
  | nil => rfl
  | cons x rest ih =>
    rw [List.cons_append, runsFrom_cons, runsFrom_cons, ih, List.append_assoc, List.length_cons]
    congr 3
    omega

/-- A task that goes on with its own test keeps its place. -/
theorem runsFrom_set {old stage : Stage} (hi : stages[i]? = some old)
    (h : stage.testFor? rid = old.testFor? rid) :
    runsFrom rid n (stages.set i stage) = runsFrom rid n stages := by
  induction stages generalizing n i with
  | nil => rfl
  | cons x rest ih =>
    cases i with
    | zero =>
      obtain rfl : x = old := by simpa using hi
      rw [List.set_cons_zero, runsFrom_cons, runsFrom_cons, h]
    | succ i => rw [List.set_cons_succ, runsFrom_cons, runsFrom_cons, ih (by simpa using hi)]

theorem mem_runsFrom : (i, test) ∈ runsFrom rid n stages ↔
    n ≤ i ∧ ∃ stage, stages[i - n]? = some stage ∧ stage.testFor? rid = some test := by
  induction stages generalizing n with
  | nil => simp [runsFrom]
  | cons x rest ih =>
    rw [runsFrom_cons, List.mem_append, ih]
    constructor
    · rintro (h | ⟨hle, stage, hstage, ht⟩)
      · rw [Option.mem_toList, Option.map_eq_some_iff] at h
        obtain ⟨test', ht, h⟩ := h
        cases h
        exact ⟨Nat.le_refl _, x, by simp, ht⟩
      · refine ⟨by omega, stage, ?_, ht⟩
        rwa [show i - n = (i - (n + 1)) + 1 by omega, List.getElem?_cons_succ]
    · rintro ⟨hle, stage, hstage, ht⟩
      rcases Nat.eq_or_lt_of_le hle with rfl | hlt
      · rw [Nat.sub_self, List.getElem?_cons_zero, Option.some.injEq] at hstage
        subst hstage
        exact .inl (by simp [ht])
      · refine .inr ⟨hlt, stage, ?_, ht⟩
        rwa [show i - n = (i - (n + 1)) + 1 by omega, List.getElem?_cons_succ] at hstage

theorem nodup_map_runsFrom : ((runsFrom rid n stages).map (·.1)).Nodup := by
  induction stages generalizing n with
  | nil => exact List.nodup_nil
  | cons x rest ih =>
    rw [runsFrom_cons]
    cases x.testFor? rid with
    | none => exact ih
    | some test =>
      rw [Option.map_some, Option.toList_some, List.singleton_append, List.map_cons,
        List.nodup_cons]
      refine ⟨fun h => ?_, ih⟩
      obtain ⟨⟨j, test'⟩, hmem, rfl⟩ := List.mem_map.mp h
      have hle := (mem_runsFrom.mp hmem).1
      omega

/-- The runs that are launched for one analysis are runs for it alone. -/
theorem map_runsFrom_launched (r : Runner) (ctx : UnitContext) (tests : List SecurityTest) :
    (runsFrom rid n ((tests.map (.run ctx)).map (Stage.begin r))).map (·.2) =
      if ctx.rid = rid then tests else [] := by
  induction tests generalizing n with
  | nil => simp [runsFrom]
  | cons test rest ih =>
    rw [List.map_cons, List.map_cons, runsFrom_cons, List.map_append, ih, Stage.testFor?_begin]
    by_cases h : ctx.rid = rid <;> simp [Errand.run?, h]

/-! ## Accounts of a staging -/

namespace Staging

variable {r : Runner} {w : Surroundings} {c c' : Staging}

theorem nodup_places : (c.account r rid).places.Nodup := nodup_map_runsFrom

theorem mem_runs : (i, test) ∈ (c.account r rid).runs ↔
    ∃ stage, c.stages[i]? = some stage ∧ stage.testFor? rid = some test := by
  rw [account, mem_runsFrom]
  simp

/-- Whoever takes itself to have a job is a run of the test of that job. -/
theorem exists_run_of_known {job : Job} (h : (c.account r rid).known i = some job) :
    ∃ (ctx : UnitContext) (stage : RunStage), ctx.rid = rid ∧
      c.stages[i]? = some (.run ctx job.securityTest stage) ∧
      stage.entry? r job.securityTest = some job := by
  obtain ⟨stage, hi, hentry⟩ := Option.bind_eq_some_iff.mp h
  cases stage with
  | run ctx test stage =>
    rw [Stage.entryFor?] at hentry
    split at hentry
    · next hrid =>
      obtain rfl := RunStage.securityTest_of_entry? hentry
      exact ⟨ctx, stage, hrid, hi, hentry⟩
    · cases hentry
  | admission | status | plain => cases hentry

theorem account_sane : (c.account r rid).Sane := by
  intro i job h
  obtain ⟨ctx, stage, hrid, hi, -⟩ := exists_run_of_known h
  exact mem_runs.mpr ⟨_, hi, by rw [Stage.testFor?, if_pos hrid]⟩

/-- What a task that goes on means for the account. -/
theorem account_goOn {old stage : Stage} (hi : c.stages[i]? = some old)
    (ht : stage.testFor? rid = old.testFor? rid) (launched : List Errand) :
    (c.goOn r i stage launched).account r rid =
      { runs := (c.account r rid).runs ++
          runsFrom rid c.stages.length (launched.map (Stage.begin r))
        known := Function.update (c.account r rid).known i (stage.entryFor? r rid)
        owners := (c.account r rid).owners } := by
  refine Account.ext ?_ (funext fun j => ?_) rfl
  · simp only [account, goOn]
    rw [runsFrom_append, runsFrom_set hi ht, List.length_set, Nat.zero_add]
  · show (c.goOn r i stage launched).stages[j]?.bind (Stage.entryFor? r rid) =
      Function.update (c.account r rid).known i (stage.entryFor? r rid) j
    rw [Function.update_apply]
    by_cases hj : j = i
    · rw [if_pos hj, hj, getElem?_goOn_self hi, Option.bind_some]
    · have hknown : (c.account r rid).known j = c.stages[j]?.bind (Stage.entryFor? r rid) := rfl
      rw [if_neg hj, hknown]
      cases hold : c.stages[j]? with
      | some x => rw [getElem?_goOn_of_ne hold hj]
      | none =>
        -- whoever stands there now has just begun
        cases hx : (c.goOn r i stage launched).stages[j]? with
        | none => rfl
        | some x =>
          rcases stages_goOn hx with ⟨hji, -⟩ | ⟨-, hx⟩ | ⟨e, -, rfl⟩
          · exact absurd hji hj
          · rw [hold] at hx
            cases hx
          · exact Stage.entryFor?_begin r rid e

/-- A task that goes on with as much, or as little, to do with the analysis as before, adds nothing
to its account but the runs it launches. -/
theorem account_goOn_of_eq {old stage : Stage} (hi : c.stages[i]? = some old)
    (ht : stage.testFor? rid = old.testFor? rid) (he : stage.entryFor? r rid = old.entryFor? r rid)
    (launched : List Errand) :
    (c.goOn r i stage launched).account r rid =
      { c.account r rid with
        runs := (c.account r rid).runs ++
          runsFrom rid c.stages.length (launched.map (Stage.begin r)) } := by
  have hknown : (c.account r rid).known i = old.entryFor? r rid := by
    simp only [account, hi, Option.bind_some]
  rw [account_goOn hi ht, he, ← hknown, Function.update_eq_self]

theorem account_goOn_nil_of_eq {old stage : Stage} (hi : c.stages[i]? = some old)
    (ht : stage.testFor? rid = old.testFor? rid)
    (he : stage.entryFor? r rid = old.entryFor? r rid) :
    (c.goOn r i stage []).account r rid = c.account r rid := by
  rw [account_goOn_of_eq hi ht he, List.map_nil, runsFrom, List.append_nil]

/-- Launching runs for another analysis changes nothing about the account. -/
theorem runsFrom_launched_of_ne {ctx : UnitContext} (hne : ctx.rid ≠ rid)
    (tests : List SecurityTest) :
    runsFrom rid n ((tests.map (.run ctx)).map (Stage.begin r)) = [] := by
  have h : (runsFrom rid n ((tests.map (.run ctx)).map (Stage.begin r))).map (·.2) = _ :=
    map_runsFrom_launched r ctx tests
  rw [if_neg hne] at h
  exact List.map_eq_nil_iff.mp h

/-- What an entry that is recorded means for the account. -/
theorem account_record (c : Staging) (m : Store.Memory) (recorded : List (Uuid × Nat))
    (rid : Uuid) :
    ({ c with store := m, recorded := c.recorded ++ recorded } : Staging).account r rid =
      { c.account r rid with
        owners := (c.account r rid).owners ++ (recorded.filter (·.1 == rid)).map (·.2) } := by
  simp [account]

end Staging
end Service
end ScanService
