import Mathlib.Data.List.Perm.Subperm
import Mathlib.Data.Multiset.Defs
import ScanService.Proofs.Admission.Ends

/-!
# The policy behind an aggregate

An aggregate is computed with counts, an early exit and a search for the latest time.  What it
should be is said without any of them by a relation, `Analysis.Policy`: which tests must have
entries is an inclusion of multisets, the result is told by which outcomes there are, and the time
of ending by the order of the times.  Nothing in the relation knows an order of jobs or of tests, so
the aggregate does not either.

## What is here

* `Timestamp.latest?_eq_some_iff` — the latest time is the greatest.
* `Verdict.combineFrom` — the result as a loop over the outcomes finds it, stopping at a failure.
* `Analysis.IsDone`, `Analysis.isComplete_iff_isDone` — an analysis of which nothing is left to do.
* `Analysis.Policy`, `Analysis.policy_iff` — the aggregate is the only one by the policy.
* `Analysis.aggregate_reference` — **the aggregate is what the policy says, in every order of jobs
  and tests; snapshots of snapshots and stored ends add nothing to it.**
-/

namespace ScanService

/-! ## Times -/

namespace Timestamp

theorem later_eq_or (s t : Timestamp) : later s t = s ∨ later s t = t := by
  rw [later]
  split
  · exact .inr rfl
  · exact .inl rfl

theorem le_later_left (s t : Timestamp) : s ≤ later s t := by
  rw [later]
  split
  · assumption
  · exact Int.le_refl _

theorem le_later_right (s t : Timestamp) : t ≤ later s t := by
  rw [later]
  split
  · exact Int.le_refl _
  · next h => exact Int.le_of_lt (Int.not_le.mp h)

theorem le_trans {s t u : Timestamp} (hst : s ≤ t) (htu : t ≤ u) : s ≤ u := Int.le_trans hst htu

theorem le_antisymm {s t : Timestamp} (hst : s ≤ t) (hts : t ≤ s) : s = t :=
  rank_inj (Int.le_antisymm hst hts)

/-- The time found so far is that of a time already seen, and none of them is later. -/
theorem foldl_later (s : Timestamp) (ts : List Timestamp) :
    ts.foldl later s ∈ s :: ts ∧ ∀ u ∈ s :: ts, u ≤ ts.foldl later s := by
  induction ts generalizing s with
  | nil => exact ⟨List.mem_singleton_self _, fun u hu => List.mem_singleton.mp hu ▸ Int.le_refl _⟩
  | cons t rest ih =>
    obtain ⟨hmem, hle⟩ := ih (later s t)
    have hlater := hle _ List.mem_cons_self
    refine ⟨?_, fun u hu => ?_⟩
    · rcases List.mem_cons.mp hmem with he | hrest
      · rw [List.foldl_cons, he]
        rcases later_eq_or s t with hs | ht
        · rw [hs]
          exact List.mem_cons_self
        · rw [ht]
          exact List.mem_cons_of_mem _ List.mem_cons_self
      · exact List.mem_cons_of_mem _ (List.mem_cons_of_mem _ hrest)
    · rcases List.mem_cons.mp hu with rfl | hu
      · exact le_trans (le_later_left _ _) hlater
      · rcases List.mem_cons.mp hu with rfl | hu
        · exact le_trans (le_later_right _ _) hlater
        · exact hle u (List.mem_cons_of_mem _ hu)

theorem latest?_eq_none_iff {ts : List Timestamp} : latest? ts = none ↔ ts = [] := by
  cases ts with
  | nil => exact ⟨fun _ => rfl, fun _ => rfl⟩
  | cons t rest => exact ⟨nofun, nofun⟩

/-- **The latest of some times is the greatest of them.** -/
theorem latest?_eq_some_iff {ts : List Timestamp} {t : Timestamp} :
    latest? ts = some t ↔ t ∈ ts ∧ ∀ u ∈ ts, u ≤ t := by
  cases ts with
  | nil => exact ⟨nofun, fun h => by cases h.1⟩
  | cons s rest =>
    obtain ⟨hmem, hle⟩ := foldl_later s rest
    constructor
    · intro h
      cases h
      exact ⟨hmem, hle⟩
    · intro ⟨ht, hgreatest⟩
      rw [latest?, le_antisymm (hgreatest _ hmem) (hle _ ht)]

end Timestamp

/-! ## Outcomes -/

namespace Verdict

/-- The loop over the outcomes: a failure ends it, an error is kept in mind. -/
def combineFrom (result : Verdict) : List Verdict → Verdict
  | [] => result
  | failed :: _ => failed
  | error :: rest => combineFrom error rest
  | passed :: rest => combineFrom result rest

/-- What is in mind counts as one more outcome. -/
theorem combineFrom_eq {result : Verdict} (h : result ≠ failed) (outcomes : List Verdict) :
    combineFrom result outcomes = combine (result :: outcomes) := by
  induction outcomes generalizing result with
  | nil => cases result <;> first | exact absurd rfl h | decide
  | cons v rest ih =>
    cases v with
    | failed => rw [combineFrom, combine, if_pos (by simp)]
    | error =>
      rw [combineFrom, ih (by decide)]
      cases result <;> simp_all [combine]
    | passed =>
      rw [combineFrom, ih h]
      cases result <;> simp_all [combine]

/-- **The loop finds the result.** -/
theorem combineFrom_passed (outcomes : List Verdict) :
    combineFrom passed outcomes = combine outcomes := by
  rw [combineFrom_eq (by decide)]
  simp [combine]

theorem combine_eq_failed_iff {outcomes : List Verdict} :
    combine outcomes = failed ↔ failed ∈ outcomes := by
  rw [combine]
  split
  · next h => exact iff_of_true rfl h
  · next h => split <;> exact iff_of_false nofun h

theorem combine_eq_error_iff {outcomes : List Verdict} :
    combine outcomes = error ↔ failed ∉ outcomes ∧ error ∈ outcomes := by
  rw [combine]
  split
  · next h => exact iff_of_false nofun fun hne => hne.1 h
  · next h =>
    split
    · next herror => exact iff_of_true rfl ⟨h, herror⟩
    · next herror => exact iff_of_false nofun fun he => herror he.2

theorem combine_eq_passed_iff {outcomes : List Verdict} :
    combine outcomes = passed ↔ ∀ v ∈ outcomes, v = passed := by
  rw [combine]
  split
  · next h => exact iff_of_false nofun fun hall => by cases hall _ h
  · next hfailed =>
    split
    · next h => exact iff_of_false nofun fun hall => by cases hall _ h
    · next herror =>
      refine iff_of_true rfl fun v hv => ?_
      cases v with
      | passed => rfl
      | failed => exact absurd hv hfailed
      | error => exact absurd hv herror

/-- Halves can be combined first. -/
theorem combine_append (xs ys : List Verdict) :
    combine (xs ++ ys) = combine [combine xs, combine ys] := by
  cases h : combine [combine xs, combine ys] with
  | failed =>
    rw [combine_eq_failed_iff] at h ⊢
    simp only [List.mem_cons, List.not_mem_nil, or_false, eq_comm (a := failed),
      combine_eq_failed_iff] at h
    exact List.mem_append.mpr h
  | error =>
    rw [combine_eq_error_iff] at h ⊢
    simp only [List.mem_cons, List.not_mem_nil, or_false, eq_comm (a := failed),
      eq_comm (a := error), combine_eq_failed_iff, combine_eq_error_iff, not_or] at h
    obtain ⟨⟨hxs, hys⟩, h⟩ := h
    refine ⟨fun hmem => (List.mem_append.mp hmem).elim hxs hys, List.mem_append.mpr ?_⟩
    exact h.imp And.right And.right
  | passed =>
    rw [combine_eq_passed_iff] at h ⊢
    simp only [List.mem_cons, List.not_mem_nil, or_false, forall_eq_or_imp, forall_eq,
      combine_eq_passed_iff] at h
    exact fun v hv => (List.mem_append.mp hv).elim (h.1 v) (h.2 v)

end Verdict

/-! ## The policy -/

theorem JobStatus.isTerminal_iff {s : JobStatus} :
    s.isTerminal = true ↔ s = .finished ∨ s = .error := by
  cases s <;> decide

/-- What a job comes to: an error if it ended in one, else its verdict, of which none counts as
passed. -/
inductive Job.ComesTo (j : Job) : Verdict → Prop
  /-- The job ended in an error. -/
  | error (hstatus : j.status = .error) : ComesTo j .error
  /-- The job has a verdict. -/
  | verdict (hstatus : j.status ≠ .error) {v : Verdict} (hverdict : j.verdict = some v) : ComesTo j v
  /-- The job has none. -/
  | unset (hstatus : j.status ≠ .error) (hverdict : j.verdict = none) : ComesTo j .passed

theorem Job.comesTo_iff {j : Job} {v : Verdict} : j.ComesTo v ↔ j.outcome = v := by
  constructor
  · intro h
    cases h with
    | error hstatus => rw [outcome, hstatus]
    | verdict hstatus hverdict =>
      rw [outcome, hverdict]
      split
      · next he => exact absurd he hstatus
      · rfl
    | unset hstatus hverdict =>
      rw [outcome, hverdict]
      split
      · next he => exact absurd he hstatus
      · rfl
  · rintro rfl
    rw [outcome]
    split
    · next he => exact .error he
    · next hne =>
      cases hverdict : j.verdict with
      | none => exact .unset hne hverdict
      | some v => exact .verdict hne hverdict

namespace Analysis

/-- Nothing is left to do: the pending tests are among those with an entry, each as often as it is
pending, and every entry is terminal. -/
structure IsDone (a : Analysis) : Prop where
  /-- The pending tests have entries. -/
  started : (a.pendingNames : Multiset String) ≤ (a.startedNames : Multiset String)
  /-- The entries are terminal. -/
  terminal : ∀ j ∈ a.jobs, j.status = .finished ∨ j.status = .error

/-- **An analysis is complete if nothing of it is left to do.** -/
theorem isComplete_iff_isDone {a : Analysis} : a.isComplete = true ↔ a.IsDone := by
  rw [isComplete_iff, ← List.subperm_ext_iff, ← Multiset.coe_le]
  constructor
  · intro ⟨hstarted, hterminal⟩
    exact ⟨hstarted, fun j hj => JobStatus.isTerminal_iff.mp (hterminal j hj)⟩
  · intro ⟨hstarted, hterminal⟩
    exact ⟨hstarted, fun j hj => JobStatus.isTerminal_iff.mpr (hterminal j hj)⟩

/-- The result of an analysis whose jobs have come to this. -/
def HasResult (a : Analysis) : Verdict → Prop
  | .failed => ∃ j ∈ a.jobs, j.ComesTo .failed
  | .error => (¬∃ j ∈ a.jobs, j.ComesTo .failed) ∧ ∃ j ∈ a.jobs, j.ComesTo .error
  | .passed => ∀ j ∈ a.jobs, j.ComesTo .passed

/-- The time at which an analysis ended: the latest at which a job did, and its beginning if there is
none. -/
inductive EndedAt (a : Analysis) : Timestamp → Prop
  /-- A job ended then, and none later. -/
  | last {j : Job} (hj : j ∈ a.jobs) {t : Timestamp} (ht : j.finishedAt = some t)
      (hlast : ∀ k ∈ a.jobs, ∀ u, k.finishedAt = some u → u ≤ t) : EndedAt a t
  /-- No job has a time of ending. -/
  | beginning (hnone : ∀ j ∈ a.jobs, j.finishedAt = none) : EndedAt a a.startedAt

/-- What readers are to be told. -/
inductive Policy (a : Analysis) : Aggregate → Prop
  /-- A stored end stands. -/
  | stored (hstatus : a.status = .finished) : Policy a ⟨.finished, a.result, a.finishedAt⟩
  /-- Something is left to do. -/
  | running (hstatus : a.status = .running) (hleft : ¬a.IsDone) : Policy a ⟨.running, none, none⟩
  /-- Nothing is left to do. -/
  | ended (hstatus : a.status = .running) (hdone : a.IsDone) {v : Verdict} (hv : a.HasResult v)
      {t : Timestamp} (ht : a.EndedAt t) : Policy a ⟨.finished, some v, some t⟩

variable {a : Analysis}

/-- The result is found from the outcomes. -/
theorem hasResult_iff {v : Verdict} : a.HasResult v ↔ .combine (a.jobs.map Job.outcome) = v := by
  cases v with
  | failed => simp only [HasResult, Job.comesTo_iff, Verdict.combine_eq_failed_iff, List.mem_map]
  | error => simp only [HasResult, Job.comesTo_iff, Verdict.combine_eq_error_iff, List.mem_map]
  | passed =>
    simp only [HasResult, Job.comesTo_iff, Verdict.combine_eq_passed_iff, List.forall_mem_map]

/-- The time of ending is found from the times of the jobs. -/
theorem endedAt_iff {t : Timestamp} : a.EndedAt t ↔
    (Timestamp.latest? (a.jobs.filterMap (·.finishedAt))).getD a.startedAt = t := by
  cases hlatest : Timestamp.latest? (a.jobs.filterMap (·.finishedAt)) with
  | none =>
    have hnone := List.filterMap_eq_nil_iff.mp (Timestamp.latest?_eq_none_iff.mp hlatest)
    constructor
    · intro h
      cases h with
      | last hj ht hlast => rw [hnone _ hj] at ht; cases ht
      | beginning => rfl
    · rintro rfl
      exact .beginning hnone
  | some u =>
    obtain ⟨hu, hgreatest⟩ := Timestamp.latest?_eq_some_iff.mp hlatest
    obtain ⟨k, hk, hku⟩ := List.mem_filterMap.mp hu
    constructor
    · intro h
      cases h with
      | last hj ht hlast =>
        exact Timestamp.le_antisymm (hlast k hk u hku) (hgreatest _ (List.mem_filterMap.mpr ⟨_, hj, ht⟩))
      | beginning hnone => rw [hnone k hk] at hku; cases hku
    · rintro rfl
      exact .last hk hku fun j hj t ht => hgreatest t (List.mem_filterMap.mpr ⟨j, hj, ht⟩)

/-- **The aggregate is the one that the policy asks for**, and there is no other. -/
theorem policy_iff {x : Aggregate} : a.Policy x ↔ x = a.aggregate := by
  constructor
  · intro h
    cases h with
    | stored hstatus => rw [aggregate, hstatus]
    | running hstatus hleft =>
      rw [aggregate_of_running hstatus, if_neg (mt isComplete_iff_isDone.mp hleft)]
    | ended hstatus hdone hv ht =>
      rw [aggregate_of_running hstatus, if_pos (isComplete_iff_isDone.mpr hdone),
        hasResult_iff.mp hv, endedAt_iff.mp ht]
  · rintro rfl
    cases hstatus : a.status with
    | finished =>
      rw [aggregate, hstatus]
      exact .stored hstatus
    | running =>
      rw [aggregate_of_running hstatus]
      split
      · next hcomplete =>
        exact .ended hstatus (isComplete_iff_isDone.mp hcomplete) (hasResult_iff.mpr rfl)
          (endedAt_iff.mpr rfl)
      · next hleft => exact .running hstatus (mt isComplete_iff_isDone.mpr hleft)

/-! ## The order of jobs and tests -/

variable {jobs : List Job} {tests : List SecurityTest}

theorem IsDone.perm (h : a.IsDone) (hj : jobs.Perm a.jobs) (ht : tests.Perm a.securityTests) :
    ({ a with jobs := jobs, securityTests := tests } : Analysis).IsDone where
  started := by
    have hpending : (tests.map (·.name)).Perm a.pendingNames := ht.map _
    have hstarted : (jobs.map Job.testName).Perm a.startedNames := hj.map _
    have hle := h.started
    rwa [← Multiset.coe_eq_coe.mpr hpending, ← Multiset.coe_eq_coe.mpr hstarted] at hle
  terminal j hmem := h.terminal j (hj.mem_iff.mp hmem)

theorem HasResult.perm {v : Verdict} (h : a.HasResult v) (hj : jobs.Perm a.jobs) :
    ({ a with jobs := jobs, securityTests := tests } : Analysis).HasResult v := by
  cases v <;> simp only [HasResult, hj.mem_iff] <;> exact h

theorem EndedAt.perm {t : Timestamp} (h : a.EndedAt t) (hj : jobs.Perm a.jobs) :
    ({ a with jobs := jobs, securityTests := tests } : Analysis).EndedAt t := by
  cases h with
  | last hmem ht hlast =>
    exact .last (hj.mem_iff.mpr hmem) ht fun k hk => hlast k (hj.mem_iff.mp hk)
  | beginning hnone => exact .beginning fun j hmem => hnone j (hj.mem_iff.mp hmem)

/-- The policy does not look at the order of jobs or tests. -/
theorem Policy.perm {x : Aggregate} (h : a.Policy x) (hj : jobs.Perm a.jobs)
    (ht : tests.Perm a.securityTests) :
    ({ a with jobs := jobs, securityTests := tests } : Analysis).Policy x := by
  cases h with
  | stored hstatus => exact .stored hstatus
  | running hstatus hleft =>
    exact .running hstatus fun hdone => hleft (hdone.perm hj.symm ht.symm)
  | ended hstatus hdone hv htime =>
    refine .ended ?_ (hdone.perm hj ht) (hv.perm hj) (htime.perm hj)
    exact hstatus

/-! ## The aggregate -/

/-- **The aggregate is what the policy asks for.**  An analysis is complete if nothing of it is left
to do; the aggregate is the only one by the policy, whatever the order of jobs and tests; the result
is found by a loop over the outcomes, and from the results of two halves; a snapshot of a snapshot
adds nothing; and storing the end of a complete analysis makes a snapshot of it. -/
theorem aggregate_reference :
    (∀ a : Analysis, a.isComplete = true ↔ a.IsDone) ∧
    (∀ (a : Analysis) (x : Aggregate), a.Policy x ↔ x = a.aggregate) ∧
    (∀ (a : Analysis) (jobs : List Job) (tests : List SecurityTest), jobs.Perm a.jobs →
      tests.Perm a.securityTests →
      ({ a with jobs := jobs, securityTests := tests } : Analysis).aggregate = a.aggregate) ∧
    (∀ outcomes, Verdict.combineFrom .passed outcomes = .combine outcomes) ∧
    (∀ xs ys, Verdict.combine (xs ++ ys) = .combine [.combine xs, .combine ys]) ∧
    (∀ a : Analysis, a.snapshot.snapshot = a.snapshot) ∧
    (∀ a : Analysis, a.status = .running → a.isComplete = true →
      (Service.finalization a).apply a = a.snapshot) := by
  refine ⟨fun a => isComplete_iff_isDone, fun a x => policy_iff, ?order, Verdict.combineFrom_passed,
    Verdict.combine_append, snapshot_snapshot, fun a => finalization_apply⟩
  case order =>
    intro a jobs tests hj ht
    exact (policy_iff.mp ((policy_iff.mpr rfl).perm hj ht)).symm

/-! ### A sample -/

/-- An hour of a day. -/
def sampleTime (hour : Fin 24) : Timestamp :=
  ⟨⟨2024, 1, 1, by decide⟩, hour, 0, 0, 0, by revert hour; decide⟩

/-- An analysis of two tests, of which the second came to its end first. -/
def sampleAnalysis : Analysis :=
  let bandit := ⟨"bandit", "bandit", "latest", "bandit", "python", true, 60⟩
  let safety := ⟨"safety", "safety", "latest", "safety", "python", true, 60⟩
  { Analysis.admitted default "https://github.com/acme/api.git" [bandit, safety] (sampleTime 0) with
    jobs :=
      [{ Job.created bandit "unit" with status := .finished, finishedAt := some (sampleTime 2) },
        Job.notCreated safety "Execution error" (sampleTime 1)] }

/-- The jobs and the tests can be listed the other way round, and the end can be stored. -/
theorem aggregate_reference_sample :
    { sampleAnalysis with
      jobs := sampleAnalysis.jobs.reverse
      securityTests := sampleAnalysis.securityTests.reverse }.aggregate =
      ⟨.finished, some .error, some (sampleTime 2)⟩ ∧
    (Service.finalization sampleAnalysis).apply sampleAnalysis = sampleAnalysis.snapshot := by
  obtain ⟨-, -, horder, -, -, -, hend⟩ := aggregate_reference
  refine ⟨?_, hend sampleAnalysis rfl (by decide)⟩
  rw [horder sampleAnalysis _ _ (List.reverse_perm _) (List.reverse_perm _)]
  decide

end Analysis
end ScanService
