import ScanService.Service.Admission

/-!
# Ends of analyses

An analysis ends in two ways: readers are told that it has ended as soon as it is complete, and at
some later time an admission stores that it has.  The two must not contradict each other.
`EndIsEarned` says of a record that a stored end is what a reader would have been told without it;
storing the end of a complete analysis makes such a record of it, and readers do not notice
(`finalization_apply`).
-/

namespace ScanService
namespace Analysis

/-- An end that is stored is what a reader would be told if it were not. -/
def EndIsEarned (a : Analysis) : Prop :=
  a.status = .finished → { a with status := .running }.aggregate = a.aggregate

variable {a : Analysis}

/-- What a reader is told of an analysis that is stored as running. -/
theorem aggregate_of_running (h : a.status = .running) : a.aggregate =
    if a.isComplete then
      ⟨.finished, some (.combine (a.jobs.map Job.outcome)),
        some ((Timestamp.latest? (a.jobs.filterMap (·.finishedAt))).getD a.startedAt)⟩
    else ⟨.running, none, none⟩ := by
  rw [aggregate, h]

theorem isComplete_of_aggregate (hr : a.status = .running) (h : a.aggregate.status = .finished) :
    a.isComplete = true := by
  rw [aggregate_of_running hr] at h
  split at h
  · assumption
  · cases h

/-- An analysis that a reader is told has ended is complete. -/
theorem EndIsEarned.isComplete (he : a.EndIsEarned) (h : a.aggregate.status = .finished) :
    a.isComplete = true := by
  cases hs : a.status with
  | running => exact isComplete_of_aggregate hs h
  | finished =>
    have hrunning : ({ a with status := .running } : Analysis).isComplete = true := by
      refine isComplete_of_aggregate rfl ?_
      rw [he hs, h]
    exact hrunning

/-- What a reader is told of an analysis that has ended depends on its jobs alone, wherever the end
is stored. -/
theorem EndIsEarned.aggregate_eq (he : a.EndIsEarned) (hc : a.isComplete = true) : a.aggregate =
    ⟨.finished, some (.combine (a.jobs.map Job.outcome)),
      some ((Timestamp.latest? (a.jobs.filterMap (·.finishedAt))).getD a.startedAt)⟩ := by
  cases hs : a.status with
  | running => rw [aggregate_of_running hs, if_pos hc]
  | finished =>
    have hrunning : ({ a with status := .running } : Analysis).isComplete = true := hc
    rw [← he hs, aggregate_of_running rfl, if_pos hrunning]

theorem endIsEarned_of_running (h : a.status = .running) : a.EndIsEarned := by
  intro hf
  rw [h] at hf
  cases hf

/-- **Storing the end of a complete analysis makes it what its readers are told already.** -/
theorem finalization_apply (hr : a.status = .running) (hc : a.isComplete = true) :
    (Service.finalization a).apply a = a.snapshot := by
  simp [Service.finalization, Store.AnalysisPatch.apply, snapshot, aggregate_of_running hr, hc]

/-- A record that says what readers are told says it to its own readers. -/
theorem aggregate_snapshot (a : Analysis) : a.snapshot.aggregate = a.aggregate := by
  cases hstatus : a.status with
  | finished =>
    have hstored : a.aggregate = ⟨.finished, a.result, a.finishedAt⟩ := by rw [aggregate, hstatus]
    rw [aggregate, snapshot, hstored]
  | running =>
    cases hcomplete : a.isComplete with
    | true =>
      have hended := aggregate_of_running hstatus
      rw [hcomplete, if_pos rfl] at hended
      rw [aggregate, snapshot, hended]
    | false =>
      have hrunning : a.aggregate = ⟨.running, none, none⟩ := by
        rw [aggregate_of_running hstatus, hcomplete, if_neg Bool.false_ne_true]
      have hleft : a.snapshot.isComplete = false := hcomplete
      have hstored : a.snapshot.status = .running := congrArg Aggregate.status hrunning
      rw [aggregate_of_running hstored, hleft, if_neg Bool.false_ne_true, hrunning]

/-- **A snapshot of a snapshot is that snapshot.** -/
theorem snapshot_snapshot (a : Analysis) : a.snapshot.snapshot = a.snapshot := by
  have hs := a.aggregate_snapshot
  simp only [snapshot] at hs ⊢
  rw [hs]

theorem EndIsEarned.snapshot (he : a.EndIsEarned) (hc : a.isComplete = true) :
    a.snapshot.EndIsEarned := by
  intro _
  have hrunning : ({ a.snapshot with status := .running } : Analysis).isComplete = true := hc
  rw [aggregate_snapshot, he.aggregate_eq hc, aggregate_of_running rfl, if_pos hrunning]
  rfl

@[simp] theorem status_snapshot (a : Analysis) : a.snapshot.status = a.aggregate.status := rfl

end Analysis
end ScanService
