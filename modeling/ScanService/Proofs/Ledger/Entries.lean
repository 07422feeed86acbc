import ScanService.Proofs.Ledger.Exact
import ScanService.Proofs.Ledger.Units

/-!
# Entries beside those of others

When runs begin around a store that holds entries already, the entries of an analysis are those that
it had and one for each run that has recorded one since.  Others may do to their own entries what
they like, and where the backend has given an identifier twice, to those of others.  But as long as a
unit belongs to one run alone, the entry in it is what this run takes its job to be
(`Account.Extends`).

## What is here

* `Account.Move.extends_of` — **the entry of a unit of one's own is not touched by others.**
* `Crowd.HasToItself` — a unit that belongs to one run alone.
* `Staging.extends_history` — with a reliable store this is so in all histories.
-/

namespace ScanService

open Store (JobPatch AnalysisPatch editJob)

namespace Store

/-- The entries of an analysis. -/
def Memory.entriesOf (m : Memory) (rid : Uuid) : List Job :=
  ((m.analyses.find? (·.rid == rid)).map Analysis.jobs).getD []

theorem Memory.entriesOf_of_mem {m : Memory} (hn : (m.analyses.map Analysis.rid).Nodup)
    {a : Analysis} (ha : a ∈ m.analyses) : m.entriesOf a.rid = a.jobs := by
  rw [entriesOf, (find?_rid_eq_some_iff hn).mpr ⟨ha, rfl⟩]
  rfl

theorem Memory.entriesOf_of_not_mem {m : Memory} {rid : Uuid}
    (h : rid ∉ m.analyses.map Analysis.rid) : m.entriesOf rid = [] := by
  have hnone : m.analyses.find? (·.rid == rid) = none := by
    refine List.find?_eq_none.mpr fun a ha hrid => h ?_
    exact beq_iff_eq.mp hrid ▸ List.mem_map_of_mem ha
  rw [entriesOf, hnone]
  rfl

/-- Changes of entries leave their units. -/
theorem map_executionId_editJob (id : String) (p : JobPatch) (jobs : List Job) :
    (editJob id p jobs).map Job.executionId = jobs.map Job.executionId := by
  induction jobs with
  | nil => rfl
  | cons j rest ih =>
    rw [editJob_cons]
    split
    · rfl
    · rw [List.map_cons, List.map_cons, ih]

/-- The first entry of a unit is changed, wherever it is. -/
theorem editJob_append (id : String) (p : JobPatch) (old new : List Job) :
    (some id ∈ old.map Job.executionId ∧
        editJob id p (old ++ new) = editJob id p old ++ new) ∨
      (some id ∉ old.map Job.executionId ∧
        editJob id p (old ++ new) = old ++ editJob id p new) := by
  induction old with
  | nil => exact .inr ⟨List.not_mem_nil, rfl⟩
  | cons j rest ih =>
    rw [List.cons_append, editJob_cons, editJob_cons, List.map_cons, List.mem_cons]
    by_cases hj : j.executionId = some id
    · rw [if_pos hj, if_pos hj]
      exact .inl ⟨.inl hj.symm, rfl⟩
    · rw [if_neg hj, if_neg hj]
      rcases ih with ⟨hmem, he⟩ | ⟨hmem, he⟩
      · exact .inl ⟨.inr hmem, by rw [he, List.cons_append]⟩
      · refine .inr ⟨?_, by rw [he, List.cons_append]⟩
        rintro (h | h)
        · exact hj h.symm
        · exact hmem h

end Store

/-- An entry is one of its run's, and if the run's unit is `u` it is all that the run takes its job to
be. -/
def Job.Shows (u : Option String) (j job : Job) : Prop :=
  j.Matches job ∧ (job.executionId = u → j = job)

namespace Service
namespace Account

variable {k k' : Account} {i : Nat} {a : Analysis} {job : Job} {lost : Prop}
  {f : Analysis → Analysis} {u : Option String} {before : List Job}

/-- The analysis has the entries that it had before, as far as their units are concerned, and behind
them one for each run that takes itself to have a job. -/
structure Extends (u : Option String) (before : List Job) (k : Account) (a : Analysis) : Prop where
  /-- Whoever takes itself to have a job owns an entry. -/
  owned : ∀ i job, k.known i = some job → i ∈ k.owners
  /-- No run has two entries. -/
  nodup : k.owners.Nodup
  /-- The entries are those from before and those of the owners. -/
  entries : ∃ old new, a.jobs = old ++ new ∧
    old.map Job.executionId = before.map Job.executionId ∧
      Tracks (Job.Shows u) k.known k.owners new

/-- Whoever takes itself to have a job has an entry in its unit. -/
theorem Extends.exists_entry (h : k.Extends u before a) (hk : k.known i = some job) :
    ∃ j ∈ a.jobs, j.executionId = job.executionId := by
  obtain ⟨old, new, hjobs, -, htracks⟩ := h.entries
  obtain ⟨j, hj, job', hk', hshows⟩ := exists_mem_of_forall₂ htracks.flip (h.owned i job hk)
  obtain rfl : job' = job := Option.some.inj (hk'.symm.trans hk)
  exact ⟨j, hjobs ▸ List.mem_append_right _ hj, hshows.1.1⟩

/-- A change of entries in another unit. -/
theorem Tracks.change_of_ne {known : Nat → Option Job} {owners : List Nat} {jobs : List Job}
    (h : Tracks (Job.Shows u) known owners jobs) {id : String} {p : JobPatch}
    (hk : known i = some job) (hid : job.executionId = some id) (hne : u ≠ some id) :
    Tracks (Job.Shows u) (Function.update known i (some (p.apply job))) owners
      (editJob id p jobs) := by
  have hlearn : Tracks (Job.Shows u) (Function.update known i (some (p.apply job))) owners jobs :=
    h.learn hk fun j hj => ⟨hj.1, fun hu => absurd (hu.symm.trans hid) hne⟩
  refine forall₂_comp ?_ hlearn (Store.forall₂_editJob id p jobs)
  rintro i' j j' ⟨job', hk', hm, hshows⟩ (rfl | ⟨hid', rfl⟩)
  · exact ⟨job', hk', hm, hshows⟩
  · exact ⟨job', hk', hm, fun hu => absurd (hu.symm.trans (hm.1.symm.trans hid')) hne⟩

/-- **The entry of a unit of one's own is not touched by others**, as long as nothing is lost. -/
theorem Move.extends_of (h : Move lost i k k' f) (hl : ¬lost)
    (hbefore : ∀ id, u = some id → some id ∉ before.map Job.executionId)
    (halone : ∀ id, u = some id → ∀ i₁ i₂ job₁ job₂, k.known i₁ = some job₁ →
      k.known i₂ = some job₂ → job₁.executionId = some id → job₂.executionId = some id → i₁ = i₂)
    (hk : k.Extends u before a) : k'.Extends u before (f a) := by
  obtain ⟨old, new, hjobs, hold, htracks⟩ := hk.entries
  refine ⟨h.owned hl hk.owned, h.nodup_owners hk.nodup htracks, ?_⟩
  cases h with
  | aside | follow => exact ⟨old, new, hjobs, hold, htracks⟩
  | @record job hknown =>
    refine ⟨old, new ++ [job], ?_, hold, htracks.record hknown ⟨⟨rfl, rfl⟩, fun _ => rfl⟩⟩
    show a.jobs ++ [job] = old ++ (new ++ [job])
    rw [hjobs, List.append_assoc]
  | lose h | miss h => exact absurd h hl
  | @change job id p hknown hid =>
    show ∃ old' new', editJob id p a.jobs = old' ++ new' ∧ _
    rw [hjobs]
    rcases Store.editJob_append id p old new with ⟨hmem, he⟩ | ⟨-, he⟩
    · -- an entry from before has been changed, so the unit is not `u`
      have hne : u ≠ some id := fun hu => hbefore id hu (hold ▸ hmem)
      refine ⟨_, new, he, (Store.map_executionId_editJob id p old).trans hold, ?_⟩
      exact htracks.learn hknown fun j hj => ⟨hj.1, fun hu => absurd (hu.symm.trans hid) hne⟩
    · refine ⟨old, _, he, hold, ?_⟩
      by_cases hu : u = some id
      · refine htracks.change hk.nodup hknown hid (fun i' job' hk' hid' => ?_) (fun _ _ h => h.1.1)
          fun j hj => ⟨hj.1, fun hu => congrArg p.apply (hj.2 hu)⟩
        exact halone id hu i' i job' job hk' hknown hid' hid
      · exact htracks.change_of_ne hknown hid hu

end Account

/-! ## Units of one's own -/

open Execution (UnitContext)

/-- In some turns the unit is the task's in one place alone: no entry of the analysis was in it
before, and whoever was given it is this task. -/
structure Crowd.HasToItself (m : Store.Memory) (t : List Crowd.Event) (rid : Uuid) (i : Nat)
    (id : String) : Prop where
  /-- No entry was in it before. -/
  unused : some id ∉ (m.entriesOf rid).map Job.executionId
  /-- Whoever was given it is this task. -/
  alone : ∀ x ∈ t, x.call.created? x.answer = some (rid, id) → x.place = i

theorem Crowd.HasToItself.mono {m : Store.Memory} {t t' : List Crowd.Event} {rid : Uuid} {i : Nat}
    {id : String} (h : HasToItself m t' rid i id) (ht : t ⊆ t') : HasToItself m t rid i id where
  unused := h.unused
  alone x hx := h.alone x (ht hx)

namespace Staging

variable {r : Runner} {w : Surroundings} {c c' : Staging} {m : Store.Memory}
  {errands : List Errand} {t : List Crowd.Event} {i : Nat} {rid : Uuid} {u : Option String}

/-- The entries of an analysis are those from before, and those of its runs. -/
def Extends (r : Runner) (m : Store.Memory) (rid : Uuid) (u : Option String) (c : Staging) : Prop :=
  ∀ a ∈ c.store.analyses, a.rid = rid → (c.account r rid).Extends u (m.entriesOf rid) a

/-- Of two runs of an analysis that are in the unit of one task both are this task. -/
theorem eq_of_hasToItself (h : History r w (gathered r m errands) t c) {id : String}
    (ht : Crowd.HasToItself m t rid i id) {i' : Nat} {job : Job}
    (hk : (c.account r rid).known i' = some job) (hid : job.executionId = some id) : i' = i := by
  obtain ⟨ctx, stage, hrid, hi', hentry⟩ := exists_run_of_known hk
  have hunit : stage.unit? = some id := (RunStage.unit?_of_entry? hentry).trans hid
  refine ht.alone _ (created_of_unit? h hi' hunit) ?_
  rw [Call.created?, hrid]

theorem extends_gathered (hm : (m.analyses.map Analysis.rid).Nodup) :
    (gathered r m errands).Extends r m rid u := by
  rintro a ha rfl
  refine ⟨fun i job hk => ?_, List.nodup_nil, a.jobs, [], (List.append_nil _).symm,
    by rw [m.entriesOf_of_mem hm ha], .nil⟩
  obtain ⟨ctx, stage, -, hi, hentry⟩ := exists_run_of_known hk
  rw [(eq_first_of_gathered hi).2] at hentry
  cases hentry

theorem Extends.request {e : Errand} (hx : c.Extends r m rid u) (he : e.isRequest = true) :
    ({ c with stages := c.stages ++ [.begin r e] } : Staging).Extends r m rid u := by
  intro a ha hrid
  rw [account_request he]
  exact hx a ha hrid

/-- Analyses that were stored at the beginning are stored at all times. -/
theorem mem_rids_of_history {start : Staging} (hs : start.Founded r) (h : History r w start t c)
    (hrid : rid ∈ start.store.analyses.map Analysis.rid) :
    rid ∈ c.store.analyses.map Analysis.rid := by
  induction h with
  | start => exact hrid
  | request _ _ ih => exact ih
  | turn hhist hturn ih =>
    have heffect := hturn.effect (hs.history hhist).rids
    obtain ⟨a, ha, rfl⟩ := List.mem_map.mp ih
    obtain ⟨b, hb, hrid, -⟩ := heffect.persists ha
    exact List.mem_map.mpr ⟨b, hb, hrid⟩

theorem Extends.turn (hs : (gathered r m errands).Founded r)
    (h : History r w.reliable (gathered r m errands) t c) (hx : c.Extends r m rid u)
    (hu : ∀ id, u = some id → Crowd.HasToItself m t rid i id) {j : Nat} {q : Call}
    {answer : q.Answer} (hturn : Turn r w.reliable j q answer c c') : c'.Extends r m rid u := by
  have hc := hs.history h
  have hkeeps := hc.forall_of_effect
    (P := fun k a => a.rid = rid → k.Extends u (m.entriesOf rid) a) (hturn.effect hc.rids)
    (fun a ha hrid => hrid ▸ hx a ha hrid) (fun {ctx test stage f} hj _ hmove b hb hctx hP hrid => ?_)
    (fun k a b hP hrid => ⟨(hP hrid).owned, (hP hrid).nodup, (hP hrid).entries⟩)
    fun runs rid' url now hnew hrid => ?_
  · intro a ha hrid
    exact hrid ▸ hkeeps a ha hrid
  · obtain rfl : ctx.rid = rid := by rw [← hctx, ← hmove.rid_apply b, hrid]
    have hext := hP hctx
    refine hmove.extends_of (hturn.not_loses hc hj fun a ha hrid job hjob => ?_)
      (fun id hid => (hu id hid).unused) (fun id hid i₁ i₂ job₁ job₂ hk₁ hk₂ hid₁ hid₂ => ?_) hext
    · exact (hx a ha hrid).exists_entry ((known_of_run hj).trans hjob)
    · rw [eq_of_hasToItself h (hu id hid) hk₁ hid₁, eq_of_hasToItself h (hu id hid) hk₂ hid₂]
  · obtain rfl : rid' = rid := hrid
    have hnone : m.entriesOf rid' = [] :=
      m.entriesOf_of_not_mem fun hmem => hnew (mem_rids_of_history hs h hmem)
    exact ⟨fun i job hk => (by cases hk), List.nodup_nil, [], [], rfl, by rw [hnone], .nil⟩

/-- **With a reliable store the entries of an analysis are those from before and those of its runs**,
and the entry of a run that has its unit to itself is what this run takes its job to be. -/
theorem extends_history (hs : (gathered r m errands).Founded r)
    (h : History r w.reliable (gathered r m errands) t c)
    (hu : ∀ id, u = some id → Crowd.HasToItself m t rid i id) : c.Extends r m rid u := by
  induction h with
  | start => exact extends_gathered hs.rids
  | request _ he ih => exact (ih hu).request he
  | turn hhist hturn ih =>
    have hu' := fun id hid => (hu id hid).mono (List.subset_append_left _ _)
    exact (ih hu').turn hs hhist hu' hturn

end Staging
end Service
end ScanService
