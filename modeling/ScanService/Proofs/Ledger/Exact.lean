import ScanService.Proofs.Ledger.Kept

/-!
# Exact accounts

A store that does not fail of itself refuses no entry of a run and no change of one, because the
analysis is stored and has the entry.  So every run that takes itself to have a job owns an entry,
and unless two units have one identifier the entry is the job, field by field (`Account.Exact`).

When all runs of an analysis have ended in such an account, nothing is missing in the record:
`Exact.isComplete_of_ended` is the converse of `Balances.ended_of_isComplete`.

## What is here

* `Account.Move.exact` — accounts stay exact as long as nothing is lost.
* `Account.Exact.perm_of_known` — what the entries say is what the runs take themselves to have come to,
  in some order.
* `Account.Exact.isComplete_of_ended` — **when all runs have ended the analysis is complete.**
* `Staging.exact_history` — **with a reliable store all accounts are exact.**
-/

namespace ScanService
namespace Service

open Execution (UnitContext)
open Store (AnalysisPatch editJob)

/-! ## Exact accounts -/

namespace Account

variable {k k' : Account} {i : Nat} {a : Analysis} {job : Job} {lost : Prop}
  {f : Analysis → Analysis}

/-- Every run that takes itself to have a job owns an entry, and the entry is that job. -/
structure Exact (k : Account) (a : Analysis) : Prop where
  /-- Whoever takes itself to have a job owns an entry. -/
  owned : ∀ i job, k.known i = some job → i ∈ k.owners
  /-- The entries are what their owners take them to be. -/
  entries : k.Distinct → Tracks Eq k.known k.owners a.jobs

/-- What a run learns about itself makes no difference to others. -/
theorem known_learn_of_ne {i' : Nat} (hne : i' ≠ i) : (k.learn i job).known i' = k.known i' :=
  Function.update_of_ne hne _ _

/-- As long as nothing is lost, whoever takes itself to have a job owns an entry. -/
theorem Move.owned (h : Move lost i k k' f) (hl : ¬lost)
    (howned : ∀ i job, k.known i = some job → i ∈ k.owners) :
    ∀ i job, k'.known i = some job → i ∈ k'.owners := by
  intro i' job' hk'
  cases h with
  | aside | follow => exact howned i' job' hk'
  | record =>
    show i' ∈ k.owners ++ [i]
    by_cases hi : i' = i
    · exact List.mem_append_right _ (List.mem_singleton.mpr hi)
    · have hknown : k.known i' = some job' := (known_learn_of_ne hi).symm.trans hk'
      exact List.mem_append_left _ (howned i' job' hknown)
  | @change job id p hk =>
    by_cases hi : i' = i
    · exact hi ▸ howned i job hk
    · exact howned i' job' ((known_learn_of_ne hi).symm.trans hk')
  | lose h | miss h => exact absurd h hl

/-- **Accounts stay exact** as long as nothing is lost. -/
theorem Move.exact (h : Move lost i k k' f) (hl : ¬lost) (hb : k.Balances a) (he : k.Exact a) :
    k'.Exact (f a) where
  owned := h.owned hl he.owned
  entries := h.tracks hb (fun _ _ h => h ▸ rfl) (fun _ => rfl) (fun _ _ _ _ _ h => h ▸ rfl)
    (fun hlost => absurd hlost hl) he.entries

/-- What the entries say, from what their owners take them to be. -/
theorem Tracks.map_known {β : Type} {known : Nat → Option Job} {owners : List Nat} {jobs : List Job}
    (h : Tracks Eq known owners jobs) (f : Job → β) :
    jobs.map (fun j => some (f j)) = owners.map fun i => (known i).map f := by
  induction h with
  | nil => rfl
  | @cons i j owners jobs hj hrest ih =>
    obtain ⟨job, hk, rfl⟩ := hj
    rw [List.map_cons, List.map_cons, ih, hk, Option.map_some]

/-- What is to be said of the tests that are to run, from what their runs take their jobs to be. -/
theorem map_known_places {β : Type} {f : Job → β} {g : SecurityTest → β} (hs : k.Sane)
    (hn : k.places.Nodup)
    (hknown : ∀ i ∈ k.places, ∃ job, k.known i = some job ∧ f job = g job.securityTest) :
    k.tests.map (fun test => some (g test)) = k.places.map fun i => (k.known i).map f := by
  rw [tests, places, List.map_map, List.map_map]
  refine List.map_congr_left fun run hrun => ?_
  obtain ⟨job, hjob, hfg⟩ := hknown run.1 (List.mem_map_of_mem hrun)
  have hsame : (run.1, job.securityTest) = run :=
    List.inj_on_of_nodup_map hn (hs run.1 job hjob) hrun rfl
  rw [Function.comp_apply, Function.comp_apply, hjob, Option.map_some, hfg, ← hsame]

/-- **When all runs take themselves to have jobs, the entries say of the tests what the jobs do**, in
some order. -/
theorem Exact.perm_of_known {β : Type} {f : Job → β} {g : SecurityTest → β} (he : k.Exact a)
    (hb : k.Balances a) (hs : k.Sane) (hn : k.places.Nodup) (hd : k.Distinct)
    (hknown : ∀ i ∈ k.places, ∃ job, k.known i = some job ∧ f job = g job.securityTest) :
    k.owners.Perm k.places ∧ (a.jobs.map f).Perm (a.securityTests.map g) := by
  have hperm : k.owners.Perm k.places := by
    refine (List.perm_ext_iff_of_nodup hb.nodup hn).mpr fun i => ⟨fun hi => ?_, fun hi => ?_⟩
    · exact hs.mem_places (hb.owner_known hi)
    · obtain ⟨job, hjob, -⟩ := hknown i hi
      exact he.owned i job hjob
  have hmap := hperm.map fun i => (k.known i).map f
  rw [← (he.entries hd).map_known, ← map_known_places hs hn hknown, ← hb.tests] at hmap
  have hfilter := hmap.filterMap id
  rw [List.filterMap_map, List.filterMap_map] at hfilter
  exact ⟨hperm, by simpa [Function.comp_def, List.filterMap_eq_map'] using hfilter⟩

/-- **When all runs have ended the analysis is complete**, with exactly as many entries of each name
as tests. -/
theorem Exact.isComplete_of_ended (he : k.Exact a) (hb : k.Balances a) (hs : k.Sane)
    (hn : k.places.Nodup) (hd : k.Distinct)
    (hended : ∀ i ∈ k.places, ∃ job, k.known i = some job ∧ job.status.isTerminal = true) :
    a.isComplete = true ∧ a.startedNames.Perm a.pendingNames := by
  obtain ⟨hperm, hnames⟩ := he.perm_of_known (f := Job.testName) (g := fun test => test.name)
    hb hs hn hd fun i hi => (hended i hi).imp fun job h => ⟨h.1, rfl⟩
  have hterminal : ∀ j ∈ a.jobs, j.status.isTerminal = true := by
    intro j hj
    obtain ⟨i, hi, job, hjob, rfl⟩ := exists_mem_of_forall₂ (he.entries hd) hj
    obtain ⟨job', hjob', hterminal⟩ := hended i (hperm.mem_iff.mp hi)
    obtain rfl : j = job' := Option.some.inj (hjob.symm.trans hjob')
    exact hterminal
  have hcount : ∀ name ∈ a.pendingNames,
      a.pendingNames.count name ≤ a.startedNames.count name :=
    fun name _ => Nat.le_of_eq (hnames.count_eq name).symm
  exact ⟨Analysis.isComplete_iff.mpr ⟨hcount, hterminal⟩, hnames⟩

end Account

/-! ## Reliable stores -/

namespace Staging

variable {r : Runner} {w : Surroundings} {c c' : Staging} {i : Nat} {a : Analysis}

/-- The account of every stored analysis is exact. -/
def Exact (r : Runner) (c : Staging) : Prop :=
  ∀ a ∈ c.store.analyses, (c.account r a.rid).Exact a

/-- A reliable store refuses a run no entry and no change of one. -/
theorem Exact.not_loses (hx : c.Exact r) (hc : c.Kept r) {q : Call} {answer : q.Answer}
    (h : Turn r w.reliable i q answer c c') {ctx : UnitContext} {test : SecurityTest}
    {stage : RunStage} (hrun : c.stages[i]? = some (.run ctx test stage)) : ¬q.Loses answer := by
  refine h.not_loses hc.founded hrun fun a ha hrid job hjob => ?_
  -- the run owns an entry, and it is the entry of its unit
  have hknown : (c.account r a.rid).known i = some job :=
    hrid.symm ▸ (known_of_run (r := r) hrun).trans hjob
  have hown := (hx a ha).owned i job hknown
  obtain ⟨j, hj, job', hjob', hmatches⟩ :=
    exists_mem_of_forall₂ (hc.balances a ha).entries.flip hown
  obtain rfl : job' = job := Option.some.inj (hjob'.symm.trans hknown)
  exact ⟨j, hj, hmatches.1⟩

theorem exact_idle {m : Store.Memory} (hm : m.analyses = []) : (idle m).Exact r := by
  intro a ha
  rw [idle, hm] at ha
  cases ha

theorem Exact.request {e : Errand} (hx : c.Exact r) (he : e.isRequest = true) :
    ({ c with stages := c.stages ++ [.begin r e] } : Staging).Exact r := by
  intro a ha
  rw [account_request he]
  exact hx a ha

theorem Exact.effect (hx : c.Exact r) (hc : c.Kept r) {lost : Prop} (h : Effect r lost i c c')
    (hl : ∀ ctx test stage, c.stages[i]? = some (.run ctx test stage) → ¬lost) : c'.Exact r := by
  refine hc.founded.forall_of_effect h hx (fun hi _ hmove b hb hrid hexact => ?_)
    (fun k a b hexact => ⟨hexact.owned, hexact.entries⟩) fun runs rid url now _ => ?_
  · exact hmove.exact (hl _ _ _ hi) (hrid ▸ hc.balances b hb) hexact
  · exact ⟨fun i job h => (by cases h), fun _ => .nil⟩

/-- **With a reliable store all accounts are exact.** -/
theorem exact_history {m : Store.Memory} (hm : m.analyses = []) {t : List Crowd.Event}
    (h : History r w.reliable (idle m) t c) : c.Kept r ∧ c.Exact r := by
  induction h with
  | start => exact ⟨kept_idle hm, exact_idle hm⟩
  | request _ he ih => exact ⟨ih.1.request he, ih.2.request he⟩
  | turn _ hturn ih =>
    have hx := ih.2.effect ih.1 (hturn.effect ih.1.rids) fun _ _ _ hi =>
      ih.2.not_loses ih.1 hturn hi
    exact ⟨ih.1.turn hturn, hx⟩

end Staging
end Service
end ScanService
