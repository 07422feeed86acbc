import Mathlib.Data.List.Forall2
import Mathlib.Logic.Function.Basic
import ScanService.Proofs.Store.Rows
import ScanService.Store.Postgres

/-!
# Analyses that are put together from rows

Analyses and jobs have rows of their own.  Both are selected, each kind by one statement, and the jobs
come in the order of their insertion, whichever analyses they belong to.  Putting them together is
grouping: a pass over the jobs fills a group for each analysis, and a pass over the analyses takes the
groups away, so that a second analysis with the same identifier would get none.

## What is here

* `grouped`, `drained`, `assemble_eq_drained` — **putting together is filling groups and taking them
  away.**
* `jobsOf`, `assemble_eq_map` — where the analyses are different, each gets its own jobs.
* `flatMap_filter_perm` — what is filtered out for each of several keys is all that has one of them.
* `Reassembles`, `analyses_reassembled` — **no job is lost, repeated or given to another analysis.**
-/

namespace ScanService
namespace Store
namespace Postgres

/-! ## Groups -/

/-- The jobs of an analysis, in the order in which they come. -/
def jobsOf (rid : Uuid) (jobs : List (Uuid × Job)) : List Job :=
  (jobs.filter fun j => j.1 = rid).map (·.2)

/-- Puts a job behind the others of its analysis. -/
def place (groups : Uuid → List Job) (j : Uuid × Job) : Uuid → List Job :=
  Function.update groups j.1 (groups j.1 ++ [j.2])

/-- One pass over the jobs, which fills a group for each analysis. -/
def grouped (jobs : List (Uuid × Job)) : Uuid → List Job := jobs.foldl place fun _ => []

/-- One pass over the analyses, each of which takes its group away. -/
def drained : List Analysis → (Uuid → List Job) → List Analysis
  | [], _ => []
  | a :: rest, groups =>
    { a with jobs := groups a.rid } :: drained rest (Function.update groups a.rid [])

variable {found : List Analysis} {jobs : List (Uuid × Job)} {rid : Uuid}

/-- The pass over the jobs puts those of an analysis behind what its group had before. -/
theorem foldl_place (groups : Uuid → List Job) :
    jobs.foldl place groups rid = groups rid ++ jobsOf rid jobs := by
  induction jobs generalizing groups with
  | nil => exact (List.append_nil _).symm
  | cons j jobs ih =>
    rw [List.foldl_cons, ih, jobsOf, jobsOf, List.filter_cons, place]
    by_cases hj : j.1 = rid
    · simp [hj]
    · simp [hj, Ne.symm hj]

/-- **The group of an analysis has its jobs, in order.** -/
theorem grouped_apply : grouped jobs rid = jobsOf rid jobs :=
  foldl_place fun _ => []

theorem jobsOf_filter_ne {other : Uuid} :
    jobsOf rid (jobs.filter fun j => j.1 ≠ other) =
      if rid = other then [] else jobsOf rid jobs := by
  rw [jobsOf, List.filter_filter]
  split
  · next heq => simp [heq]
  · next hne =>
    refine congrArg (List.map _) (List.filter_congr fun j _ => ?_)
    by_cases hj : j.1 = rid <;> simp [hj, hne]

/-- Without the jobs of an analysis, its group is empty and the others are as they were. -/
theorem grouped_filter_ne :
    grouped (jobs.filter fun j => j.1 ≠ rid) = Function.update (grouped jobs) rid [] := by
  funext other
  rw [grouped_apply, jobsOf_filter_ne, Function.update_apply, grouped_apply]

/-- **Putting together is filling groups and taking them away.** -/
theorem assemble_eq_drained (found : List Analysis) (jobs : List (Uuid × Job)) :
    assemble found jobs = drained found (grouped jobs) := by
  induction found generalizing jobs with
  | nil => rfl
  | cons a rest ih =>
    have hothers : (jobs.filter (not ∘ fun j => decide (j.1 = a.rid))) =
        jobs.filter fun j => j.1 ≠ a.rid :=
      List.filter_congr fun j _ => by simp
    rw [assemble, List.partition_eq_filter_filter, hothers, drained, grouped_apply,
      ← grouped_filter_ne, ← ih]
    rfl

/-! ## Analyses that are different -/

/-- Groups that no analysis takes do not matter. -/
theorem drained_update (h : rid ∉ found.map (·.rid)) (groups : Uuid → List Job) (own : List Job) :
    drained found (Function.update groups rid own) = drained found groups := by
  induction found generalizing groups with
  | nil => rfl
  | cons a rest ih =>
    obtain ⟨hne, hrest⟩ := List.ne_and_not_mem_of_not_mem_cons h
    rw [drained, drained, Function.update_of_ne (Ne.symm hne), Function.update_comm hne,
      ih hrest]

/-- Analyses that are different take each its own group. -/
theorem drained_eq_map (h : (found.map (·.rid)).Nodup) (groups : Uuid → List Job) :
    drained found groups = found.map fun a => { a with jobs := groups a.rid } := by
  induction found with
  | nil => rfl
  | cons a rest ih =>
    obtain ⟨hnew, hrest⟩ := List.nodup_cons.mp h
    rw [drained, drained_update hnew, ih hrest, List.map_cons]

/-- **Where the analyses are different, each gets its own jobs.** -/
theorem assemble_eq_map (h : (found.map (·.rid)).Nodup) (jobs : List (Uuid × Job)) :
    assemble found jobs = found.map fun a => { a with jobs := jobsOf a.rid jobs } := by
  rw [assemble_eq_drained, drained_eq_map h]
  simp only [grouped_apply]

/-- What is filtered out for each of several keys, one after the other, is all that has one of
them. -/
theorem flatMap_filter_perm {α κ : Type} [DecidableEq κ] (key : α → κ) {ks : List κ}
    (h : ks.Nodup) (l : List α) :
    (ks.flatMap fun k => l.filter fun x => key x = k).Perm (l.filter fun x => key x ∈ ks) := by
  induction ks with
  | nil => simp
  | cons k ks ih =>
    obtain ⟨hnew, hks⟩ := List.nodup_cons.mp h
    have hown : (l.filter fun x => key x ∈ k :: ks).filter (fun x => key x = k) =
        l.filter fun x => key x = k := by
      rw [List.filter_filter]
      refine List.filter_congr fun x _ => ?_
      by_cases hx : key x = k <;> simp [hx]
    have hothers : (l.filter fun x => key x ∈ k :: ks).filter (fun x => !decide (key x = k)) =
        l.filter fun x => key x ∈ ks := by
      rw [List.filter_filter]
      refine List.filter_congr fun x _ => ?_
      by_cases hx : key x = k <;> simp [hx, hnew]
    rw [List.flatMap_cons, ← hown]
    refine List.Perm.trans (.append_left _ (ih hks)) ?_
    rw [← hothers]
    exact List.filter_append_perm ..

/-! ## Sessions -/

/-- Analyses that are put together from the records of their rows and of the rows of jobs. -/
structure Reassembles (found : List Analysis) (jobs : List (Uuid × Job)) (built : List Analysis) :
    Prop where
  /-- For each row of an analysis there is one, in order; it has the fields of its row, and its jobs
  are those of its identifier in the order in which they came. -/
  analyses : built = found.map fun a => { a with jobs := jobsOf a.rid jobs }
  /-- Every row of a job whose analysis is among them occurs once overall, and no other one does. -/
  once : (built.flatMap fun a => a.jobs.map (a.rid, ·)).Perm
    (jobs.filter fun j => j.1 ∈ found.map (·.rid))
  /-- An analysis without rows of jobs has no jobs. -/
  idle : ∀ a ∈ built, (∀ j ∈ jobs, j.1 ≠ a.rid) → a.jobs = []

/-- With the identifier of their analysis, its jobs are the rows that have it. -/
theorem map_jobsOf (rid : Uuid) (jobs : List (Uuid × Job)) :
    (jobsOf rid jobs).map (rid, ·) = jobs.filter fun j => j.1 = rid := by
  rw [jobsOf, List.map_map]
  refine (List.map_congr_left fun j hj => ?_).trans (List.map_id _)
  exact Prod.ext (of_decide_eq_true (List.mem_filter.mp hj).2).symm rfl

/-- **Analyses that are different are put together without loss or mixing.** -/
theorem reassembles (h : (found.map (·.rid)).Nodup) (jobs : List (Uuid × Job)) :
    Reassembles found jobs (assemble found jobs) where
  analyses := assemble_eq_map h jobs
  once := by
    have hrows := flatMap_filter_perm (·.1) h jobs
    rw [List.flatMap_map] at hrows
    rw [assemble_eq_map h, List.flatMap_map]
    simpa only [map_jobsOf] using hrows
  idle := by
    intro a ha hnone
    rw [assemble_eq_map h] at ha
    obtain ⟨a', -, rfl⟩ := List.mem_map.mp ha
    exact List.map_eq_nil_iff.mpr (List.filter_eq_nil_iff.mpr fun j hj => by simpa using hnone j hj)

/-- Rows are read one by one. -/
theorem mapM_eq_ok {α : Type} {read : Row → Except DatabaseError α} {rows : List Row} {as : List α}
    (h : List.Forall₂ (fun r a => read r = .ok a) rows as) : rows.mapM read = .ok as := by
  induction h with
  | nil => rfl
  | cons ha _ ih =>
    rw [List.mapM_cons, ha, ih]
    rfl

section

variable {rows jobRows : List Row} {s s₁ s₂ : Statement}

/-- Of a session that begins with a selection, and is answered with rows, that selection is the first
question, and the rows are what it goes on with. -/
theorem trace_fetch_iff {α : Type} {k : List Row → Session α}
    {rest : List (Program.Exchange database)} {r : Except ServiceError α} :
    (Session.fetch s >>= k).run.Trace (⟨.fetch s₁, .ok rows⟩ :: rest) r ↔
      s₁ = s ∧ (k rows).run.Trace rest r := by
  constructor
  · intro h
    obtain ⟨answer, rest, heq, hk⟩ := Program.trace_ask_iff.mp h
    cases heq
    exact ⟨rfl, hk⟩
  · rintro ⟨rfl, h⟩
    exact .ask h

/-- A session that selects analyses and jobs comes to what is put together from the answers. -/
theorem trace_analyses_iff {f : Filter} {limit : String} (hs : selectAnalyses f limit = .ok s)
    (hrows : List.Forall₂ Row.HoldsAnalysis rows found)
    (hjobs : List.Forall₂ Row.HoldsJob jobRows jobs) {r : Except ServiceError (List Analysis)} :
    (analyses f limit).run.Trace [⟨.fetch s₁, .ok rows⟩, ⟨.fetch s₂, .ok jobRows⟩] r ↔
      s₁ = s ∧ s₂ = selectJobs (found.map (·.rid)) ∧ r = .ok (assemble found jobs) := by
  have hfound : rows.mapM Row.analysis = .ok found :=
    mapM_eq_ok (hrows.imp fun _ _ h => h.analysis_eq)
  have hread : jobRows.mapM Row.job = .ok jobs := mapM_eq_ok (hjobs.imp fun _ _ h => h.job_eq)
  rw [analyses, hs]
  refine trace_fetch_iff.trans (and_congr_right fun _ => ?_)
  rw [hfound]
  refine trace_fetch_iff.trans (and_congr_right fun _ => ?_)
  rw [hread]
  exact Program.trace_done_iff.trans (and_iff_right rfl)

/-- What is made of the result of a session asks nothing more. -/
theorem trace_map_iff {α β : Type} {m : Session α} {g : α → β} {t : List (Program.Exchange database)}
    {r : Except ServiceError β} :
    (m >>= fun a => pure (g a)).run.Trace t r ↔ ∃ r', m.run.Trace t r' ∧ r = r'.map g := by
  have hdone (r' : Except ServiceError α) {t : List (Program.Exchange database)} :
      (ExceptT.bindCont (fun a => (pure (g a) : Session β)) r').Trace t r ↔
        t = [] ∧ r = r'.map g := by
    cases r' <;> exact Program.trace_done_iff
  refine Program.trace_bind.trans ⟨?_, ?_⟩
  · rintro ⟨u, v, r', rfl, hu, hv⟩
    obtain ⟨rfl, hr⟩ := (hdone r').mp hv
    exact ⟨r', (List.append_nil u).symm ▸ hu, hr⟩
  · rintro ⟨r', hu, hr⟩
    exact ⟨t, [], r', (List.append_nil t).symm, hu, (hdone r').mpr ⟨rfl, hr⟩⟩

/-- **Analyses are put together from rows without loss or mixing.**  Whatever analyses the rows of a
first selection hold, all different, and whatever jobs those of a second one, in any order and of
whichever analyses: what is found is one analysis for each row, in order, with the fields of its row
and with those jobs that have its identifier, all of them and in the order of their rows.  The jobs
are selected for the analyses that were found, and if one analysis is asked for, it is the first. -/
theorem analyses_reassembled (hrows : List.Forall₂ Row.HoldsAnalysis rows found)
    (hjobs : List.Forall₂ Row.HoldsJob jobRows jobs) (hrids : (found.map (·.rid)).Nodup) :
    ∃ built, Reassembles found jobs built ∧
      (∀ f s, selectAnalyses f "" = .ok s → ∀ s₁ s₂ r,
        (answer (.findAnalyses f)).Trace [⟨.fetch s₁, .ok rows⟩, ⟨.fetch s₂, .ok jobRows⟩] r ↔
          s₁ = s ∧ s₂ = selectJobs (found.map (·.rid)) ∧ r = .ok built) ∧
      ∀ f s, selectAnalyses f " LIMIT 1" = .ok s → ∀ s₁ s₂ r,
        (answer (.findAnalysis f)).Trace [⟨.fetch s₁, .ok rows⟩, ⟨.fetch s₂, .ok jobRows⟩] r ↔
          s₁ = s ∧ s₂ = selectJobs (found.map (·.rid)) ∧ r = .ok built.head? := by
  refine ⟨assemble found jobs, reassembles hrids jobs, fun f s hs s₁ s₂ r => ?_,
    fun f s hs s₁ s₂ r => ?_⟩
  · exact trace_analyses_iff hs hrows hjobs
  · refine trace_map_iff.trans ⟨?_, ?_⟩
    · rintro ⟨r', hr', rfl⟩
      obtain ⟨h₁, h₂, rfl⟩ := (trace_analyses_iff hs hrows hjobs).mp hr'
      exact ⟨h₁, h₂, rfl⟩
    · rintro ⟨h₁, h₂, rfl⟩
      exact ⟨_, (trace_analyses_iff hs hrows hjobs).mpr ⟨h₁, h₂, rfl⟩, rfl⟩

end

/-! ### A sample -/

/-- Two analyses of one repository. -/
def sampleAnalyses : List Analysis :=
  [1, 2].map fun n => .admitted (.ofNat n) "https://github.com/acme/api.git" [] .unixEpoch

/-- Jobs of both, and of an analysis that is not among them. -/
def sampleJobs : List (Uuid × Job) :=
  [(2, "c"), (1, "a"), (3, "x"), (2, "b")].map fun (n, id) =>
    (.ofNat n, .created ⟨"bandit", "bandit", "latest", "bandit", "python", true, 60⟩ id)

/-- Each analysis gets its jobs in the order of their rows, and nobody gets the one of the third. -/
theorem analyses_reassembled_sample : (sampleAnalyses.map (·.rid)).Nodup ∧ ∃ built s₁ s₂,
    (answer (.findAnalyses (.url "https://github.com/acme/api.git"))).Trace
      [⟨.fetch s₁, .ok (sampleAnalyses.map analysisFields)⟩,
        ⟨.fetch s₂, .ok (sampleJobs.map fun j => ("rid", .uuid j.1) :: jobFields j.2)⟩]
      (.ok built) ∧
    built.map (fun a => (a.rid, a.jobs.map (·.executionId))) =
      [(.ofNat 1, [some "a"]), (.ofNat 2, [some "c", some "b"])] := by
  have hrows : List.Forall₂ Row.HoldsAnalysis (sampleAnalyses.map analysisFields)
      (sampleAnalyses.map Analysis.toMicros) :=
    List.forall₂_map_left_iff.mpr (List.forall₂_map_right_iff.mpr
      (List.forall₂_same.mpr fun a _ => holdsAnalysis_analysisFields a))
  have hjobs : List.Forall₂ Row.HoldsJob
      (sampleJobs.map fun j => ("rid", .uuid j.1) :: jobFields j.2)
      (sampleJobs.map fun j => (j.1, j.2.toMicros)) :=
    List.forall₂_map_left_iff.mpr (List.forall₂_map_right_iff.mpr
      (List.forall₂_same.mpr fun j _ => holdsJob_jobFields j.1 j.2))
  obtain ⟨built, ⟨rfl, -, -⟩, hall, -⟩ := analyses_reassembled hrows hjobs (by decide)
  exact ⟨by decide, _, _, _, (hall _ _ rfl _ _ _).mpr ⟨rfl, rfl, rfl⟩, by decide⟩

end Postgres
end Store
end ScanService
