import Mathlib.Data.List.Induction
import ScanService.Proofs.Store.Operations

/-!
# Writers of one analysis

Many tasks write into one analysis at a time: each pushes a job of its own and then patches it, and
others append to the tests that are to run.  The store has no way to write one job but to find it
again, among all jobs of all analyses, by its identifiers.  However the calls interleave, none of
them fails, none undoes another, and nothing else is touched.

## What is here

* `Writer` — a task that pushes a job and patches it, by its calls and by what they are to come to.
* `Interleaves` — the schedules that keep the order of each task's own calls.
* `Recorded` — what there is to say of the store in the middle of such a schedule.
* `writers_lose_nothing` — what there is to say at the end.
-/

namespace ScanService
namespace Store

/-- A task that pushes a job into an analysis and patches it. -/
structure Writer where
  /-- The job that is pushed. -/
  job : Job
  /-- The execution identifier that the job is known by. -/
  id : String
  executionId_job : job.executionId = some id
  /-- What the job is patched with, in order. -/
  patches : List JobPatch

namespace Writer

variable {rid : Uuid} {w : Writer} {k : Nat}

/-- What a writer calls. -/
def calls (rid : Uuid) (w : Writer) : List Call :=
  .pushJob (.rid rid) w.job :: w.patches.map fun p => .updateJob (.job rid w.id) p

/-- The job after some of its patches. -/
def draft (w : Writer) (k : Nat) : Job := (w.patches.take k).foldl (fun j p => p.apply j) w.job

/-- The job after all of its patches. -/
def outcome (w : Writer) : Job := w.patches.foldl (fun j p => p.apply j) w.job

@[simp] theorem draft_zero : w.draft 0 = w.job := rfl

theorem draft_succ (h : k < w.patches.length) :
    w.draft (k + 1) = w.patches[k].apply (w.draft k) := by
  rw [draft, List.take_add_one, List.getElem?_eq_getElem h, Option.toList_some, List.foldl_append]
  rfl

theorem draft_length : w.draft w.patches.length = w.outcome := by
  rw [draft, List.take_length, outcome]

/-- A patched job is still known by its identifier. -/
@[simp] theorem executionId_draft : (w.draft k).executionId = some w.id := by
  induction k with
  | zero => exact w.executionId_job
  | succ k ih =>
    by_cases hk : k < w.patches.length
    · rw [draft_succ hk, JobPatch.executionId_apply, ih]
    · have hall : w.patches.take (k + 1) = w.patches.take k := by
        rw [List.take_of_length_le (by omega), List.take_of_length_le (by omega)]
      rwa [draft, hall]

end Writer

/-- What a task calls that appends to the tests an analysis is to run. -/
def schedulerCalls (rid : Uuid) (appends : List (List SecurityTest)) : List Call :=
  appends.map fun tests => .updateAnalysis (.rid rid) { append := tests }

/-! ## Interleavings -/

section Interleavings

variable {τ : Type} [DecidableEq τ] {t u : τ} {c : Call} {programs : τ → List Call}
  {schedule done : List (τ × Call)}

/-- The calls of one task in a schedule of many. -/
def callsOf (t : τ) (schedule : List (τ × Call)) : List Call :=
  (schedule.filter fun e => e.1 = t).map (·.2)

/-- Each task makes its calls, in its own order. -/
def Interleaves (programs : τ → List Call) (schedule : List (τ × Call)) : Prop :=
  ∀ t, callsOf t schedule = programs t

/-- Each task has made some of its calls, in its own order. -/
def Begins (programs : τ → List Call) (done : List (τ × Call)) : Prop :=
  ∀ t, callsOf t done <+: programs t

theorem Interleaves.begins (h : Interleaves programs schedule) : Begins programs schedule :=
  fun t => h t ▸ List.prefix_rfl

theorem callsOf_snoc_self : callsOf t (done ++ [(t, c)]) = callsOf t done ++ [c] := by
  simp [callsOf]

theorem callsOf_snoc_of_ne (h : t ≠ u) : callsOf u (done ++ [(t, c)]) = callsOf u done := by
  simp [callsOf, h]

theorem callsOf_snoc_ne_nil :
    callsOf u (done ++ [(t, c)]) ≠ [] ↔ callsOf u done ≠ [] ∨ t = u := by
  by_cases h : t = u
  · subst h
    simp [callsOf_snoc_self]
  · simp [callsOf_snoc_of_ne h, h]

theorem Begins.of_snoc (h : Begins programs (done ++ [(t, c)])) : Begins programs done := by
  intro u
  refine List.IsPrefix.trans ?_ (h u)
  simp [callsOf]

/-- The call that is made next is the next one of its task. -/
theorem Begins.getElem?_length (h : Begins programs (done ++ [(t, c)])) :
    (programs t)[(callsOf t done).length]? = some c := by
  obtain ⟨rest, hrest⟩ := callsOf_snoc_self (t := t) (c := c) ▸ h t
  rw [← hrest]
  simp

end Interleavings

/-! ## What the calls come to -/

variable {ι κ : Type}

/-- Whose jobs a schedule pushes, in the order of pushing. -/
def recorders (schedule : List ((ι ⊕ κ) × Call)) : List ι :=
  schedule.filterMap fun
    | (.inl i, .pushJob _ _) => some i
    | _ => none

/-- The tests that a schedule appends, in the order of appending. -/
def appended (schedule : List ((ι ⊕ κ) × Call)) : List SecurityTest :=
  schedule.flatMap fun
    | (_, .updateAnalysis _ p) => p.append
    | _ => []

/-- What all tasks together call. -/
def programs (rid : Uuid) (writers : ι → Writer) (schedulers : κ → List (List SecurityTest)) :
    ι ⊕ κ → List Call :=
  Sum.elim (fun i => (writers i).calls rid) fun k => schedulerCalls rid (schedulers k)

section Snoc

variable {done : List ((ι ⊕ κ) × Call)} {i : ι} {t : ι ⊕ κ} {f : Filter}

@[simp] theorem recorders_snoc_pushJob {j : Job} :
    recorders (done ++ [(.inl i, .pushJob f j)]) = recorders done ++ [i] := by
  simp [recorders]

@[simp] theorem recorders_snoc_updateJob {p : JobPatch} :
    recorders (done ++ [(t, .updateJob f p)]) = recorders done := by
  simp [recorders]

@[simp] theorem recorders_snoc_updateAnalysis {p : AnalysisPatch} :
    recorders (done ++ [(t, .updateAnalysis f p)]) = recorders done := by
  simp [recorders]

@[simp] theorem appended_snoc_pushJob {j : Job} :
    appended (done ++ [(t, .pushJob f j)]) = appended done := by
  simp [appended]

@[simp] theorem appended_snoc_updateJob {p : JobPatch} :
    appended (done ++ [(t, .updateJob f p)]) = appended done := by
  simp [appended]

@[simp] theorem appended_snoc_updateAnalysis {p : AnalysisPatch} :
    appended (done ++ [(t, .updateAnalysis f p)]) = appended done ++ p.append := by
  simp [appended]

end Snoc

variable [DecidableEq ι] [DecidableEq κ] {rid : Uuid} {writers : ι → Writer}
  {schedulers : κ → List (List SecurityTest)} {m : Memory} {before behind : List Analysis}
  {a : Analysis} {done schedule : List ((ι ⊕ κ) × Call)} {i : ι} {k : κ} {c : Call}

/-- The job of a writer in the middle of a schedule: the first of its calls pushed it, and each
further one patched it. -/
def entry (writers : ι → Writer) (done : List ((ι ⊕ κ) × Call)) (i : ι) : Job :=
  (writers i).draft ((callsOf (.inl i) done).length - 1)

/-- The analysis in the middle of a schedule. -/
def recordedIn (a : Analysis) (writers : ι → Writer) (done : List ((ι ⊕ κ) × Call)) : Analysis :=
  { a with
    jobs := a.jobs ++ (recorders done).map (entry writers done)
    securityTests := a.securityTests ++ appended done }

/-- Nothing was lost so far: all calls succeeded, each writer that has begun has one job, and the
store holds the jobs as their own writers made them. -/
structure Recorded (m : Memory) (before : List Analysis) (a : Analysis) (behind : List Analysis)
    (writers : ι → Writer) (done : List ((ι ⊕ κ) × Call)) : Prop where
  grants : m.Grants (done.map (·.2))
  nodup_recorders : (recorders done).Nodup
  mem_recorders : ∀ i, i ∈ recorders done ↔ callsOf (.inl i) done ≠ []
  analyses : m.after (done.map (·.2)) =
    { m with analyses := before ++ recordedIn a writers done :: behind }

/-! ## What one call does to the analysis -/

section Calls

variable {f : Filter} {p : JobPatch} {tests : List SecurityTest} {t : ι ⊕ κ}

/-- A call of one task leaves the jobs of all other writers as they are. -/
theorem map_entry_snoc {is : List ι} (h : ∀ i ∈ is, t ≠ .inl i) :
    is.map (entry writers (done ++ [(t, c)])) = is.map (entry writers done) :=
  List.map_congr_left fun i hi => by rw [entry, entry, callsOf_snoc_of_ne (h i hi)]

/-- A writer that begins has its job behind the others. -/
theorem recordedIn_push (hi : callsOf (.inl i) done = []) (hnew : i ∉ recorders done) :
    recordedIn a writers (done ++ [(.inl i, .pushJob f (writers i).job)]) =
      { recordedIn a writers done with
        jobs := (recordedIn a writers done).jobs ++ [(writers i).job] } := by
  have hself : entry writers (done ++ [(.inl i, .pushJob f (writers i).job)]) i =
      (writers i).job := by
    simp [entry, callsOf_snoc_self, hi]
  have hothers : ∀ j ∈ recorders done, (.inl i : ι ⊕ κ) ≠ .inl j := by
    rintro j hj ⟨⟩
    exact hnew hj
  simp only [recordedIn, recorders_snoc_pushJob, appended_snoc_pushJob, List.map_append,
    List.map_singleton, hself, map_entry_snoc hothers, List.append_assoc]

theorem recordedIn_append :
    recordedIn a writers (done ++ [(.inr k, .updateAnalysis f { append := tests })]) =
      AnalysisPatch.apply { append := tests } (recordedIn a writers done) := by
  have hothers : ∀ j ∈ recorders done, (.inr k : ι ⊕ κ) ≠ .inl j := by simp
  simp only [recordedIn, recorders_snoc_updateAnalysis, appended_snoc_updateAnalysis,
    map_entry_snoc hothers, AnalysisPatch.apply, List.append_assoc]
  simp

/-- A writer that has begun patches its own job, since no job before it has its identifier. -/
theorem changesFirst_recordedIn (hids : Function.Injective fun i => (writers i).id)
    (hnew : ∀ j ∈ a.jobs, j.executionId ≠ some (writers i).id) (hnodup : (recorders done).Nodup)
    (hi : i ∈ recorders done)
    (hp : (writers i).patches[(callsOf (.inl i) done).length - 1]? = some p)
    (hbegun : callsOf (.inl i) done ≠ []) :
    ChangesFirst (fun j => j.executionId == some (writers i).id) p.apply
      (recordedIn a writers done).jobs
      (recordedIn a writers (done ++ [(.inl i, .updateJob f p)])).jobs := by
  obtain ⟨earlier, further, hsplit⟩ := List.append_of_mem hi
  rw [hsplit, List.nodup_middle, List.nodup_cons, List.mem_append, not_or] at hnodup
  have hearlier : ∀ j ∈ earlier, (.inl i : ι ⊕ κ) ≠ .inl j := by
    rintro j hj ⟨⟩
    exact hnodup.1.1 hj
  have hfurther : ∀ j ∈ further, (.inl i : ι ⊕ κ) ≠ .inl j := by
    rintro j hj ⟨⟩
    exact hnodup.1.2 hj
  have hself : entry writers (done ++ [(.inl i, .updateJob f p)]) i =
      p.apply (entry writers done i) := by
    obtain ⟨hlt, rfl⟩ := List.getElem?_eq_some_iff.mp hp
    have hpos := List.length_pos_iff.mpr hbegun
    rw [entry, entry, callsOf_snoc_self, List.length_append, List.length_singleton,
      ← Writer.draft_succ hlt]
    congr 1
    omega
  refine ⟨a.jobs ++ earlier.map (entry writers done), entry writers done i,
    further.map (entry writers done), ?_, fun j hj => ?_, ?_, ?_⟩
  · simp [recordedIn, hsplit]
  · rcases List.mem_append.mp hj with hj | hj
    · simpa using hnew j hj
    · obtain ⟨u, hu, rfl⟩ := List.mem_map.mp hj
      have hne : u ≠ i := fun he => hearlier u hu (congrArg Sum.inl he.symm)
      simpa [entry] using fun he => hne (hids he)
  · simp [entry]
  · simp [recordedIn, hsplit, hself, map_entry_snoc hearlier, map_entry_snoc hfurther]

end Calls

/-! ## What the store answers -/

section Answers

variable (hm : m.analyses = before ++ a :: behind) (hbefore : ∀ b ∈ before, b.rid ≠ rid)
  (ha : a.rid = rid)
include hm hbefore ha

/-- A change asked of the analysis with an identifier is a change of the first one with it. -/
theorem updateFirst_rid_eq (f : Analysis → Analysis) :
    updateFirst (Filter.rid rid).accepts f m.analyses = some (before ++ f a :: behind) := by
  rw [hm]
  refine updateFirst_append (fun b hb => ?_) ?_
  · simp [accepts_rid, hbefore b hb]
  · simp [accepts_rid, ha]

theorem answer_pushJob (j : Job) : m.answer (.pushJob (.rid rid) j) =
    (.ok (), { m with analyses := before ++ { a with jobs := a.jobs ++ [j] } :: behind }) := by
  simp only [Memory.answer, updateFirst_rid_eq hm hbefore ha]

theorem answer_updateAnalysis (p : AnalysisPatch) : m.answer (.updateAnalysis (.rid rid) p) =
    (.ok (), { m with analyses := before ++ p.apply a :: behind }) := by
  simp only [Memory.answer, updateFirst_rid_eq hm hbefore ha]

theorem answer_updateJob {id : String} {p : JobPatch} {jobs : List Job}
    (hjobs : ChangesFirst (fun j => j.executionId == some id) p.apply a.jobs jobs) :
    m.answer (.updateJob (.job rid id) p) =
      (.ok (), { m with analyses := before ++ { a with jobs := jobs } :: behind }) := by
  have hany : a.jobs.any (fun j => j.executionId == some id) = true := by
    obtain ⟨_, j, _, hj, -, hid, -⟩ := hjobs
    rw [hj, List.any_eq_true]
    exact ⟨j, by simp, hid⟩
  have hchanges : ChangesFirstJob (.job rid id) id p m.analyses
      (before ++ { a with jobs := jobs } :: behind) := by
    refine ⟨before, a, behind, jobs, hm, fun b hb haccepts => ?_, ?_, hjobs, rfl⟩
    · simp [accepts_job, hbefore b hb] at haccepts
    · simp [accepts_job, ha, hany]
  have hid : ((Filter.job rid id).valueOf? .executionId).bind Value.text? = some id := rfl
  simp only [Memory.answer, hid, updateJobIn_eq_some_iff.mpr hchanges]

end Answers

/-! ## Whole schedules -/

theorem recorded_nil (hm : m.analyses = before ++ a :: behind) :
    Recorded m before a behind writers ([] : List ((ι ⊕ κ) × Call)) where
  grants := trivial
  nodup_recorders := .nil
  mem_recorders i := by simp [recorders, callsOf]
  analyses := by simp [recordedIn, recorders, appended, ← hm]

/-- One more call, which succeeds and makes what it should of the analysis. -/
theorem Recorded.snoc {t : ι ⊕ κ} (h : Recorded m before a behind writers done)
    {answer : c.Answer} {b : Analysis} (hok : answer.isOk = true)
    (hanswer :
      Memory.answer c { m with analyses := before ++ recordedIn a writers done :: behind } =
        (answer, { m with analyses := before ++ b :: behind }))
    (hb : recordedIn a writers (done ++ [(t, c)]) = b)
    (hnodup : (recorders (done ++ [(t, c)])).Nodup)
    (hmem : ∀ i, i ∈ recorders (done ++ [(t, c)]) ↔ callsOf (.inl i) (done ++ [(t, c)]) ≠ []) :
    Recorded m before a behind writers (done ++ [(t, c)]) where
  grants := by
    rw [List.map_append, Memory.grants_append, h.analyses]
    exact ⟨h.grants, by rw [List.map_singleton, Memory.Grants, hanswer]; exact ⟨hok, trivial⟩⟩
  nodup_recorders := hnodup
  mem_recorders := hmem
  analyses := by
    rw [List.map_append, Memory.after_append, h.analyses, List.map_singleton, Memory.after_cons,
      hanswer, Memory.after_nil, hb]

section Schedules

variable (hbefore : ∀ b ∈ before, b.rid ≠ rid) (ha : a.rid = rid)
  (hids : Function.Injective fun i => (writers i).id)
  (hnew : ∀ i, ∀ j ∈ a.jobs, j.executionId ≠ some (writers i).id)
include hbefore ha hids hnew

/-- **One more call of any task loses nothing.** -/
theorem Recorded.step {t : ι ⊕ κ} (h : Recorded m before a behind writers done)
    (hbegins : Begins (programs rid writers schedulers) (done ++ [(t, c)])) :
    Recorded m before a behind writers (done ++ [(t, c)]) := by
  have hnext := hbegins.getElem?_length
  have hrid : (recordedIn a writers done).rid = rid := ha
  rcases t with i | k
  · have hmem := h.mem_recorders i
    cases hcalls : (callsOf (.inl i) done).length with
    | zero =>
      rw [List.length_eq_zero_iff] at hcalls
      have hi : i ∉ recorders done := fun hi => hmem.mp hi hcalls
      obtain rfl : .pushJob (.rid rid) (writers i).job = c := by
        simpa [hcalls, programs, Writer.calls] using hnext
      refine h.snoc rfl (answer_pushJob rfl hbefore hrid _) (recordedIn_push hcalls hi) ?_
        fun u => ?_
      · rw [recorders_snoc_pushJob, ← List.concat_eq_append]
        exact h.nodup_recorders.concat hi
      · rw [recorders_snoc_pushJob, List.mem_append, h.mem_recorders, callsOf_snoc_ne_nil]
        rw [List.mem_singleton, Sum.inl.injEq, eq_comm (a := u)]
    | succ n =>
      have hbegun : callsOf (.inl i) done ≠ [] := by
        rw [← List.length_pos_iff]
        omega
      obtain ⟨p, hp, rfl⟩ : ∃ p, (writers i).patches[n]? = some p ∧
          .updateJob (.job rid (writers i).id) p = c := by
        simpa [hcalls, programs, Writer.calls] using hnext
      have hchanges := changesFirst_recordedIn (f := .job rid (writers i).id) hids (hnew i)
        h.nodup_recorders (hmem.mpr hbegun) (by simpa [hcalls] using hp) hbegun
      refine h.snoc rfl (answer_updateJob rfl hbefore hrid hchanges) ?_ ?_ fun u => ?_
      · simp [recordedIn]
      · rw [recorders_snoc_updateJob]
        exact h.nodup_recorders
      · rw [recorders_snoc_updateJob, h.mem_recorders, callsOf_snoc_ne_nil]
        exact ⟨.inl, fun hu => hu.elim id fun he => Sum.inl.inj he ▸ hbegun⟩
  · obtain ⟨tests, -, rfl⟩ : ∃ tests, (schedulers k)[(callsOf (.inr k) done).length]? = some tests ∧
        .updateAnalysis (.rid rid) { append := tests } = c := by
      simpa [programs, schedulerCalls] using hnext
    refine h.snoc rfl (answer_updateAnalysis rfl hbefore hrid _) recordedIn_append ?_ fun u => ?_
    · rw [recorders_snoc_updateAnalysis]
      exact h.nodup_recorders
    · rw [recorders_snoc_updateAnalysis, h.mem_recorders, callsOf_snoc_ne_nil]
      simp

theorem recorded_of_begins (hm : m.analyses = before ++ a :: behind)
    (hbegins : Begins (programs rid writers schedulers) done) :
    Recorded m before a behind writers done := by
  induction done using List.reverseRecOn with
  | nil => exact recorded_nil hm
  | append_singleton done e ih =>
    exact (ih hbegins.of_snoc).step hbefore ha hids hnew hbegins

/-- **No update is lost between the writers of one analysis.**  Any tasks push a job each, under an
identifier of its own, and patch it; any others append to the tests that are to run.  However their
calls interleave, all of them succeed.  The analysis ends with one more job for each writer, in the
order of pushing, as its own patches make it, and with the appended tests, in the order of
appending; nothing else in the store has changed. -/
theorem writers_lose_nothing (hm : m.analyses = before ++ a :: behind)
    (h : Interleaves (programs rid writers schedulers) schedule) :
    m.Grants (schedule.map (·.2)) ∧ (recorders schedule).Nodup ∧ (∀ i, i ∈ recorders schedule) ∧
      m.after (schedule.map (·.2)) =
        { m with
          analyses := before ++
            { a with
              jobs := a.jobs ++ (recorders schedule).map fun i => (writers i).outcome
              securityTests := a.securityTests ++ appended schedule } :: behind } := by
  have hrecorded := recorded_of_begins hbefore ha hids hnew hm h.begins
  have hcalls : ∀ i, callsOf (.inl i) schedule = (writers i).calls rid := fun i => h (.inl i)
  have hentry : entry writers schedule = fun i => (writers i).outcome := by
    funext i
    simp [entry, hcalls, Writer.calls, Writer.draft_length]
  refine ⟨hrecorded.grants, hrecorded.nodup_recorders, fun i => ?_, ?_⟩
  · rw [hrecorded.mem_recorders, hcalls]
    simp [Writer.calls]
  · rw [hrecorded.analyses, recordedIn, hentry]

end Schedules

/-! ## A schedule of three tasks -/

/-- A writer that starts a job and no more. -/
def starter (test : SecurityTest) (id : String) : Writer where
  job := .created test id
  id := id
  executionId_job := rfl
  patches := [{ status := some .running }]

/-- Two writers start jobs while a third task appends a test, and an earlier analysis has a job with
the identifier of one of them.  The writer that pushed first patches last, and hits its own job. -/
theorem two_starters_lose_nothing :
    let test : SecurityTest := ⟨"gosec", "tools/gosec", "v2", "gosec ./...", "go", true, 60⟩
    let rid : Uuid := ⟨List.replicate 32 0, rfl⟩
    let a : Analysis := ⟨rid, "https://example.org/a.git", [test], [], .running, none,
      ⟨⟨2024, 1, 1, by decide⟩, 0, 0, 0, 0, by decide⟩, none⟩
    let earlier : Analysis :=
      { a with rid := ⟨List.replicate 32 1, rfl⟩, jobs := [.created test "a"] }
    (⟨[], [], [earlier, a]⟩ : Memory).after
        [.pushJob (.rid rid) (.created test "b"), .pushJob (.rid rid) (.created test "a"),
          .updateAnalysis (.rid rid) { append := [test] },
          .updateJob (.job rid "a") { status := some .running },
          .updateJob (.job rid "b") { status := some .running }] =
      ⟨[], [], [earlier, { a with
        jobs := [(starter test "b").outcome, (starter test "a").outcome]
        securityTests := [test, test] }]⟩ := by
  intro test rid a earlier
  let writers (first : Bool) : Writer := starter test (if first then "b" else "a")
  let schedule : List ((Bool ⊕ Unit) × Call) :=
    [(.inl true, .pushJob (.rid rid) (.created test "b")),
      (.inl false, .pushJob (.rid rid) (.created test "a")),
      (.inr (), .updateAnalysis (.rid rid) { append := [test] }),
      (.inl false, .updateJob (.job rid "a") { status := some .running }),
      (.inl true, .updateJob (.job rid "b") { status := some .running })]
  have hbefore : ∀ b ∈ [earlier], b.rid ≠ rid := by decide
  have hids : Function.Injective fun first => (writers first).id := by
    rintro (_ | _) (_ | _) <;> decide
  have hnew : ∀ first, ∀ j ∈ a.jobs, j.executionId ≠ some (writers first).id := by simp [a]
  have hm : (⟨[], [], [earlier, a]⟩ : Memory).analyses = [earlier] ++ a :: [] := rfl
  have hinterleaves : Interleaves (programs rid writers fun _ : Unit => [[test]]) schedule := by
    rintro ((_ | _) | _) <;> rfl
  exact (writers_lose_nothing hbefore rfl hids hnew hm hinterleaves).2.2.2

end Store
end ScanService
