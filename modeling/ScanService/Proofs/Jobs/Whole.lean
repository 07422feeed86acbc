import ScanService.Proofs.Jobs.Conservation
import ScanService.Proofs.Jobs.Progress
import ScanService.Proofs.Report.Builtin
import ScanService.Proofs.Schedule

/-!
# Job entries are written whole

A run ends its entry with one patch, which says all there is to say: the verdict, the output, the
issues and the time.  Before that the entry says nothing.  This is so whatever else the run has
tried to write, and failed to: the patch that gets through finds an entry that still says nothing,
or there is no entry at all.

## What is here

* `Job.IsBlank`, `Job.Follows` — an entry that says nothing yet, and an entry that says nothing yet
  or what its run takes the job to be.
* `Staging.follows_history` — **every entry follows the job of its run.**
* `Staging.unitAnswersAt_history`, `Staging.read_history` — what the events say of the unit of a
  run, and of what it has read.
* `Crowd.WritesWhole` — all that there is to say of an entry; `Staging.writesWhole_of_entry` and
  `Crowd.WritesWhole.of_follows` say that it holds of what a run takes its job to be, and of the
  entries that follow.
* `entries_are_whole` — all of this at the level of crowds, and for readers.
-/

namespace ScanService

open Store (JobPatch)

/-! ## Entries and jobs -/

namespace Job

/-- A job that has not ended, and of which nothing is said yet. -/
structure IsBlank (j : Job) : Prop where
  isTerminal : j.status.isTerminal = false
  verdict : j.verdict = none
  output : j.output = ""
  issues : j.issues = []
  finishedAt : j.finishedAt = none

/-- Two jobs say the same; when they were started is left open. -/
structure Agrees (j job : Job) : Prop where
  status : j.status = job.status
  verdict : j.verdict = job.verdict
  output : j.output = job.output
  issues : j.issues = job.issues
  finishedAt : j.finishedAt = job.finishedAt

/-- An entry says nothing yet, or what its run takes the job to be. -/
def Follows (j job : Job) : Prop := j.Matches job ∧ (j.IsBlank ∨ j.Agrees job)

variable {j job : Job}

theorem follows_refl (job : Job) : job.Follows job :=
  ⟨⟨rfl, rfl⟩, .inr ⟨rfl, rfl, rfl, rfl, rfl⟩⟩

/-- As long as nothing is said of the job, the entry says nothing. -/
theorem Follows.isBlank (h : j.Follows job) (hjob : job.IsBlank) : j.IsBlank := by
  obtain ⟨-, hblank | hagrees⟩ := h
  · exact hblank
  · exact ⟨hagrees.status ▸ hjob.isTerminal, hagrees.verdict.trans hjob.verdict,
      hagrees.output.trans hjob.output, hagrees.issues.trans hjob.issues,
      hagrees.finishedAt.trans hjob.finishedAt⟩

/-- **A patch that ends a job, or says nothing of it, does the same to the entry**, whether or not
the entry has got all patches before. -/
theorem Follows.apply (h : j.Follows job) (hjob : job.IsBlank) {p : JobPatch}
    (hp : (p.apply job).IsBlank ∨ (p.apply job).status.isTerminal = true) :
    (p.apply j).Follows (p.apply job) := by
  obtain ⟨hterminal, hverdict, houtput, hissues, hfinished⟩ := h.isBlank hjob
  refine ⟨h.1, ?_⟩
  cases hstatus : p.status with
  | some status =>
    refine .inr ⟨?_, ?_, ?_, ?_, ?_⟩ <;>
      simp [JobPatch.apply, hstatus, hverdict, houtput, hissues, hfinished, hjob.verdict,
        hjob.output, hjob.issues, hjob.finishedAt]
  | none =>
    -- such a patch leaves the job as far as it was, so it says nothing
    have hblank : (p.apply job).IsBlank := by
      refine hp.resolve_right ?_
      simp [JobPatch.apply, hstatus, hjob.isTerminal]
    refine .inl ⟨by simpa [JobPatch.apply, hstatus] using hterminal, ?_, ?_, ?_, ?_⟩
    · simpa [JobPatch.apply, hverdict, hjob.verdict] using hblank.verdict
    · simpa [JobPatch.apply, houtput, hjob.output] using hblank.output
    · simpa [JobPatch.apply, hissues, hjob.issues] using hblank.issues
    · simpa [JobPatch.apply, hfinished, hjob.finishedAt] using hblank.finishedAt

end Job

namespace Service

open Execution (UnitContext)

/-! ## What runs take their jobs to be -/

namespace RunStage

variable {r : Runner} {test : SecurityTest} {st : RunStage} {job : Job}

theorem isBlank_knownJob (test : SecurityTest) (id : String) (startedAt : Option Timestamp) :
    (knownJob test id startedAt).IsBlank := by
  cases startedAt <;> exact ⟨rfl, rfl, rfl, rfl, rfl⟩

/-- Nothing is said of the job of a run that has not ended. -/
theorem isBlank_of_entry (h : st.entry? r test = some job) (hlive : st.isEnded = false) :
    job.IsBlank := by
  cases st with
  | noUnit | ended => cases hlive
  | prepare | recordFailure | recordUnit => cases h
  | _ =>
    cases h
    exact isBlank_knownJob _ _ _

theorem isBlank_or_isTerminal (h : st.entry? r test = some job) :
    job.IsBlank ∨ job.status.isTerminal = true := by
  cases hlive : st.isEnded with
  | false => exact .inl (isBlank_of_entry h hlive)
  | true =>
    obtain ⟨job', hjob', hterminal⟩ := isEnded_iff.mp hlive
    obtain rfl := Option.some.inj (h.symm.trans hjob')
    exact .inr hterminal

end RunStage

namespace Staging

variable {r : Runner} {w : Surroundings} {c c' : Staging} {i : Nat} {q : Call} {answer : q.Answer}

/-- **Every entry follows the job of its run**, and the books are kept. -/
theorem follows_history {m : Store.Memory} (hm : m.analyses = []) {t : List Crowd.Event}
    (h : History r w (idle m) t c) : c.Kept r ∧ c.Relates Job.Follows r := by
  refine relates_history hm (fun _ hc hturn hx => ?_) h
  refine hx.turn hc hturn (fun _ _ h => h.1.1) Job.follows_refl
    fun _ hlive _ hjob hjob' j hj => ?_
  have hblank := RunStage.isBlank_of_entry hjob hlive
  exact ⟨hj.apply hblank (RunStage.isBlank_or_isTerminal hjob'), hj.1, .inl (hj.isBlank hblank)⟩

end Staging

/-! ## What the events say of runs -/

/-- The answer of the backend to a question for a unit. -/
def Call.unitAnswer? : (q : Call) → q.Answer → Option (Except BackendError String)
  | .backend (.createUnit _ _ _), answer => some answer
  | _, _ => none

/-- What the task in one place was answered when it asked for units. -/
def Crowd.unitAnswers (t : List Crowd.Event) (i : Nat) : List (Except BackendError String) :=
  (t.filter (·.place == i)).filterMap fun e => e.call.unitAnswer? e.answer

/-- What a run has got for a unit, once it has asked for one. -/
def RunStage.unitAnswers : RunStage → List (Option String)
  | prepare _ _ => []
  | st => [st.unit?]

/-- So for all tasks. -/
def Stage.unitAnswers : Stage → List (Option String)
  | run _ _ stage => stage.unitAnswers
  | _ => []

theorem Stage.unitAnswers_begin (r : Runner) (e : Errand) : (begin r e).unitAnswers = [] := by
  cases e <;> rfl

/-- A run asks for a unit once. -/
theorem RunStage.Step.unitAnswers {r : Runner} {ctx : UnitContext} {test : SecurityTest}
    {known : List SecurityTest} {st st' : RunStage} {c : Call} {answer : c.Answer}
    {tests : List SecurityTest} (h : st.Step r ctx test known c answer st' tests) :
    st'.unitAnswers = st.unitAnswers ++ (c.unitAnswer? answer).toList.map Except.toOption := by
  cases h with
  | @image images images' h h' c answer hc => cases c <;> first | rfl | exact hc.elim
  | _ => rfl

theorem RunStage.unitAnswers_of_entry {r : Runner} {test : SecurityTest} {st : RunStage} {job : Job}
    (h : st.entry? r test = some job) : st.unitAnswers = [job.executionId] := by
  rw [← unit?_of_entry? h]
  cases st <;> first | rfl | cases h

namespace Staging

variable {r : Runner} {w : Surroundings} {c c' : Staging} {i : Nat} {q : Call} {answer : q.Answer}

/-- What the task in one place has got for a unit. -/
def unitAnswersAt (c : Staging) (i : Nat) : List (Option String) :=
  (c.stages[i]?.map Stage.unitAnswers).getD []

/-- Whoever begins behind the others has not asked for a unit. -/
theorem unitAnswersAt_append {stages : List Stage} (launched : List Errand) (j : Nat) :
    ((stages ++ launched.map (Stage.begin r))[j]?.map Stage.unitAnswers).getD [] =
      (stages[j]?.map Stage.unitAnswers).getD [] := by
  rw [List.getElem?_append]
  split
  · rfl
  · next hlt =>
    have hnone : stages[j]? = none := List.getElem?_eq_none (by omega)
    rw [hnone, List.getElem?_map]
    cases launched[j - stages.length]? <;> simp [Stage.unitAnswers_begin]

theorem unitAnswersAt_goOn {old : Stage} (hi : c.stages[i]? = some old) (stage : Stage)
    (launched : List Errand) (j : Nat) : (c.goOn r i stage launched).unitAnswersAt j =
      if j = i then stage.unitAnswers else c.unitAnswersAt j := by
  have hlt : i < c.stages.length := (List.getElem?_eq_some_iff.mp hi).1
  rw [unitAnswersAt, goOn, unitAnswersAt_append]
  split
  · next he => rw [he, List.getElem?_set_self hlt, Option.map_some, Option.getD_some]
  · next hne => rw [List.getElem?_set_ne (Ne.symm hne), unitAnswersAt]

/-- What a task has got for a unit, it had before a turn, or it has got in this turn. -/
theorem Turn.unitAnswersAt (h : Turn r w i q answer c c') (j : Nat) :
    c'.unitAnswersAt j = c.unitAnswersAt j ++
      if j = i then (q.unitAnswer? answer).toList.map Except.toOption else [] := by
  have hgoOn : ∀ {old stage : Stage} {launched : List Errand}, c.stages[i]? = some old →
      stage.unitAnswers = old.unitAnswers ++ (q.unitAnswer? answer).toList.map Except.toOption →
        (c.goOn r i stage launched).unitAnswersAt j = c.unitAnswersAt j ++
          if j = i then (q.unitAnswer? answer).toList.map Except.toOption else [] := by
    intro old stage launched hi hstage
    rw [unitAnswersAt_goOn hi]
    split
    · next he => rw [hstage, Staging.unitAnswersAt, he, hi, Option.map_some, Option.getD_some]
    · exact (List.append_nil _).symm
  cases h with
  | runStore hi _ h | runBackend hi _ h => exact hgoOn hi h.unitAnswers
  | enter hi | admission hi | status hi | plain hi => exact hgoOn hi rfl

/-- **What a run has got for a unit is what the events say.** -/
theorem unitAnswersAt_history {m : Store.Memory} {t : List Crowd.Event}
    (h : History r w (idle m) t c) (j : Nat) :
    (Crowd.unitAnswers t j).map Except.toOption = c.unitAnswersAt j := by
  induction h with
  | start => rfl
  | @request t c e _ _ ih =>
    rw [ih]
    exact (unitAnswersAt_append (r := r) [e] j).symm
  | @turn t c c' i q answer _ hturn ih =>
    rw [hturn.unitAnswersAt, ← ih, Crowd.unitAnswers, Crowd.unitAnswers, List.filter_append,
      List.filterMap_append, List.map_append]
    by_cases hj : j = i
    · subst hj
      cases h : q.unitAnswer? answer <;> simp [h]
    · simp [hj, Ne.symm hj]

/-- **What a run has read has been read in a turn of its own.** -/
theorem read_history {m : Store.Memory} {t : List Crowd.Event} (h : History r w (idle m) t c)
    {j : Nat} {ctx : UnitContext} {test : SecurityTest} {stage : RunStage} {reading : Reading}
    (hj : c.stages[j]? = some (.run ctx test stage)) (hread : stage.reading? = some reading) :
    ∃ id, stage.unit? = some id ∧ ⟨j, .backend (.readOutput id), .ok reading.report⟩ ∈ t := by
  induction h generalizing j ctx test stage with
  | start => cases hj
  | request _ he ih => exact ih (run_of_request he hj) hread
  | turn _ hturn ih =>
    rcases hturn.cases_run hj with ⟨rfl, stage₀, tests, hi, hstep⟩ | ⟨-, hj⟩ | ⟨-, rfl⟩
    · rcases hstep.reading?_origin j hread with ⟨hread, hunit⟩ | ⟨id, hunit, -, he⟩
      · obtain ⟨id, hid, hmem⟩ := ih hi hread
        exact ⟨id, hunit.trans hid, List.mem_append_left _ hmem⟩
      · exact ⟨id, hunit, by simp [he]⟩
    · obtain ⟨id, hid, hmem⟩ := ih hj hread
      exact ⟨id, hid, List.mem_append_left _ hmem⟩
    · cases hread

end Staging

/-! ## Entries that are written whole -/

/-- In some turns the task in one place has asked for a unit once, and this is what it has got: the
unit that was created for it, or none if that failed. -/
def Crowd.GetsUnit (t : List Crowd.Event) (i : Nat) (unit : Option String) : Prop :=
  ∃ answer, Crowd.unitAnswers t i = [answer] ∧ unit = answer.toOption

/-- In some turns the run in one place has written its entry whole: the entry says nothing until it
says all there is to say. -/
structure Crowd.WritesWhole (r : Runner) (t : List Crowd.Event) (i : Nat) (j : Job) : Prop where
  /-- Its unit is what the run has got. -/
  unit : Crowd.GetsUnit t i j.executionId
  /-- Until it has ended it says nothing. -/
  blank : j.status = .created ∨ j.status = .running →
    j.verdict = none ∧ j.output = "" ∧ j.issues = [] ∧ j.finishedAt = none
  /-- If it has ended in error, that is the verdict. -/
  error : j.status = .error → j.verdict = some .error ∧ j.issues = [] ∧ j.finishedAt ≠ none
  /-- If it is finished it says that the time was up, or what was read of its unit. -/
  finished : j.status = .finished → j.finishedAt ≠ none ∧
    (j.verdict = some .error ∧ j.output = waitTimeoutOutput ∧ j.issues = [] ∨
      ∃ id report, j.executionId = some id ∧ ⟨i, .backend (.readOutput id), .ok report⟩ ∈ t ∧
        j.verdict = (r.evaluate j.securityTest report).verdict ∧
        j.output = (r.evaluate j.securityTest report).output ∧
        j.issues = (r.evaluate j.securityTest report).issues)

variable {r : Runner} {t : List Crowd.Event} {i : Nat} {j job : Job}

/-- A job of which nothing is said is whole, as long as it has the unit of its run. -/
theorem Crowd.writesWhole_of_isBlank (h : j.IsBlank) (hunit : Crowd.GetsUnit t i j.executionId) :
    Crowd.WritesWhole r t i j := by
  have hterminal := h.isTerminal
  refine ⟨hunit, fun _ => ⟨h.verdict, h.output, h.issues, h.finishedAt⟩, fun he => ?_, fun he => ?_⟩
  all_goals
    rw [he] at hterminal
    cases hterminal

/-- What follows a job that is whole is whole. -/
theorem Crowd.WritesWhole.of_follows (h : Crowd.WritesWhole r t i job) (hj : j.Follows job) :
    Crowd.WritesWhole r t i j := by
  obtain ⟨⟨hid, htest⟩, hblank | ⟨hstatus, hverdict, houtput, hissues, hfinished⟩⟩ := hj
  · exact writesWhole_of_isBlank hblank (hid ▸ h.unit)
  · refine ⟨hid ▸ h.unit, fun he => ?_, fun he => ?_, fun he => ?_⟩
    · rw [hverdict, houtput, hissues, hfinished]
      exact h.blank (hstatus ▸ he)
    · rw [hverdict, hissues, hfinished]
      exact h.error (hstatus ▸ he)
    · rw [hverdict, houtput, hissues, hfinished, hid, htest]
      exact h.finished (hstatus ▸ he)

/-- **An ending says all there is to say** of a job of which nothing has been said. -/
theorem Crowd.writesWhole_of_ending (h : job.IsBlank)
    (hunit : Crowd.GetsUnit t i job.executionId) (ending : Ending) (now : Timestamp)
    (hread : ∀ reading, ending = .reported reading → ∃ id, job.executionId = some id ∧
      ⟨i, .backend (.readOutput id), .ok reading.report⟩ ∈ t) :
    Crowd.WritesWhole r t i ((ending.patch r job.securityTest now).apply job) := by
  obtain ⟨-, hverdict, -, hissues, -⟩ := h
  cases ending with
  | failed reason =>
    exact ⟨hunit, nofun, fun _ => ⟨rfl, hissues, Option.some_ne_none _⟩, nofun⟩
  | timedOut =>
    exact ⟨hunit, nofun, nofun, fun _ => ⟨Option.some_ne_none _, .inl ⟨rfl, rfl, hissues⟩⟩⟩
  | reported reading =>
    obtain ⟨id, hid, hmem⟩ := hread reading rfl
    refine ⟨hunit, nofun, nofun, fun _ => ⟨Option.some_ne_none _,
      .inr ⟨id, reading.report, hid, hmem, ?_, rfl, rfl⟩⟩⟩
    -- a verdict that was there would have stayed if the report had none
    show ((r.evaluate job.securityTest reading.report).verdict <|> job.verdict) =
      (r.evaluate job.securityTest reading.report).verdict
    simp [hverdict]

/-- What a run takes its job to be is whole. -/
theorem Staging.writesWhole_of_entry {w : Surroundings} {m : Store.Memory} {c : Staging}
    (h : History r w (idle m) t c) {ctx : UnitContext} {test : SecurityTest} {stage : RunStage}
    (hi : c.stages[i]? = some (.run ctx test stage)) (hjob : stage.entry? r test = some job) :
    Crowd.WritesWhole r t i job := by
  have hunit : Crowd.GetsUnit t i job.executionId := by
    have hanswers := unitAnswersAt_history h i
    rw [unitAnswersAt, hi, Option.map_some, Option.getD_some, Stage.unitAnswers,
      RunStage.unitAnswers_of_entry hjob, List.map_eq_singleton_iff] at hanswers
    obtain ⟨answer, he, hid⟩ := hanswers
    exact ⟨answer, he, hid.symm⟩
  cases hended : stage.isEnded with
  | false => exact Crowd.writesWhole_of_isBlank (RunStage.isBlank_of_entry hjob hended) hunit
  | true =>
    cases stage with
    | noUnit reason now =>
      cases hjob
      exact ⟨hunit, nofun, fun _ => ⟨rfl, rfl, Option.some_ne_none _⟩, nofun⟩
    | ended id startedAt ending now =>
      obtain rfl := Option.some.inj hjob
      have htest := securityTest_knownJob test id startedAt
      have hid := executionId_knownJob test id startedAt
      have hwhole := Crowd.writesWhole_of_ending (r := r)
        (RunStage.isBlank_knownJob test id startedAt) hunit ending now fun reading he => ?_
      · rwa [htest] at hwhole
      · subst he
        obtain ⟨id', hid', hmem⟩ := read_history h hi rfl
        obtain rfl := Option.some.inj hid'
        exact ⟨id, hid, hmem⟩
    | _ => cases hended

/-- With the built-in readers, only the job of a clean report is left without a verdict. -/
theorem Crowd.WritesWhole.of_verdict_eq_none (h : Crowd.WritesWhole r t i j)
    (hr : r.readers = .builtin) (hstatus : j.status = .finished) (hverdict : j.verdict = none) :
    Text.lowercase j.securityTest.name = "safety" ∧ j.output = Report.noIssues ∧ j.issues = [] ∧
      ∃ id report, j.executionId = some id ∧ ⟨i, .backend (.readOutput id), .ok report⟩ ∈ t ∧
        Report.SafetyReport.IsClean report := by
  obtain ⟨-, ⟨hv, -⟩ | ⟨id, report, hid, hmem, hv, houtput, hissues⟩⟩ := h.finished hstatus
  · cases hverdict.symm.trans hv
  · rw [hverdict] at hv
    obtain ⟨hclean, he⟩ := Runner.evaluate_of_verdict_eq_none hr hv.symm
    rw [he] at houtput hissues
    exact ⟨Runner.lowercase_eq_safety hr hv.symm, houtput, hissues, id, report, hid, hmem, hclean⟩

/-! ## Crowds -/

variable {w : Surroundings} {m : Store.Memory} {s s' : Crowd}

/-- **A reader that has been told of a job that has ended is told the same ever after.** -/
theorem Crowd.told?_of_reachable (hm : m.analyses = [])
    (h : Crowd.Reachable r w.withFreshUnits (.idle m) s)
    (h' : Crowd.Reachable r w.withFreshUnits s s') {rid : Uuid} {b : Analysis}
    (hb : s.told? rid = some b) : ∃ b', s'.told? rid = some b' ∧
      ∀ (n : Nat) (j : Job), b.jobs[n]? = some j → j.status.isTerminal = true →
        b'.jobs[n]? = some j := by
  have hgrows := h.grows Job.Advances.refl Job.Advances.trans (fun hc hturn => hturn.advances hm hc)
    h'
  obtain ⟨t, c, hhist, rfl⟩ := Staging.exists_staging_of_reachable h
  obtain ⟨t', c', hhist', rfl⟩ := Staging.exists_staging_of_reachable (h.trans h')
  obtain ⟨a, ha, rfl, rfl⟩ :=
    (Staging.told?_crowd_iff ((Staging.kept_idle (r := r) hm).history hhist).rids).mp hb
  obtain ⟨n, hn⟩ := List.mem_iff_getElem?.mp ha
  obtain ⟨a', ha', hrid, hjobs⟩ := hgrows n a hn
  refine ⟨a'.snapshot, (Staging.told?_crowd_iff
    ((Staging.kept_idle (r := r) hm).history hhist').rids).mpr
      ⟨a', List.mem_of_getElem? ha', hrid, rfl⟩, fun k j hj hterminal => ?_⟩
  obtain ⟨j', hj', hadvances⟩ := hjobs k j hj
  exact hj'.trans (congrArg some (hadvances.eq_of_isTerminal hterminal))

/-- **Job entries are written whole.**  Start from a store without analyses, and let no two units of
an analysis have one identifier.  Whatever turns are taken, whatever the backend answers and
whichever calls to the store fail, at all times:

* each entry is whole: it has the unit that was created for the run that has recorded it, says
  nothing until it has ended, and then all that there is to say;
* where the built-in readers are used, an entry that is finished without a verdict is one of Safety,
  its report is clean, and its output says that there are no issues;
* a reader that is told of a job that has ended is told the same of it ever after. -/
theorem entries_are_whole (hm : m.analyses = []) {t : List Crowd.Event}
    (h : Crowd.History r w.withFreshUnits (.idle m) t s) :
    (∀ a ∈ s.store.analyses, List.Forall₂ (fun i j => Crowd.WritesWhole r t i j ∧
        (r.readers = .builtin → j.status = .finished → j.verdict = none →
          Text.lowercase j.securityTest.name = "safety" ∧ j.output = Report.noIssues ∧
            j.issues = [] ∧ ∃ id report, j.executionId = some id ∧
              ⟨i, .backend (.readOutput id), .ok report⟩ ∈ t ∧
                Report.SafetyReport.IsClean report))
      (Crowd.recorders t a.rid) a.jobs) ∧
    ∀ s', Crowd.Reachable r w.withFreshUnits s s' → ∀ rid b, s.told? rid = some b →
      ∃ b', s'.told? rid = some b' ∧ ∀ (n : Nat) (j : Job), b.jobs[n]? = some j →
        j.status.isTerminal = true → b'.jobs[n]? = some j := by
  refine ⟨fun a ha => ?_, fun s' h' rid b hb => ?_⟩
  · obtain ⟨c, hhist, rfl⟩ := Staging.exists_staging (c := .idle m) h
    have hd := (Staging.unitsApart_history hhist).distinct_account (r := r) a.rid
    have hfollows := (Staging.follows_history hm hhist).2 a ha hd
    rw [Account.Tracks, Staging.owners_account hhist] at hfollows
    refine hfollows.imp fun i j hentry => ?_
    obtain ⟨job, hknown, hfollows⟩ := hentry
    obtain ⟨ctx, stage, -, hi, hjob⟩ := Staging.exists_run_of_known hknown
    have hwhole := (Staging.writesWhole_of_entry hhist hi hjob).of_follows hfollows
    exact ⟨hwhole, hwhole.of_verdict_eq_none⟩
  · exact Crowd.told?_of_reachable hm (Crowd.reachable_iff_exists_history.mpr ⟨t, h⟩) h' hb

/-- The same, but the store loses every record of the start of a unit. -/
def Cue.withoutStarts : Cue → Cue
  | .request e => .request e
  | .turn i x => .turn i { x with
      failure := fun c =>
        match c with
        | .updateJob _ p => if p.startedAt.isSome then some (.persistence "job") else x.failure c
        | c => x.failure c }

/-- In the sample the store loses the start of the detector's unit; its entry is finished all the
same, and whole. -/
theorem entries_are_whole_sample : ∃ s t a j,
    Crowd.follow Script.sampleRunner
        ((Script.sample.schedule (Script.admission ++ List.replicate 13 (.turn 1))).map
          Cue.withoutStarts) (.idle Script.sampleStore) = some (s, t) ∧
      s.store.analyses = [a] ∧ a.jobs = [j] ∧ j.status = .finished ∧ j.startedAt = none ∧
      Crowd.recorders t a.rid = [1] ∧ Crowd.WritesWhole Script.sampleRunner t 1 j := by
  obtain ⟨s, t, a, j, hs, hfresh, hstored, hjobs, hstatus, hstart, hrecorders⟩ : ∃ s t a j,
      Crowd.follow Script.sampleRunner
          ((Script.sample.schedule (Script.admission ++ List.replicate 13 (.turn 1))).map
            Cue.withoutStarts) (.idle Script.sampleStore) = some (s, t) ∧
        Crowd.createsFresh [] t = true ∧ s.store.analyses = [a] ∧ a.jobs = [j] ∧
        j.status = .finished ∧ j.startedAt = none ∧ Crowd.recorders t a.rid = [1] :=
    ⟨_, _, _, _, rfl, rfl, rfl, rfl, rfl, rfl, rfl⟩
  have hhist := Crowd.history_of_follow (w := Surroundings.arbitrary.withFreshUnits) .start hs
    (fun cue _ => cue.isAllowedBy_of_forall fun _ _ => True.intro)
    (Surroundings.allow_of_createsFresh (fun _ _ _ => True.intro) hfresh)
  have hwhole := (entries_are_whole rfl hhist).1 a (hstored ▸ List.mem_cons_self)
  rw [List.nil_append, hrecorders, hjobs, List.forall₂_cons] at hwhole
  exact ⟨s, t, a, j, hs, hstored, hjobs, hstatus, hstart, hrecorders, hwhole.1.1⟩

end Service
end ScanService
