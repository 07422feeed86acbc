import ScanService.Proofs.Jobs.Conservation

/-!
# What runs come to

As long as a backend's answers about a unit depend on nothing but what the unit is made of, it is
settled in advance what a run comes to, whatever happens around it.  A `Conduct` is such a backend,
and `Conduct.fate` is what a run comes to with it.

## What is here

* `Conduct.Governs` — in some turns the backend behaves according to a conduct.
* `RunStage.prospect` — what a run comes to that has reached a stage; steps leave it as it is
  (`Step.prospect`).
* `findings_perm_of_all_ended` — **when all runs of an analysis have ended, its entries say what the
  fates of its tests are**, in some order.
-/

namespace ScanService

/-- What an entry says, but for its unit and its times. -/
structure Findings where
  /-- The test that was run. -/
  securityTest : SecurityTest
  /-- How far it has come. -/
  status : JobStatus
  /-- What it has come to. -/
  verdict : Option Verdict
  /-- What the tool printed, or what became of it. -/
  output : String
  /-- What the tool found. -/
  issues : List Issue
  deriving DecidableEq

/-- What an entry says. -/
def Job.findings (j : Job) : Findings := ⟨j.securityTest, j.status, j.verdict, j.output, j.issues⟩

namespace Service

open Execution (UnitContext)

/-! ## Backends that take notice of units alone -/

/-- What a unit is made of. -/
structure Recipe where
  /-- The repository to which the command is applied. -/
  repositoryUrl : String
  /-- The image. -/
  image : String
  /-- The command. -/
  command : String

/-- The recipe for a test of a repository. -/
def Runner.recipe (r : Runner) (url : String) (test : SecurityTest) : Recipe :=
  ⟨url, test.imageRef, r.command test⟩

/-- A backend by what it does with units, depending on what they are made of. -/
structure Conduct where
  /-- Whether there is to be a unit. -/
  create (x : Recipe) : Except BackendError Unit
  /-- How it starts. -/
  start (x : Recipe) : Except BackendError Unit
  /-- How it ends, if it does within some time. -/
  wait (x : Recipe) (limit : Duration) : Except BackendError Unit
  /-- What it has printed. -/
  output (x : Recipe) : Except BackendError String

/-- The unit that a question is about. -/
def Call.unit? : Call → Option String
  | .backend (.startUnit id) | .backend (.waitUnit id _) | .backend (.readOutput id) => some id
  | _ => none

namespace Conduct

/-- The answers to questions about a unit that is made like this. -/
def Gives (b : Conduct) (x : Recipe) : (q : Call) → q.Answer → Prop
  | .backend (.createUnit _ _ _), answer => answer.map (fun _ => ()) = b.create x
  | .backend (.startUnit _), answer => answer = b.start x
  | .backend (.waitUnit _ limit), answer => answer = b.wait x limit
  | .backend (.readOutput _), answer => answer = b.output x
  | _, _ => True

/-- In some turns the backend behaves like this, at least towards tasks that ask about the units that
they have created. -/
structure Governs (b : Conduct) (t : List Crowd.Event) : Prop where
  /-- Whether a unit is created depends on what it is to be made of. -/
  creations : ∀ i ctx image command answer,
    ⟨i, .backend (.createUnit ctx image command), answer⟩ ∈ t →
      b.Gives ⟨ctx.repositoryUrl, image, command⟩ (.backend (.createUnit ctx image command)) answer
  /-- What becomes of it depends on what it is made of. -/
  units : ∀ i ctx image command id q answer,
    ⟨i, .backend (.createUnit ctx image command), .ok id⟩ ∈ t → q.unit? = some id →
      ⟨i, q, answer⟩ ∈ t → b.Gives ⟨ctx.repositoryUrl, image, command⟩ q answer

theorem Governs.mono {b : Conduct} {t t' : List Crowd.Event} (h : b.Governs t') (ht : t ⊆ t') :
    b.Governs t where
  creations i ctx image command answer hmem := h.creations i ctx image command answer (ht hmem)
  units i ctx image command id q answer hmade hq hmem :=
    h.units i ctx image command id q answer (ht hmade) hq (ht hmem)

end Conduct

/-! ## Fates -/

/-- What a run can come to. -/
inductive Fate where
  /-- There was no unit. -/
  | noUnit (reason : String)
  /-- The backend failed. -/
  | failed (reason : String)
  /-- The unit did not end in time. -/
  | timedOut
  /-- A report was read. -/
  | reported (report : String)

/-- What the entry of a run says in the end. -/
def Fate.findings (r : Runner) (test : SecurityTest) : Fate → Findings
  | noUnit reason | failed reason => ⟨test, .error, some .error, reason, []⟩
  | timedOut => ⟨test, .finished, some .error, waitTimeoutOutput, []⟩
  | reported report =>
    ⟨test, .finished, (r.evaluate test report).verdict, (r.evaluate test report).output,
      (r.evaluate test report).issues⟩

/-- The fate that an ending is. -/
def Ending.fate : Ending → Fate
  | failed reason => .failed reason
  | timedOut => .timedOut
  | reported reading => .reported reading.report

namespace Conduct

variable (b : Conduct) (x : Recipe) (limit : Duration)

/-- What a run comes to whose unit has ended. -/
def fateOfOutput : Fate :=
  match b.output x with
  | .ok report => .reported report
  | .error e => .failed e.toServiceError.message

/-- What a run comes to whose unit has been started. -/
def fateOfWait : Fate :=
  match b.wait x limit with
  | .ok _ => b.fateOfOutput x
  | .error (.timeout _) => .timedOut
  | .error e => .failed e.toServiceError.message

/-- What a run comes to whose unit has been created. -/
def fateOfStart : Fate :=
  match b.start x with
  | .ok _ => b.fateOfWait x limit
  | .error e => .failed e.toServiceError.message

/-- What a run comes to. -/
def fate : Fate :=
  match b.create x with
  | .ok _ => b.fateOfStart x limit
  | .error e => .noUnit e.toServiceError.message

end Conduct

namespace RunStage

variable {r : Runner} {ctx : UnitContext} {test : SecurityTest} {known : List SecurityTest}
  {st st' : RunStage} {tests : List SecurityTest} {b : Conduct} {x : Recipe} {limit : Duration}
  {t : List Crowd.Event} {i : Nat}

/-- What a run comes to that has reached a stage. -/
def prospect (b : Conduct) (x : Recipe) (limit : Duration) : RunStage → Fate
  | prepare _ _ => b.fate x limit
  | recordFailure reason _ | noUnit reason _ => .noUnit reason
  | recordUnit _ | startUnit _ => b.fateOfStart x limit
  | recordStart _ _ | awaitUnit _ _ => b.fateOfWait x limit
  | readReport _ _ => b.fateOfOutput x
  | follow _ _ reading _ => .reported reading.report
  | recordEnd _ _ ending _ | ended _ _ ending _ => ending.fate

/-- A step leaves the prospect as it is. -/
theorem Step.prospect {q : Call} {answer : q.Answer}
    (h : st.Step r ctx test known q answer st' tests) (hb : b.Gives x q answer) :
    st'.prospect b x test.timeout = st.prospect b x test.timeout := by
  cases h with
  | image | failureRecorded | unitRecorded | startRecorded | lookedUp | selectionRecorded
  | scheduledRead | nothingToFollow | testsRecorded | testsRefused | endRecorded => rfl
  | unitCreated id =>
    have hcreate : Except.ok () = b.create x := hb
    simp only [RunStage.prospect, Conduct.fate, ← hcreate]
  | unitRefused e now =>
    have hcreate : Except.error e = b.create x := hb
    simp only [RunStage.prospect, Conduct.fate, ← hcreate]
  | started now =>
    have hstart : Except.ok () = b.start x := hb
    simp only [RunStage.prospect, Conduct.fateOfStart, ← hstart]
  | startFailed e now =>
    have hstart : Except.error e = b.start x := hb
    simp only [RunStage.prospect, Conduct.fateOfStart, Ending.fate, ← hstart]
  | awaited =>
    have hwait : Except.ok () = b.wait x test.timeout := hb
    simp only [RunStage.prospect, Conduct.fateOfWait, ← hwait]
  | timedOut after now =>
    have hwait : Except.error (.timeout after) = b.wait x test.timeout := hb
    simp only [RunStage.prospect, Conduct.fateOfWait, Ending.fate, ← hwait]
  | @waitFailed id startedAt e he now =>
    have hwait : Except.error e = b.wait x test.timeout := hb
    simp only [RunStage.prospect, Conduct.fateOfWait, Ending.fate, ← hwait]
  | detected report | read report =>
    have houtput : Except.ok report = b.output x := hb
    simp only [RunStage.prospect, Conduct.fateOfOutput, Ending.fate, ← houtput]
  | readFailed e now =>
    have houtput : Except.error e = b.output x := hb
    simp only [RunStage.prospect, Conduct.fateOfOutput, Ending.fate, ← houtput]

/-- The run in some place comes to its fate, and the turn in which it has created its unit is one of
these. -/
structure IsFated (r : Runner) (b : Conduct) (t : List Crowd.Event) (i : Nat) (ctx : UnitContext)
    (test : SecurityTest) (st : RunStage) : Prop where
  /-- It comes to its fate. -/
  prospect : st.prospect b (r.recipe ctx.repositoryUrl test) test.timeout =
    b.fate (r.recipe ctx.repositoryUrl test) test.timeout
  /-- It has created its unit. -/
  created : ∀ id, st.unit? = some id →
    ⟨i, .backend (.createUnit ctx test.imageRef (r.command test)), .ok id⟩ ∈ t

theorem IsFated.mono {t' : List Crowd.Event} (h : st.IsFated r b t i ctx test) (ht : t ⊆ t') :
    st.IsFated r b t' i ctx test :=
  ⟨h.prospect, fun id hid => ht (h.created id hid)⟩

/-- What a run is told in a turn is what the conduct gives for its recipe. -/
theorem Step.gives {q : Call} {answer : q.Answer}
    (h : st.Step r ctx test known q answer st' tests) (hst : st.IsFated r b t i ctx test)
    (hb : b.Governs (t ++ [⟨i, q, answer⟩])) :
    b.Gives (r.recipe ctx.repositoryUrl test) q answer := by
  have hlast : (⟨i, q, answer⟩ : Crowd.Event) ∈ t ++ [⟨i, q, answer⟩] := by simp
  have hunit : ∀ id, q.unit? = some id → st.unit? = some id →
      b.Gives (r.recipe ctx.repositoryUrl test) q answer := fun id hq hid =>
    hb.units i ctx _ _ id q answer (List.mem_append_left _ (hst.created id hid)) hq hlast
  cases h with
  | @image _ _ _ _ c answer hc =>
    cases c with
    | imageIsLoaded | pullImage => exact True.intro
    | _ => exact hc.elim
  | unitCreated | unitRefused => exact hb.creations i ctx _ _ _ hlast
  | started | startFailed | awaited | timedOut | waitFailed | detected | read | readFailed =>
    exact hunit _ rfl rfl
  | _ => exact True.intro

/-- **A step keeps a run to its fate.** -/
theorem Step.isFated {q : Call} {answer : q.Answer}
    (h : st.Step r ctx test known q answer st' tests) (hst : st.IsFated r b t i ctx test)
    (hb : b.Governs (t ++ [⟨i, q, answer⟩])) :
    st'.IsFated r b (t ++ [⟨i, q, answer⟩]) i ctx test where
  prospect := (h.prospect (h.gives hst hb)).trans hst.prospect
  created id hid := by
    rcases h.unit? with hsame | ⟨id', hid', he⟩
    · exact List.mem_append_left _ (hst.created id (hsame ▸ hid))
    · obtain rfl : id' = id := Option.some.inj (hid'.symm.trans hid)
      cases he
      exact List.mem_append_right _ (List.mem_singleton.mpr rfl)

/-- What a run has come to, once it is known. -/
def fate? : RunStage → Option Fate
  | recordFailure reason _ | noUnit reason _ => some (.noUnit reason)
  | follow _ _ reading _ => some (.reported reading.report)
  | recordEnd _ _ ending _ | ended _ _ ending _ => some ending.fate
  | _ => none

/-- What is known of a run is what it comes to. -/
theorem prospect_of_fate? {fate : Fate} (h : st.fate? = some fate) : st.prospect b x limit = fate := by
  cases st <;> cases h <;> rfl

/-- What the job of a run says that has ended. -/
theorem findings_of_entry? {job : Job} (h : st.entry? r test = some job)
    (hended : st.isEnded = true) :
    ∃ fate, st.fate? = some fate ∧ job.findings = fate.findings r test := by
  cases st with
  | noUnit reason now =>
    cases h
    exact ⟨_, rfl, rfl⟩
  | ended id startedAt ending now =>
    cases h
    refine ⟨_, rfl, ?_⟩
    cases ending <;> cases startedAt <;> simp [Job.findings, Ending.fate, Fate.findings,
      Ending.patch, Store.JobPatch.apply, knownJob, startPatch, Job.created]
  | _ => cases hended

end RunStage

/-! ## All runs -/

namespace Staging

variable {r : Runner} {w : Surroundings} {c : Staging} {b : Conduct}

/-- All runs of an analysis that has been admitted meanwhile come to their fates. -/
theorem isFated_of_history {start : Staging} {t : List Crowd.Event} (h : History r w start t c)
    (hb : b.Governs t) {ctx : UnitContext}
    (hnew : ∀ (i : Nat) (test : SecurityTest) (stage : RunStage),
      start.stages[i]? ≠ some (.run ctx test stage)) {j : Nat}
    {test : SecurityTest} {stage : RunStage} (hj : c.stages[j]? = some (.run ctx test stage)) :
    stage.IsFated r b t j ctx test := by
  induction h generalizing j test stage with
  | start => exact absurd hj (hnew j test stage)
  | request _ he ih => exact ih hb (run_of_request he hj)
  | @turn t c c' i q answer _ hturn ih =>
    have ih := fun {j test stage} => @ih (hb.mono (List.subset_append_left _ _)) j test stage
    rcases hturn.cases_run hj with ⟨rfl, stage₀, tests, hi, hstep⟩ | ⟨-, hj⟩ | ⟨-, rfl⟩
    · exact hstep.isFated (ih hi) hb
    · exact (ih hj).mono (List.subset_append_left _ _)
    · exact ⟨rfl, fun id hid => by cases hid⟩

/-- **When all runs of an analysis have ended, its entries say what the fates of its tests are**, in
some order. -/
theorem findings_perm_of_all_ended (hc : c.Kept r) (hx : c.Exact r) (hu : c.UnitsApart)
    {a : Analysis} (ha : a ∈ c.store.analyses)
    (hended : ∀ ctx test, (c.crowd r).HasLiveRun ctx test → ctx.rid ≠ a.rid)
    {t : List Crowd.Event} (hfated : ∀ {i : Nat} {ctx : UnitContext} {test : SecurityTest}
      {stage : RunStage}, c.stages[i]? = some (.run ctx test stage) → ctx.rid = a.rid →
        stage.IsFated r b t i ctx test) :
    (a.jobs.map Job.findings).Perm (a.securityTests.map fun test =>
      (b.fate (r.recipe a.url test) test.timeout).findings r test) := by
  refine ((hx a ha).perm_of_known (hc.balances a ha) account_sane nodup_places
    (hu.distinct_account a.rid) fun i hi => ?_).2
  obtain ⟨ctx, test, stage, hrid, hi⟩ := exists_run_of_mem_places hi
  have hstage : stage.isEnded = true := isEnded_of_all_ended hended hi hrid
  obtain ⟨job, hjob, -⟩ := RunStage.isEnded_iff.mp hstage
  refine ⟨job, hrid ▸ (known_of_run hi).trans hjob, ?_⟩
  have hurl : ctx.repositoryUrl = a.url := (hc.urls i ctx test stage hi a ha hrid.symm).symm
  have hfate := (hfated hi hrid).prospect
  obtain ⟨fate, hknown, hfindings⟩ := RunStage.findings_of_entry? hjob hstage
  rw [RunStage.securityTest_of_entry? hjob, ← hurl, ← hfate, RunStage.prospect_of_fate? hknown]
  exact hfindings

end Staging
end Service
end ScanService
