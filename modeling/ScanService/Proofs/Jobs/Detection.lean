import ScanService.Proofs.Jobs.Fate
import ScanService.Proofs.Stages.Registration
import ScanService.Proofs.Store.Repositories

/-!
# The detection of a repository's languages

A repository is analysed, and no test is registered meanwhile.  All that becomes of the repository and
of the tests of the analysis is up to the one run of the detector, which

* selects tests for the languages that its tool has found,
* writes the languages and the tests into the repository, and then
* appends those tests to the analysis' that are not scheduled yet.

So there are three phases: before the repository is changed, between the two changes, and after them.
A `Phase` is which of them it is, and for which languages; what the repository is and which tests the
analysis has can be told from the phase and from what was stored at the outset.  In each stage of the
detector's run one phase is possible (`RunStage.phase`), and what the run knows in that stage is what
it must for the step to the next one (`RunStage.Fits`).

## What is here

* `Outset` — what is stored at the outset; the tests with which an analysis begins, and those that are
  selected and that follow for detected languages.
* `RunStage.phase`, `Fate.phase` — the phase that a stage of the detector's run is in, and the one in
  which a fate leaves it.
* `Step.fits_store`, `Step.fits_backend` — a step leaves what the run must know in the next stage.
* `Step.repository_store` — **a step of the detector's run leaves the repository of the next stage's
  phase.**
-/

namespace ScanService
namespace Service

open Execution (UnitContext)
open Store (RepositoryPatch)

/-! ## Outsets and phases -/

/-- What is stored at the outset. -/
structure Outset where
  /-- The repository. -/
  repository : Repository
  /-- The registered tests. -/
  known : List SecurityTest
  /-- The analyses that there have been. -/
  earlier : List Uuid

namespace Outset

variable (o : Outset)

/-- Where the repository is. -/
def url : String := o.repository.url

/-- A run is of the repository and of an analysis that there has not been at the outset. -/
structure Concerns (ctx : UnitContext) : Prop where
  /-- It is of the repository. -/
  url_eq : ctx.repositoryUrl = o.url
  /-- It is of another analysis than there have been. -/
  not_earlier : ctx.rid ∉ o.earlier

/-- The tests with which the analysis begins. -/
def tests : List SecurityTest :=
  if lacksDetector o.repository then
    (o.known.find? (·.name == SecurityTest.detectorName)).toList ++ o.repository.securityTests
  else o.repository.securityTests

/-- The default tests of a language. -/
def defaultsFor (language : String) : List SecurityTest :=
  o.known.filter fun test => test.language == language && test.isDefault

/-- The tests that are selected for detected languages. -/
def selection (languages : List String) : List SecurityTest :=
  (lookups languages).flatMap o.defaultsFor

/-- The tests that follow for detected languages. -/
def followUps (languages : List String) : List SecurityTest :=
  Service.followUps (o.tests.map (·.name)) (o.selection languages)

end Outset

/-- How far the detection has come. -/
inductive Phase where
  /-- Nothing has been recorded. -/
  | waiting
  /-- The repository has been changed. -/
  | selected (languages : List String)
  /-- The tests that follow have been appended to those of the analysis, too. -/
  | followed (languages : List String)

namespace Phase

variable (o : Outset)

/-- The repository in a phase. -/
def repository : Phase → Repository
  | waiting => o.repository
  | selected languages | followed languages =>
    { o.repository with languages := languages, securityTests := o.selection languages }

/-- The tests of the analysis in a phase. -/
def tests : Phase → List SecurityTest
  | waiting | selected _ => o.tests
  | followed languages => o.tests ++ o.followUps languages

end Phase

/-- The phase in which the fate of the detector's run leaves the detection. -/
def Fate.phase (r : Runner) (test : SecurityTest) : Fate → Phase
  | reported report =>
    if (r.evaluate test report).verdict = some .passed then
      .followed (r.evaluate test report).languages
    else .waiting
  | noUnit _ | failed _ | timedOut => .waiting

/-- The phase in which the detection is when the detector's run is in a stage. -/
def RunStage.phase (r : Runner) (test : SecurityTest) : RunStage → Phase
  | follow _ _ _ (.lookUp _ _) => .waiting
  | follow _ _ reading (.readScheduled _) | follow _ _ reading (.recordTests _) =>
    .selected (r.evaluate test reading.report).languages
  | recordEnd _ _ ending _ | ended _ _ ending _ => ending.fate.phase r test
  | _ => .waiting

/-- A run that has ended leaves the detection as its fate does. -/
theorem RunStage.phase_of_isEnded {r : Runner} {test : SecurityTest} {st : RunStage}
    (h : st.isEnded = true) (b : Conduct) (x : Recipe) (limit : Duration) :
    st.phase r test = (st.prospect b x limit).phase r test := by
  cases st with
  | noUnit | ended => rfl
  | _ => cases h

/-! ## What is known in a stage -/

/-- What a detector has selected is what it must for its languages. -/
def FollowStage.Fits (o : Outset) (languages : List String) : FollowStage → Prop
  | lookUp rest selected => selected ++ rest.flatMap o.defaultsFor = o.selection languages
  | readScheduled selected => selected = o.selection languages
  | recordTests tests => tests = o.followUps languages

/-- So it is with a run of the detector. -/
def RunStage.Fits (r : Runner) (o : Outset) (test : SecurityTest) : RunStage → Prop
  | follow _ _ reading stage => (r.evaluate test reading.report).verdict = some .passed ∧
    stage.Fits o (r.evaluate test reading.report).languages
  | _ => True

/-- An admission knows the repository as it was at the outset. -/
def AdmissionStage.Fits (o : Outset) : AdmissionStage → Prop
  | findRunning repository | finalize repository _ _ =>
    repository.url = o.url → repository = o.repository
  | findDetector repository => lacksDetector repository = true ∧
    (repository.url = o.url → repository = o.repository)
  | insert repository tests _ _ => repository.url = o.url → tests = o.tests
  | enter | findRepository | ended _ => True

/-- The repository has not been analysed since the outset. -/
def Outset.IsFirst (o : Outset) (m : Store.Memory) : Prop :=
  ∀ a ∈ m.analyses, ¬o.Concerns ⟨a.rid, a.url⟩

/-- Earlier runs have ended and a run of the detector is in a phase; an admission knows the repository
as it was unless it is being analysed; and registrations only register. -/
def Stage.Fits (r : Runner) (o : Outset) (p : Phase) (m : Store.Memory) : Stage → Prop
  | run ctx test stage => (ctx.rid ∈ o.earlier → stage.isEnded = true) ∧
    (o.Concerns ctx → test.name = SecurityTest.detectorName →
      stage.phase r test = p ∧ stage.Fits r o test)
  | admission _ stage => o.IsFirst m → stage.Fits o
  | status _ _ => True
  | plain _ rest _ _ => rest.OnlyAsks Call.registers

variable {r : Runner} {o : Outset} {p : Phase} {m m' : Store.Memory} {w : Surroundings}

theorem Errand.onlyAsks_registers {e : Errand} (he : e.registers = true) :
    (e.task r).OnlyAsks Call.registers := by
  cases e with
  | registerRepository form => exact registerRepository_onlyAsks form
  | registerSecurityTest form =>
    exact (registerSecurityTest_onlyAsks form).imp fun _ => Call.registers_of_concernsTests
  | ensureDefaults => exact ensureDefaults_onlyAsks.imp fun _ => Call.registers_of_concernsTests
  | analyse | status | run => cases he

/-- Whoever begins fits as long as nothing has been recorded; so does whoever is not the detector. -/
theorem Stage.fits_begin {e : Errand} (he : ∀ ctx test, e = .run ctx test → ctx.rid ∉ o.earlier ∧
    (o.Concerns ctx → test.name = SecurityTest.detectorName → p = .waiting)) :
    (begin r e).Fits r o p m := by
  cases e with
  | run ctx test =>
    obtain ⟨hnew, hwaiting⟩ := he ctx test rfl
    exact ⟨fun hold => absurd hold hnew, fun hctx hname => ⟨(hwaiting hctx hname).symm, True.intro⟩⟩
  | analyse => exact fun _ => True.intro
  | status => exact True.intro
  | registerRepository form => exact Errand.onlyAsks_registers (r := r) (e := .registerRepository form) rfl
  | registerSecurityTest form =>
    exact Errand.onlyAsks_registers (r := r) (e := .registerSecurityTest form) rfl
  | ensureDefaults => exact Errand.onlyAsks_registers (r := r) (e := .ensureDefaults) rfl

/-- The tests in all phases have different names. -/
theorem Phase.namesApart_tests (h : NamesApart o.tests) : NamesApart (p.tests o) := by
  cases p with
  | waiting | selected => exact h
  | followed languages =>
    rw [NamesApart, Phase.tests, List.map_append, List.nodup_append']
    refine ⟨h, nodup_map_firstBy _ _, fun name hname hname' => ?_⟩
    obtain ⟨test, htest, rfl⟩ := List.mem_map.mp hname'
    exact (mem_of_mem_firstBy htest).2 hname

/-! ## Steps of the detector's run -/

namespace RunStage

variable {ctx : UnitContext} {test : SecurityTest} {st st' : RunStage} {tests : List SecurityTest}

/-- A step that is answered by the backend records nothing. -/
theorem Step.fits_backend {q : Execution.Call} {answer : q.Answer}
    (h : st.Step r ctx test o.known (.backend q) answer st' tests)
    (hname : test.name = SecurityTest.detectorName) :
    st'.phase r test = st.phase r test ∧ st'.Fits r o test := by
  cases h with
  | detected report hd => exact ⟨rfl, hd.2, rfl⟩
  | read report hd =>
    have hnot : (r.evaluate test report).verdict ≠ some .passed := fun hv => hd ⟨hname, hv⟩
    refine ⟨?_, True.intro⟩
    simp only [RunStage.phase, Ending.fate, Fate.phase, if_neg hnot]
  | _ => exact ⟨rfl, True.intro⟩

/-- A step that is answered by the store leaves what it must. -/
theorem Step.fits_store {q : Store.Call} {answer : q.Answer}
    (h : st.Step r ctx test m.securityTests (.store q) answer st' tests)
    (ha : w.reliable.Stores q m answer m') (hknown : m.securityTests = o.known)
    (hn : (m.analyses.map Analysis.rid).Nodup) {a : Analysis} (hmem : a ∈ m.analyses)
    (hrid : a.rid = ctx.rid) (htests : a.securityTests = (st.phase r test).tests o)
    (hst : st.Fits r o test) : st'.Fits r o test := by
  cases h with
  | @lookedUp id startedAt reading language rest selected answer =>
    refine ⟨hst.1, ?_⟩
    have hselection : selected ++ (language :: rest).flatMap o.defaultsFor = _ := hst.2
    rw [List.flatMap_cons, ← List.append_assoc] at hselection
    cases answer with
    | error e => cases w.stores_reliable ha
    | ok found =>
      rw [w.reliable.filter_of_stores_findSecurityTests ha, hknown]
      exact hselection
  | selectionRecorded answer =>
    refine ⟨hst.1, ?_⟩
    have hselection : _ ++ [] = o.selection _ := hst.2
    rwa [List.append_nil] at hselection
  | @scheduledRead id startedAt reading selected tests answer hfollow =>
    refine ⟨hst.1, ?_⟩
    have hselection : selected = o.selection _ := hst.2
    have hscheduled : a.pendingNames = o.tests.map (·.name) := congrArg (List.map _) htests
    rw [w.reliable.pendingNames_eq_of_stores_findAnalysis ha (w.stores_findAnalysis_ne_error ha) hn
      hmem hrid, hscheduled, hselection] at hfollow
    exact hfollow
  | _ => exact True.intro

/-- The phase after the last of the follow-up tests. -/
theorem phase_recordEnd {id : String} {startedAt : Option Timestamp} {reading : Reading}
    {now : Timestamp} (h : (r.evaluate test reading.report).verdict = some .passed) :
    (recordEnd id startedAt (.reported reading) now).phase r test =
      .followed (r.evaluate test reading.report).languages :=
  if_pos h

/-- **The repository is changed by the step that leads to the next phase, and by no other.** -/
theorem Step.repository_store {q : Store.Call} {answer : q.Answer}
    (h : st.Step r ctx test m.securityTests (.store q) answer st' tests)
    (ha : w.reliable.Stores q m answer m') (hurl : ctx.repositoryUrl = o.url)
    (hst : st.Fits r o test)
    (hm : m.repositories.find? (·.url == o.url) = some ((st.phase r test).repository o)) :
    m'.repositories.find? (·.url == o.url) = some ((st'.phase r test).repository o) := by
  cases h with
  | @selectionRecorded id startedAt reading selected answer =>
    have hselection : selected ++ [] = o.selection _ := hst.2
    rw [List.append_nil] at hselection
    rw [w.find?_repositories_of_update ha hm, if_pos hurl, hselection]
    rfl
  | nothingToFollow hnone now | testsRecorded now | testsRefused e now =>
    rw [phase_recordEnd hst.1]
    exact w.reliable.find?_repositories_of_ne ha nofun hm
  | _ => exact w.reliable.find?_repositories_of_ne ha nofun hm

/-- A step that appends no test leaves those that the analysis must have. -/
theorem Step.phase_tests {q : Store.Call} {answer : q.Answer}
    (h : st.Step r ctx test m.securityTests (.store q) answer st' tests)
    (ha : w.reliable.Stores q m answer m') (hn : (m.analyses.map Analysis.rid).Nodup) {a : Analysis}
    (hmem : a ∈ m.analyses) (hrid : a.rid = ctx.rid)
    (htests : a.securityTests = (st.phase r test).tests o) (hst : st.Fits r o test)
    (hnot : ∀ id startedAt reading tests, st ≠ .follow id startedAt reading (.recordTests tests)) :
    (st'.phase r test).tests o = (st.phase r test).tests o := by
  cases h with
  | @nothingToFollow id startedAt reading selected answer hnone now =>
    have hselection : selected = o.selection _ := hst.2
    have hscheduled : a.pendingNames = o.tests.map (·.name) := congrArg (List.map _) htests
    rw [w.reliable.pendingNames_eq_of_stores_findAnalysis ha (w.stores_findAnalysis_ne_error ha) hn
      hmem hrid, hscheduled, hselection] at hnone
    have hfollow : o.followUps (r.evaluate test reading.report).languages = [] := hnone
    rw [phase_recordEnd hst.1, Phase.tests, hfollow, List.append_nil]
    rfl
  | testsRecorded | testsRefused => exact absurd rfl (hnot _ _ _ _)
  | _ => rfl

end RunStage

/-! ## Steps of an admission -/

namespace AdmissionStage

/-- An admission goes on with the repository that it knows. -/
theorem Proceeds.fits {url : String} {repository : Repository} {running : List Analysis}
    {st : AdmissionStage} (h : Proceeds url repository running st)
    (hx : repository.url = o.url → repository = o.repository) : st.Fits o := by
  cases h with
  | conflict => exact True.intro
  | finalize => exact hx
  | detect h => exact ⟨h, hx⟩
  | insert h rid now =>
    intro hurl
    rw [hx hurl] at h ⊢
    rw [Outset.tests, h, if_neg Bool.false_ne_true]

/-- A step of an admission goes on with what was known at the outset, if nothing has been recorded
yet. -/
theorem Step.fits {url : String} {st st' : AdmissionStage} {q : Store.Call} {answer : q.Answer}
    {admitted : Option Analysis} (h : st.Step url (.store q) answer st' admitted)
    (ha : w.Stores q m answer m') (hst : st.Fits o) (hknown : m.securityTests = o.known)
    (hm : m.repositories.find? (·.url == o.url) = some o.repository) : st'.Fits o := by
  cases h with
  | failed | unknown | inserted => exact True.intro
  | found repository =>
    intro hurl
    have hfound := w.find?_of_stores_findRepository ha
    rw [← (w.stores_findRepository ha).1, hurl, hm] at hfound
    exact Option.some.inj hfound
  | foundRunning hp | finalized hp => exact hp.fits hst
  | @detectorFound repository detector rid now =>
    intro hurl
    have hfound := w.find?_of_stores_findSecurityTest ha
    obtain ⟨hlacks, hx⟩ := hst
    rw [hx hurl] at hlacks ⊢
    rw [Outset.tests, hlacks, if_pos rfl, hfound, hknown]

end AdmissionStage

/-- Whoever has no turn fits as before, unless the detector's run has had one. -/
theorem Stage.Fits.mono {x : Stage} (h : x.Fits r o p m) (hm : o.IsFirst m' → o.IsFirst m) :
    x.Fits r o p m' := by
  cases x with
  | admission => exact fun hfirst => h (hm hfirst)
  | run | status | plain => exact h

end Service
end ScanService
