import ScanService.Proofs.Jobs.Conservation
import ScanService.Proofs.Jobs.Coverage
import ScanService.Proofs.Jobs.Newcomers
import ScanService.Proofs.Jobs.Readings
import ScanService.Proofs.Report.Builtin
import ScanService.Proofs.Schedule
import ScanService.Proofs.Stages.Registration
import ScanService.Proofs.Store.Repositories

/-!
# Tests of different names

Of the tests that a repository is registered with, no two have one name, and a detector makes no run
of a test that is scheduled already.  But when a detector reports the name of the pseudo-language of
generic tests, these are selected twice, and what has been selected is recorded for the repository
as it is.  So the next analysis runs them twice.  There is no other way for a name to occur twice.

## What is here

* `Staging.Tidy` — the tests of repositories and of analyses have different names, where nothing
  excuses them.
* `Tidy.turn` — turns keep it so, as long as what a detector reports in them is no excuse.
* `scheduled_names_apart` — **names occur twice only where a detector has reported the
  pseudo-language.**
* `scheduled_names_not_apart` — and there they do.
-/

namespace ScanService

open Store (editAnalysis)

/-! ## What calls make of tests -/

namespace Service.Surroundings

open Store

variable {w : Surroundings} {m m' : Memory}

/-- No test is registered under a name that is taken. -/
theorem stores_namesApart {c : Store.Call} {answer : c.Answer} (h : w.Stores c m answer m')
    (hm : NamesApart m.securityTests) : NamesApart m'.securityTests := by
  rcases w.stores_securityTests_cases h with he | ⟨test, -, hnew, he⟩
  · rwa [he]
  · rw [he, NamesApart, List.map_append, List.map_singleton, ← List.concat_eq_append]
    exact List.Nodup.concat hnew hm

/-- What is found is what may be found among tests of different names. -/
theorem mayBe_of_stores {c : Store.Call} {answer : c.Answer} (h : w.Stores c m answer m')
    (hm : NamesApart m.securityTests) : (Call.store c).MayBe answer := by
  cases c with
  | findSecurityTest f =>
    rintro test rfl
    have h := congrArg Prod.fst (stores_ok h)
    simp only [Memory.answer, Except.ok.injEq] at h
    exact List.find?_some h.symm
  | findSecurityTests f =>
    rintro tests rfl
    have h := congrArg Prod.fst (stores_ok h)
    simp only [Memory.answer, Except.ok.injEq] at h
    exact h ▸ hm.filter f.accepts
  | _ => exact True.intro

end Service.Surroundings

namespace Service

open Execution (UnitContext)

/-! ## Excuses -/

/-- The report of a detector that has passed has a language looked up twice. -/
def Runner.Repeats (r : Runner) (test : SecurityTest) (report : String) : Prop :=
  test.name = SecurityTest.detectorName ∧ (r.evaluate test report).verdict = some .passed ∧
    ¬(lookups (r.evaluate test report).languages).Nodup

/-- In some turns such a report has been read for a repository. -/
def Staging.HasRepeated (r : Runner) (t : List Crowd.Event) (c : Staging) (url : String) : Prop :=
  ∃ (i : Nat) (ctx : UnitContext) (test : SecurityTest) (stage : RunStage) (id report : String),
    c.stages[i]? = some (.run ctx test stage) ∧ ctx.repositoryUrl = url ∧
      ⟨i, .backend (.readOutput id), .ok report⟩ ∈ t ∧ r.Repeats test report

/-! ## Tidy stages -/

/-- A detector that sees to follow-up tests has selected tests of different names, and records none
whose name is scheduled. -/
def FollowStage.IsTidy (m : Store.Memory) (rid : Uuid) : FollowStage → Prop
  | lookUp rest selected => rest.Nodup ∧ NamesApart selected ∧
    ∀ test ∈ selected, test ∈ m.securityTests ∧ test.language ∉ rest
  | readScheduled selected => NamesApart selected
  | recordTests tests => NamesApart tests ∧
    ∀ a ∈ m.analyses, a.rid = rid → ∀ test ∈ tests, test.name ∉ a.pendingNames

/-- So it is with a run, if it is that of a detector. -/
def RunStage.IsTidy (m : Store.Memory) (rid : Uuid) : RunStage → Prop
  | follow _ _ _ stage => stage.IsTidy m rid
  | _ => True

/-- An admission knows a repository whose tests have different names, unless it is excused. -/
def AdmissionStage.IsTidy (S : String → Prop) : AdmissionStage → Prop
  | findRunning repository | finalize repository _ _ =>
    S repository.url ∨ NamesApart repository.securityTests
  | findDetector repository =>
    lacksDetector repository = true ∧ (S repository.url ∨ NamesApart repository.securityTests)
  | insert repository tests _ _ => S repository.url ∨ NamesApart tests
  | enter | findRepository | ended _ => True

/-- No task brings tests of one name together, unless it is excused. -/
def Stage.IsTidy (S : String → Prop) (m : Store.Memory) : Stage → Prop
  | run ctx _ stage => S ctx.repositoryUrl ∨ stage.IsTidy m ctx.rid
  | admission _ stage => stage.IsTidy S
  | status _ _ => True
  | plain _ rest _ _ => Task.Keeps (fun _ => True) rest

variable {r : Runner} {S : String → Prop} {m : Store.Memory}

theorem Stage.isTidy_begin (e : Errand) : (begin r e).IsTidy S m := by
  cases e with
  | run ctx test => exact .inr True.intro
  | analyse | status => exact True.intro
  | registerRepository form => exact Errand.keeps r (e := .registerRepository form) rfl
  | registerSecurityTest form => exact Errand.keeps r (e := .registerSecurityTest form) rfl
  | ensureDefaults => exact Errand.keeps r (e := .ensureDefaults) rfl

namespace AdmissionStage

theorem Proceeds.isTidy {url : String} {repository : Repository} {running : List Analysis}
    {st : AdmissionStage} (h : Proceeds url repository running st)
    (hx : S repository.url ∨ NamesApart repository.securityTests) : st.IsTidy S := by
  cases h with
  | conflict => exact True.intro
  | finalize => exact hx
  | detect h => exact ⟨h, hx⟩
  | insert => exact hx

end AdmissionStage

namespace RunStage

variable {w : Surroundings} {ctx : UnitContext} {test : SecurityTest} {m' : Store.Memory}
  {st st' : RunStage} {tests : List SecurityTest}

/-- The default tests of another language have other names. -/
theorem isTidy_lookUp {rid : Uuid} {language : String} {rest : List String}
    {selected : List SecurityTest} {answer : Except ServiceError (List SecurityTest)}
    (ha : w.Stores (.findSecurityTests (.defaultsFor language)) m answer m')
    (hm : NamesApart m.securityTests) (hst : (FollowStage.lookUp (language :: rest)
      selected).IsTidy m rid) :
    (FollowStage.lookUp rest (selected ++ answer.toOption.getD [])).IsTidy m rid := by
  obtain ⟨hrest, hselected, hmem⟩ := hst
  rw [List.nodup_cons] at hrest
  have hfound : ∀ test ∈ answer.toOption.getD [],
      test ∈ m.securityTests ∧ test.language = language := by
    intro test htest
    cases answer with
    | error e => cases htest
    | ok found =>
      rw [Except.toOption, Option.getD_some, w.filter_of_stores_findSecurityTests ha,
        List.mem_filter, Bool.and_eq_true, beq_iff_eq] at htest
      exact ⟨htest.1, htest.2.1⟩
  have hapart : NamesApart (answer.toOption.getD []) := by
    cases answer with
    | error e => exact List.nodup_nil
    | ok found => exact w.mayBe_of_stores ha hm found rfl
  refine ⟨hrest.2, ?_, fun test htest => ?_⟩
  · rw [NamesApart, List.map_append, List.nodup_append']
    refine ⟨hselected, hapart, fun name hname hname' => ?_⟩
    obtain ⟨test, htest, rfl⟩ := List.mem_map.mp hname
    obtain ⟨other, hother, he⟩ := List.mem_map.mp hname'
    -- there is one registered test of the name, and it is for one language
    obtain rfl : other = test :=
      List.inj_on_of_nodup_map hm (hfound other hother).1 (hmem test htest).1 he
    exact (hmem other htest).2 ((hfound other hother).2 ▸ List.mem_cons_self)
  · rcases List.mem_append.mp htest with htest | htest
    · exact ⟨(hmem test htest).1, fun h => (hmem test htest).2 (List.mem_cons_of_mem _ h)⟩
    · exact ⟨(hfound test htest).1, (hfound test htest).2 ▸ hrest.1⟩

/-- **A step that is answered by the store stays tidy.** -/
theorem Step.isTidy_store {q : Store.Call} {answer : q.Answer}
    (h : st.Step r ctx test m.securityTests (.store q) answer st' tests)
    (ha : w.reliable.Stores q m answer m') (hm : NamesApart m.securityTests)
    (hn : (m.analyses.map Analysis.rid).Nodup) (hst : st.IsTidy m ctx.rid) :
    st'.IsTidy m' ctx.rid := by
  cases h with
  | lookedUp answer =>
    obtain rfl : m' = m := congrArg Prod.snd (w.stores_reliable ha)
    exact (isTidy_lookUp ha hm hst : FollowStage.IsTidy m' ctx.rid _)
  | selectionRecorded answer => exact hst.2.1
  | scheduledRead htests =>
    obtain rfl : m' = m := congrArg Prod.snd (w.stores_reliable ha)
    rw [htests]
    exact areNew_followUps ha (w.stores_findAnalysis_ne_error ha) hn _
  | _ => exact True.intro

/-- **A step that is answered by the backend stays tidy**, unless a report is read that is an
excuse. -/
theorem Step.isTidy_backend {q : Execution.Call} {answer : q.Answer} (i : Nat)
    (h : st.Step r ctx test m.securityTests (.backend q) answer st' tests)
    (hread : ∀ id report, (⟨i, .backend q, answer⟩ : Crowd.Event) =
      ⟨i, .backend (.readOutput id), .ok report⟩ → ¬r.Repeats test report) :
    st'.IsTidy m ctx.rid := by
  cases h with
  | detected report hd =>
    refine ⟨?_, List.nodup_nil, nofun⟩
    by_contra hrepeats
    exact hread _ _ rfl ⟨hd.1, hd.2, hrepeats⟩
  | _ => exact True.intro

end RunStage

/-! ## Tidy stagings -/

namespace Staging

variable {w : Surroundings} {c c' : Staging} {i : Nat}

/-- The tests of repositories and of analyses have different names, unless they are excused, and no
task is about to change that. -/
structure Tidy (S : String → Prop) (c : Staging) : Prop where
  /-- The tests that are registered have different names. -/
  tests : NamesApart c.store.securityTests
  /-- So have those of a repository. -/
  repositories : ∀ x ∈ c.store.repositories, S x.url ∨ NamesApart x.securityTests
  /-- So have those of an analysis. -/
  analyses : ∀ a ∈ c.store.analyses, S a.url ∨ NamesApart a.securityTests
  /-- All tasks are tidy. -/
  stages : ∀ (i : Nat) (x : Stage), c.stages[i]? = some x → x.IsTidy S c.store

/-! ### More excuses -/

variable {S' : String → Prop}

theorem isTidy_imp {x : Stage} (h : x.IsTidy S m) (hS : ∀ url, S url → S' url) :
    x.IsTidy S' m := by
  cases x with
  | run ctx test stage => exact Or.imp_left (hS _) h
  | admission url stage =>
    cases stage with
    | findRunning | finalize | insert => exact Or.imp_left (hS _) h
    | findDetector => exact ⟨h.1, Or.imp_left (hS _) h.2⟩
    | enter | findRepository | ended => exact True.intro
  | status => exact True.intro
  | plain => exact h

theorem Tidy.imp (h : c.Tidy S) (hS : ∀ url, S url → S' url) : c.Tidy S' where
  tests := h.tests
  repositories x hx := Or.imp_left (hS _) (h.repositories x hx)
  analyses a ha := Or.imp_left (hS _) (h.analyses a ha)
  stages i x hi := isTidy_imp (h.stages i x hi) hS

/-! ### Turns -/

/-- Whoever has no turn stays tidy: what a detector is about to record is not recorded by
another. -/
theorem Tidy.isTidy_of_ne (hx : c.Tidy S) (hc : c.Kept r) {m : Store.Memory} {t : List Crowd.Event}
    (hhist : History r w (idle m) t c) {q : Call} {answer : q.Answer}
    (h : Turn r w i q answer c c') {j : Nat} {x : Stage} (hj : c.stages[j]? = some x)
    (hne : j ≠ i) : x.IsTidy S c'.store := by
  have hold := hx.stages j x hj
  cases x with
  | admission | status | plain => exact hold
  | run ctx test stage =>
    rcases hold with hexcused | hold
    · exact .inl hexcused
    cases stage with
    | follow id startedAt reading stage =>
      cases stage with
      | lookUp rest selected =>
        exact .inr ⟨hold.1, hold.2.1, fun test htest =>
          ⟨h.securityTests_isPrefix.subset (hold.2.2 test htest).1, (hold.2.2 test htest).2⟩⟩
      | readScheduled selected => exact .inr hold
      | recordTests tests =>
        obtain ⟨a, ha, hrid, hurl⟩ := hc.mem_of_run hj
        rcases hx.analyses a ha with hexcused | hapart
        · exact .inl (hurl ▸ hexcused)
        refine .inr (areNew_of_turn h hc.rids (hrid ▸ List.mem_map_of_mem ha) hold ?_)
        rintro ctx' test' _ _ _ _ hi hctx
        -- two runs of one analysis would both be the detector's
        have hname := (keepsToFollowUps_of_history hhist hi).1.trans
          (keepsToFollowUps_of_history hhist hj).1.symm
        exact hne (hc.eq_of_name_eq ha hapart hi hj (hrid.trans hctx.symm) hrid hname).symm
    | _ => exact .inr True.intro

/-- Whoever has the turn stays tidy, unless it reads a report that is an excuse. -/
theorem Tidy.isTidy_of_turn (hx : c.Tidy S) (hc : c.Kept r) {q : Call} {answer : q.Answer}
    (h : Turn r w.reliable i q answer c c')
    (hread : ∀ (ctx : UnitContext) (test : SecurityTest) (stage : RunStage),
      c.stages[i]? = some (.run ctx test stage) → ∀ id report,
        (⟨i, q, answer⟩ : Crowd.Event) = ⟨i, .backend (.readOutput id), .ok report⟩ →
          r.Repeats test report → S ctx.repositoryUrl)
    {j : Nat} {x : Stage} (hj : c'.stages[j]? = some x) :
    x.IsTidy S c'.store ∨ j ≠ i ∧ c.stages[j]? = some x := by
  cases h with
  | @runStore _ ctx test stage stage' q answer m tests hi ha hstep =>
    rcases stages_goOn hj with ⟨-, rfl⟩ | h | ⟨e, -, rfl⟩
    · exact .inl (Or.imp_right (hstep.isTidy_store ha hx.tests hc.rids) (hx.stages i _ hi))
    · exact .inr h
    · exact .inl (Stage.isTidy_begin e)
  | @runBackend _ ctx test stage stage' q answer hi ha hstep =>
    rcases stages_goOn hj with ⟨-, rfl⟩ | h | ⟨e, -, rfl⟩
    · refine .inl ?_
      by_cases hexcused : S ctx.repositoryUrl
      · exact .inl hexcused
      · exact .inr (hstep.isTidy_backend i fun id report he hrepeats =>
          hexcused (hread ctx test stage hi id report he hrepeats))
    · exact .inr h
    · exact .inl (Stage.isTidy_begin e)
  | enter hi hg =>
    rcases stages_goOn hj with ⟨-, rfl⟩ | h | ⟨e, he, -⟩
    · exact .inl True.intro
    · exact .inr h
    · cases he
  | @admission _ url stage stage' q answer m admitted hi ha hstep =>
    rcases stages_goOn hj with ⟨-, rfl⟩ | h | ⟨e, -, rfl⟩
    · have hold := hx.stages i _ hi
      refine .inl ?_
      cases hstep with
      | failed | unknown | inserted => exact True.intro
      | found repository => exact hx.repositories repository (w.reliable.mem_of_stores_findRepository ha)
      | foundRunning hp | finalized hp => exact hp.isTidy hold
      | @detectorFound repository detector rid now =>
        refine Or.imp_right (fun hapart => ?_) hold.2
        refine namesApart_detector hapart hold.1 fun test htest => ?_
        have hfound := (w.reliable.find?_of_stores_findSecurityTest ha).symm.trans htest
        simpa using List.find?_some hfound
    · exact .inr h
    · exact .inl (Stage.isTidy_begin e)
  | status hi ha =>
    rcases stages_goOn hj with ⟨-, rfl⟩ | h | ⟨e, he, -⟩
    · exact .inl True.intro
    · exact .inr h
    · cases he
  | plain hi hq ha hrest =>
    rcases stages_goOn hj with ⟨-, rfl⟩ | h | ⟨e, he, -⟩
    · obtain ⟨next, s, s', rfl, ht⟩ := hrest
      have hold : Task.Keeps _ _ := hx.stages i _ hi
      exact .inl ((hold.2 _ (w.reliable.mayBe_of_stores ha hx.tests)).settles ht)
    · exact .inr h
    · cases he

/-- The repositories that are stored after a turn are tidy. -/
theorem Tidy.repositories_of_turn (hx : c.Tidy S) {q : Call} {answer : q.Answer}
    (h : Turn r w i q answer c c') {y : Repository} (hy : y ∈ c'.store.repositories) :
    S y.url ∨ NamesApart y.securityTests := by
  rcases h.repositories hy with
    hy | ⟨e, he, q', next, hp, hi, hq⟩ | ⟨ctx, test, id, startedAt, reading, selected, z, -, hi, hurl, rfl⟩
  · exact hx.repositories y hy
  · have hold : Task.Keeps _ _ := hx.stages i _ hi
    rcases hq with rfl | ⟨f, p, rfl⟩
    · exact .inr hold.1
    · exact hold.1.elim
  · -- a detector records what it has selected
    rcases hx.stages i _ hi with hexcused | hold
    · exact .inl (hurl ▸ hexcused)
    · exact .inr hold.2.1

/-- The analyses that are stored after a turn are tidy. -/
theorem Tidy.analyses_of_turn (hx : c.Tidy S) (hc : c.Kept r) {q : Call} {answer : q.Answer}
    (h : Turn r w i q answer c c') {a' : Analysis} (ha' : a' ∈ c'.store.analyses) :
    S a'.url ∨ NamesApart a'.securityTests := by
  rcases h.scheduled hc.rids ha' with
    ⟨ha, -, hurl, ht⟩ | @⟨ctx, _, _, _, _, tests, a, hi, ha, hctx, -, hurl, ht⟩ | ⟨hi, -, rfl⟩
  · rw [← hurl, ht]
    exact hx.analyses _ ha
  · rcases hx.stages i _ hi with hexcused | hold
    · refine .inl ?_
      rwa [← hurl, hc.urls i _ _ _ hi a ha hctx]
    · refine Or.imp (fun hexcused => hurl ▸ hexcused) (fun hapart => ?_) (hx.analyses a ha)
      rw [ht, NamesApart, List.map_append, List.nodup_append']
      refine ⟨hapart, hold.1, fun name hname hname' => ?_⟩
      obtain ⟨test, htest, rfl⟩ := List.mem_map.mp hname'
      exact hold.2 a ha hctx test htest hname
  · exact hx.stages i _ hi

/-- **Turns keep everything tidy**, as long as what is read in them is no excuse. -/
theorem Tidy.turn (hx : c.Tidy S) (hc : c.Kept r) {m : Store.Memory} {t : List Crowd.Event}
    (hhist : History r w.reliable (idle m) t c) {q : Call} {answer : q.Answer}
    (h : Turn r w.reliable i q answer c c')
    (hread : ∀ (ctx : UnitContext) (test : SecurityTest) (stage : RunStage),
      c.stages[i]? = some (.run ctx test stage) → ∀ id report,
        (⟨i, q, answer⟩ : Crowd.Event) = ⟨i, .backend (.readOutput id), .ok report⟩ →
          r.Repeats test report → S ctx.repositoryUrl) : c'.Tidy S where
  tests := by
    cases h with
    | runStore hi ha | admission hi ha | status hi ha =>
      exact w.reliable.stores_namesApart ha hx.tests
    | plain hi hq ha => exact w.reliable.stores_namesApart ha hx.tests
    | runBackend | enter => exact hx.tests
  repositories _ hy := hx.repositories_of_turn h hy
  analyses _ ha' := hx.analyses_of_turn hc h ha'
  stages j x hj := by
    rcases hx.isTidy_of_turn hc h hread hj with htidy | ⟨hne, hj⟩
    · exact htidy
    · exact hx.isTidy_of_ne hc hhist h hj hne

/-! ### Histories -/

theorem tidy_idle : (idle .empty).Tidy S where
  tests := List.nodup_nil
  repositories _ hx := by cases hx
  analyses _ ha := by cases ha
  stages _ _ hi := by cases hi

theorem Tidy.request (hx : c.Tidy S) (e : Errand) :
    ({ c with stages := c.stages ++ [.begin r e] } : Staging).Tidy S where
  tests := hx.tests
  repositories := hx.repositories
  analyses := hx.analyses
  stages j x hj := by
    rcases stages_request hj with hj | rfl
    · exact hx.stages j x hj
    · exact Stage.isTidy_begin e

theorem HasRepeated.request {t : List Crowd.Event} {url : String} (h : HasRepeated r t c url)
    (e : Errand) : HasRepeated r t { c with stages := c.stages ++ [.begin r e] } url := by
  obtain ⟨i, ctx, test, stage, id, report, hi, hurl, hread, hrepeats⟩ := h
  refine ⟨i, ctx, test, stage, id, report, ?_, hurl, hread, hrepeats⟩
  rw [List.getElem?_append_left (List.getElem?_eq_some_iff.mp hi).1, hi]

theorem HasRepeated.turn {t : List Crowd.Event} {url : String} (h : HasRepeated r t c url)
    {q : Call} {answer : q.Answer} (hturn : Turn r w i q answer c c') :
    HasRepeated r (t ++ [⟨i, q, answer⟩]) c' url := by
  obtain ⟨j, ctx, test, stage, id, report, hj, hurl, hread, hrepeats⟩ := h
  obtain ⟨stage', hj', -⟩ := hturn.run_goes_on hj
  exact ⟨j, ctx, test, stage', id, report, hj', hurl, List.mem_append_left _ hread, hrepeats⟩

/-- What is read in a turn has been read after it. -/
theorem hasRepeated_of_turn {t : List Crowd.Event} {q : Call} {answer : q.Answer}
    (h : Turn r w i q answer c c') {ctx : UnitContext} {test : SecurityTest} {stage : RunStage}
    (hi : c.stages[i]? = some (.run ctx test stage)) {id report : String}
    (he : (⟨i, q, answer⟩ : Crowd.Event) = ⟨i, .backend (.readOutput id), .ok report⟩)
    (hrepeats : r.Repeats test report) :
    HasRepeated r (t ++ [⟨i, q, answer⟩]) c' ctx.repositoryUrl := by
  obtain ⟨stage', hi', -⟩ := h.run_goes_on hi
  exact ⟨i, ctx, test, stage', id, report, hi', rfl, by simp [he], hrepeats⟩

/-- **Everything is tidy at all times**, where no report is an excuse. -/
theorem tidy_history {t : List Crowd.Event} (h : History r w.reliable (idle .empty) t c) :
    c.Tidy (HasRepeated r t c) := by
  induction h with
  | start => exact tidy_idle
  | @request t c e _ _ ih => exact (ih.request e).imp fun _ hurl => hurl.request e
  | turn hhist hturn ih =>
    refine (ih.imp fun _ hurl => hurl.turn hturn).turn ((kept_idle rfl).history hhist) hhist hturn ?_
    exact fun ctx test stage hi id report he => hasRepeated_of_turn hturn hi he

end Staging

/-! ## Crowds -/

/-- In some turns a detector that was to pass has reported the pseudo-language of generic tests for
a repository. -/
def Crowd.HasNamedGeneric (r : Runner) (t : List Crowd.Event) (s : Crowd) (url : String) : Prop :=
  ∃ (i : Nat) (ctx : UnitContext) (test : SecurityTest) (id report : String),
    s.errands[i]? = some (.run ctx test) ∧ ctx.repositoryUrl = url ∧
      ⟨i, .backend (.readOutput id), .ok report⟩ ∈ t ∧ test.name = SecurityTest.detectorName ∧
      (r.evaluate test report).verdict = some .passed ∧
      SecurityTest.genericLanguage ∈ (r.evaluate test report).languages

variable {w : Surroundings} {s : Crowd}

theorem Staging.HasRepeated.hasNamedGeneric (hr : r.readers = .builtin) {c : Staging}
    {t : List Crowd.Event} {url : String} (h : c.HasRepeated r t url) :
    (c.crowd r).HasNamedGeneric r t url := by
  obtain ⟨i, ctx, test, stage, id, report, hi, hurl, hread, hd, hpassed, hrepeats⟩ := h
  refine ⟨i, ctx, test, id, report, errands_of_run hi, hurl, hread, hd, hpassed, ?_⟩
  rwa [Runner.nodup_lookups_iff hr hd, not_not] at hrepeats

/-- **Names occur twice only where a detector has reported the pseudo-language.**  Start from an
empty store that does not fail, let anybody register and analyse anything, and let the backend
answer as it likes.  Then for a repository whose detectors have not done so

* the tests that it is registered with have different names;
* so have the tests that are to run for each of its analyses, and the tests of the runs that have
  been launched. -/
theorem scheduled_names_apart (hr : r.readers = .builtin) {t : List Crowd.Event}
    (h : Crowd.History r w.reliable (.idle .empty) t s) {url : String}
    (hurl : ¬s.HasNamedGeneric r t url) :
    (∀ x ∈ s.store.repositories, x.url = url → (x.securityTests.map (·.name)).Nodup) ∧
      ∀ a ∈ s.store.analyses, a.url = url →
        a.pendingNames.Nodup ∧ ((s.runsFor a.rid).map (·.name)).Nodup := by
  obtain ⟨c, hhist, rfl⟩ := Staging.exists_staging (c := .idle .empty) h
  have htidy := Staging.tidy_history hhist
  have hnot : ¬c.HasRepeated r t url := fun hrepeats => hurl (hrepeats.hasNamedGeneric hr)
  refine ⟨fun x hx he => ?_, fun a ha he => ?_⟩
  · exact (htidy.repositories x hx).resolve_left (he ▸ hnot)
  · have hapart : NamesApart a.securityTests := (htidy.analyses a ha).resolve_left (he ▸ hnot)
    have hkept : c.Kept r := (Staging.kept_idle rfl).history hhist
    have hruns := (hkept.balances a ha).tests
    rw [Staging.tests_account] at hruns
    exact ⟨hapart, hruns ▸ hapart⟩

/-! ### A sample -/

namespace Script

/-- The detector and another default test are registered, and a repository. -/
def registration : List Move :=
  [.request (.registerSecurityTest
      ⟨SecurityTest.detectorName, "enry", none, "enry", SecurityTest.genericLanguage, true, 60⟩),
    .turn 0, .request (.registerSecurityTest ⟨"bandit", "bandit", none, "bandit", "python", true, 60⟩),
    .turn 1, .request (.registerRepository ⟨sampleRepository.url, none, []⟩), .turn 2, .turn 2]

/-- Then an analysis is admitted, and the detector runs. -/
def detection : List Move :=
  registration ++ .request (.analyse sampleRepository.url) ::
    (List.replicate 4 (.turn 3) ++ List.replicate 12 (.turn 4))

/-- The detector finds the pseudo-language. -/
def generic : Script :=
  { sample with
    backend := fun units c =>
      match c with
      | .readOutput _ => .ok SecurityTest.genericLanguage
      | c => sample.backend units c }

/-- Then another analysis is admitted. -/
def readmission : List Cue :=
  generic.schedule detection ++ { generic with rid := .ofNat 1 }.schedule
    (.request (.analyse sampleRepository.url) :: List.replicate 5 (.turn 5))

end Script

/-- The report that is read in a turn. -/
def Crowd.Event.report? : Crowd.Event → Option String
  | ⟨_, .backend (.readOutput _), .ok report⟩ => some report
  | _ => none

/-- In the sample the detector finds another language, and what it launches has another name. -/
theorem scheduled_names_apart_sample : ∃ s t a,
    Crowd.follow Script.sampleRunner (Script.sample.schedule Script.detection) (.idle .empty) =
        some (s, t) ∧
      s.store.analyses = [a] ∧ a.pendingNames = [SecurityTest.detectorName, "bandit"] ∧
      ((s.runsFor a.rid).map (·.name)).Nodup := by
  obtain ⟨s, t, a, hs, hstored, hurl, hpending, hread⟩ : ∃ s t a,
      Crowd.follow Script.sampleRunner (Script.sample.schedule Script.detection) (.idle .empty) =
          some (s, t) ∧
        s.store.analyses = [a] ∧ a.url = Script.sampleRepository.url ∧
        a.pendingNames = [SecurityTest.detectorName, "bandit"] ∧
        t.filterMap Crowd.Event.report? = ["python"] :=
    ⟨_, _, _, rfl, rfl, rfl, rfl, rfl⟩
  have hhist := Crowd.history_of_follow (w := Surroundings.arbitrary.reliable) .start hs
    (fun _ => Script.isAllowedBy_of_mem_schedule)
    (Surroundings.allow_of_forall (fun _ _ _ => True.intro) t _)
  refine ⟨s, t, a, hs, hstored, hpending, ?_⟩
  refine ((scheduled_names_apart rfl hhist ?_).2 a (hstored ▸ List.mem_cons_self) hurl).2
  rintro ⟨i, ctx, test, id, report, -, -, hmem, hd, -, hgeneric⟩
  have hmem : report ∈ t.filterMap Crowd.Event.report? := List.mem_filterMap.mpr ⟨_, hmem, rfl⟩
  rw [hread, List.mem_singleton] at hmem
  rw [Runner.evaluate_of_detector rfl hd, hmem] at hgeneric
  exact absurd hgeneric (by decide)

/-- **Where the detector finds the pseudo-language the names are not apart:** the repository is
registered with the detector twice, and the next analysis is to run it twice. -/
theorem scheduled_names_not_apart : ∃ t s,
    Crowd.History Script.sampleRunner Surroundings.arbitrary.reliable (.idle .empty) t s ∧
      (∃ x ∈ s.store.repositories, ¬(x.securityTests.map (·.name)).Nodup) ∧
      ∃ a ∈ s.store.analyses, ¬a.pendingNames.Nodup ∧
        ¬((s.runsFor a.rid).map (·.name)).Nodup := by
  obtain ⟨s, t, x, a, b, hs, hx, htests, hstored, hpending, hruns⟩ : ∃ s t x a b,
      Crowd.follow Script.sampleRunner Script.readmission (.idle .empty) = some (s, t) ∧
        s.store.repositories = [x] ∧
        x.securityTests.map (·.name) = [SecurityTest.detectorName, SecurityTest.detectorName] ∧
        s.store.analyses = [a, b] ∧
        b.pendingNames = [SecurityTest.detectorName, SecurityTest.detectorName] ∧
        (s.runsFor b.rid).map (·.name) = [SecurityTest.detectorName, SecurityTest.detectorName] :=
    ⟨_, _, _, _, _, rfl, rfl, rfl, rfl, rfl, rfl⟩
  have hcues : ∀ cue ∈ Script.readmission, cue.IsAllowedBy Surroundings.arbitrary.reliable :=
    fun cue hcue => (List.mem_append.mp hcue).elim Script.isAllowedBy_of_mem_schedule
      Script.isAllowedBy_of_mem_schedule
  have hhist := Crowd.history_of_follow .start hs hcues
    (Surroundings.allow_of_forall (fun _ _ _ => True.intro) t _)
  refine ⟨t, s, hhist, ⟨x, hx ▸ List.mem_cons_self, ?_⟩, b, by rw [hstored]; simp, ?_, ?_⟩
  · rw [htests]
    decide
  · rw [hpending]
    decide
  · rw [hruns]
    decide

end Service
end ScanService
