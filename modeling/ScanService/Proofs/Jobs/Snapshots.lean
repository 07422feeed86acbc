import ScanService.Proofs.Jobs.Names
import ScanService.Proofs.Store.Operations

/-!
# Copies of tests

Repositories, analyses and jobs hold copies of the tests that they were made with, and tasks carry
such copies about: what a form names is looked up and attached, what a repository has is admitted,
what a detector selects is recorded and launched.  A test that is registered is never changed, and a
copy is only ever passed on as it is.  So every copy anywhere is of a registered test, in all its
fields.

Most of this is independent of the tasks.  `Call.brings` are the tests that a call would put into a
repository or an analysis, and `Call.found` are the tests that an answer shows; a task that brings
nothing but what it has found keeps the store as it should be.

## What is here

* `Memory.Copies` — the tests in repositories and analyses.
* `Task.PassesOn` — a task that brings nothing but what it has found; registrations are such tasks.
* `RunStage.Step.passesOn`, `AdmissionStage.Step.passesOn` — so are runs and admissions.
* `Staging.Referenced.turn` — **turns keep all copies those of registered tests.**
* `copies_are_registered` — all of this at the level of crowds, with the jobs.
-/

namespace ScanService

/-! ## What calls have to do with copies -/

namespace Store

/-- The tests that a call would put into a repository or an analysis. -/
def Call.brings : Call → List SecurityTest
  | .insertRepository x => x.securityTests
  | .updateRepository _ p => p.securityTests.getD []
  | .insertAnalysis a => a.securityTests
  | .updateAnalysis _ p => p.append
  | _ => []

/-- The tests that a call has put there, if it has not failed. -/
def Call.brought (c : Call) : c.Answer → List SecurityTest
  | .ok _ => c.brings
  | .error _ => []

/-- The tests that an answer shows. -/
def Call.found : (c : Call) → c.Answer → List SecurityTest
  | .findRepository _, .ok (some x) => x.securityTests
  | .findSecurityTest _, .ok found => found.toList
  | .findSecurityTests _, .ok found => found
  | _, _ => []

/-- There is a copy of a test in a repository or among the tests that an analysis is to run. -/
def Memory.Copies (m : Memory) (test : SecurityTest) : Prop :=
  (∃ x ∈ m.repositories, test ∈ x.securityTests) ∨ ∃ a ∈ m.analyses, test ∈ a.securityTests

/-- All elements after a change of one of them were there before, or are the changed one. -/
theorem ChangesFirst.mem {α : Type} {p : α → Bool} {f : α → α} {xs ys : List α}
    (h : ChangesFirst p f xs ys) {y : α} (hy : y ∈ ys) : y ∈ xs ∨ ∃ x ∈ xs, y = f x := by
  obtain ⟨before, x, behind, rfl, -, -, rfl⟩ := h
  simp only [List.mem_append, List.mem_cons] at hy ⊢
  rcases hy with hy | rfl | hy
  · exact .inl (.inl hy)
  · exact .inr ⟨x, .inr (.inl rfl), rfl⟩
  · exact .inl (.inr (.inr hy))

/-- A copy was in the store before a call, or the call has brought it. -/
theorem Call.Makes.copies {m m' : Memory} {c : Call} (h : c.Makes m m') {test : SecurityTest}
    (ht : m'.Copies test) : m.Copies test ∨ test ∈ c.brings := by
  cases c with
  | insertRepository x =>
    obtain rfl := h
    rcases ht with ⟨y, hy, ht⟩ | ht
    · rcases List.mem_append.mp hy with hy | hy
      · exact .inl (.inl ⟨y, hy, ht⟩)
      · exact .inr (List.mem_singleton.mp hy ▸ ht)
    · exact .inl (.inr ht)
  | insertAnalysis a =>
    obtain rfl := h
    rcases ht with ht | ⟨b, hb, ht⟩
    · exact .inl (.inl ht)
    · rcases List.mem_append.mp hb with hb | hb
      · exact .inl (.inr ⟨b, hb, ht⟩)
      · exact .inr (List.mem_singleton.mp hb ▸ ht)
  | updateRepository f p =>
    obtain ⟨rs, hrs, rfl⟩ := h
    rcases ht with ⟨y, hy, ht⟩ | ht
    · rcases hrs.mem hy with hy | ⟨x, hx, rfl⟩
      · exact .inl (.inl ⟨y, hy, ht⟩)
      · cases hp : p.securityTests with
        | none => exact .inl (.inl ⟨x, hx, by simpa [RepositoryPatch.apply, hp] using ht⟩)
        | some tests => exact .inr (by simpa [brings, RepositoryPatch.apply, hp] using ht)
    · exact .inl (.inr ht)
  | updateAnalysis f p =>
    obtain ⟨as, has, rfl⟩ := h
    rcases ht with ht | ⟨b, hb, ht⟩
    · exact .inl (.inl ht)
    · rcases has.mem hb with hb | ⟨a, ha, rfl⟩
      · exact .inl (.inr ⟨b, hb, ht⟩)
      · rcases List.mem_append.mp ht with ht | ht
        · exact .inl (.inr ⟨a, ha, ht⟩)
        · exact .inr ht
  | pushJob f j =>
    obtain ⟨as, has, rfl⟩ := h
    rcases ht with ht | ⟨b, hb, ht⟩
    · exact .inl (.inl ht)
    · rcases has.mem hb with hb | ⟨a, ha, rfl⟩
      · exact .inl (.inr ⟨b, hb, ht⟩)
      · exact .inl (.inr ⟨a, ha, ht⟩)
  | updateJob f p =>
    obtain ⟨id, as, -, ⟨before, a, behind, jobs, hm, -, -, -, rfl⟩, rfl⟩ := h
    rcases ht with ht | ⟨b, hb, ht⟩
    · exact .inl (.inl ht)
    · refine .inl (.inr ?_)
      rw [hm]
      simp only [List.mem_append, List.mem_cons] at hb ⊢
      rcases hb with hb | rfl | hb
      · exact ⟨b, .inl hb, ht⟩
      · exact ⟨a, .inr (.inl rfl), ht⟩
      · exact ⟨b, .inr (.inr hb), ht⟩
  | _ =>
    obtain rfl := h
    exact .inl ht

end Store

namespace Service

namespace Surroundings

open Store

variable {w : Surroundings} {m m' : Memory} {c : Store.Call} {answer : c.Answer}
  {test : SecurityTest}

/-- A copy was in the store before an answer, or the call has brought it. -/
theorem stores_copies (h : w.Stores c m answer m') (ht : m'.Copies test) :
    m.Copies test ∨ test ∈ c.brought answer := by
  cases answer with
  | error e => exact .inl (w.stores_error h ▸ ht)
  | ok result =>
    have h := w.stores_ok h
    obtain rfl : m' = (m.answer c).2 := congrArg Prod.snd h
    have hok : (m.answer c).1.isOk = true := by rw [← h]; rfl
    exact (Memory.makes_of_answer hok).copies ht

/-- What an answer shows is registered, or a copy. -/
theorem stores_found (h : w.Stores c m answer m') (ht : test ∈ c.found answer) :
    test ∈ m.securityTests ∨ m.Copies test := by
  cases answer with
  | error e => cases c <;> cases ht
  | ok result =>
    have h := congrArg Prod.fst (w.stores_ok h)
    cases c with
    | findRepository f =>
      cases result with
      | none => cases ht
      | some x =>
        simp only [Memory.answer, Except.ok.injEq] at h
        exact .inr (.inl ⟨x, List.mem_of_find?_eq_some h.symm, ht⟩)
    | findSecurityTest f =>
      simp only [Memory.answer, Except.ok.injEq] at h
      exact .inl (List.mem_of_find?_eq_some (h.symm.trans (Option.mem_toList.mp ht)))
    | findSecurityTests f =>
      simp only [Memory.answer, Except.ok.injEq] at h
      rw [h] at ht
      exact .inl (List.mem_of_mem_filter ht)
    | _ => cases ht

end Surroundings

/-! ## Tasks that pass tests on -/

/-- The tests that a question would put into a repository or an analysis. -/
def Call.brings : Call → List SecurityTest
  | .store c => c.brings
  | _ => []

/-- The tests that a question has put there, if it has not failed. -/
def Call.brought : (c : Call) → c.Answer → List SecurityTest
  | .store c, answer => c.brought answer
  | _, _ => []

theorem Call.brought_subset (c : Call) (answer : c.Answer) : c.brought answer ⊆ c.brings := by
  cases c with
  | store c =>
    cases answer with
    | ok result => exact List.Subset.refl _
    | error e => exact List.nil_subset _
  | _ => exact List.nil_subset _

/-- The tests that an answer shows. -/
def Call.found : (c : Call) → c.Answer → List SecurityTest
  | .store c, answer => c.found answer
  | _, _ => []

/-- A task that brings nothing but what it has found, and ends as a property says that may depend on
what it has found until then. -/
def Task.PassesOn {α : Type} (p : List SecurityTest → α → Prop) : Task α → List SecurityTest → Prop
  | .done a, seen => p seen a
  | .ask c next, seen =>
    Call.brings c ⊆ seen ∧ ∀ answer, PassesOn p (next answer) (seen ++ Call.found c answer)

/-- What an action that does not fail ends with. -/
def IfOk {α : Type} (p : List SecurityTest → α → Prop) (seen : List SecurityTest)
    (result : Except ServiceError α) : Prop := ∀ a, result = .ok a → p seen a

namespace Task

variable {α β : Type} {p : List SecurityTest → α → Prop} {q : List SecurityTest → β → Prop}
  {seen : List SecurityTest}

theorem PassesOn.imp {t : Task α} (h : PassesOn p t seen) {p' : List SecurityTest → α → Prop}
    (hp : ∀ seen a, p seen a → p' seen a) : PassesOn p' t seen := by
  induction t generalizing seen with
  | done a => exact hp seen a h
  | ask c next ih => exact ⟨h.1, fun answer => ih answer (h.2 answer)⟩

theorem PassesOn.bind {t : Task α} (h : PassesOn p t seen) {f : α → Task β}
    (hf : ∀ a seen', seen ⊆ seen' → p seen' a → PassesOn q (f a) seen') :
    PassesOn q (Program.bind t f) seen := by
  induction t generalizing seen with
  | done a => exact hf a seen (List.Subset.refl _) h
  | ask c next ih =>
    refine ⟨h.1, fun answer => ih answer (h.2 answer) fun a seen' hsub => ?_⟩
    exact hf a seen' fun test ht => hsub (List.mem_append_left _ ht)

/-- Whoever asks about single tests alone brings none. -/
theorem passesOn_of_concernsTests {t : Task α} (h : t.OnlyAsks Call.concernsTests) :
    PassesOn (fun _ _ => True) t seen := by
  induction t generalizing seen with
  | done a => exact True.intro
  | ask c next ih =>
    refine ⟨?_, fun answer => ih answer (h.2 answer)⟩
    have hc := h.1
    unfold Call.concernsTests at hc
    split at hc
    · exact List.nil_subset _
    · exact List.nil_subset _
    · exact hc.elim

/-- An action goes on with another one only if it does not fail. -/
theorem passesOn_run_bind {m : Action α} {f : α → Action β} (hm : PassesOn (IfOk p) m.run seen)
    (hf : ∀ a seen', seen ⊆ seen' → p seen' a → PassesOn (IfOk q) (f a).run seen') :
    PassesOn (IfOk q) (m >>= f).run seen := by
  refine PassesOn.bind hm fun result seen' hsub hresult => ?_
  cases result with
  | ok a => exact hf a seen' hsub (hresult a rfl)
  | error e => exact nofun

/-- Between turns nothing is found. -/
theorem PassesOn.settles {r : Runner} {t t' : Task α} {s s' : Crowd} (h : PassesOn p t seen)
    (ht : Crowd.Settles r t s t' s') : PassesOn p t' seen := by
  induction ht with
  | settled => exact h
  | quiet hq _ ih =>
    refine ih ?_
    cases hq <;> simpa [Call.found] using h.2 _

end Task

/-! ### Registrations -/

/-- Tests that are looked up by their names have been found. -/
theorem testsNamed_passesOn (names : List String) (seen : List SecurityTest) :
    Task.PassesOn (IfOk fun seen tests => tests ⊆ seen) (testsNamed names).run seen := by
  induction names generalizing seen with
  | nil =>
    rintro tests ⟨⟩
    exact List.nil_subset _
  | cons name rest ih =>
    have hfound : Task.PassesOn (IfOk fun seen (found : Option SecurityTest) => found.toList ⊆ seen)
        (Action.store (.findSecurityTest (.name name))).run seen := by
      refine ⟨List.nil_subset _, ?_⟩
      rintro answer found rfl
      exact List.subset_append_right _ _
    refine Task.passesOn_run_bind hfound fun found seen' _ hfound => ?_
    refine Task.passesOn_run_bind (ih seen') fun tests seen'' hsub htests => ?_
    rintro all ⟨⟩
    exact List.append_subset.mpr ⟨List.Subset.trans hfound hsub, htests⟩

theorem testsToAttach_passesOn (names : List String) (seen : List SecurityTest) :
    Task.PassesOn (IfOk fun seen tests => tests ⊆ seen) (testsToAttach names).run seen := by
  rw [testsToAttach]
  split
  · refine ⟨List.nil_subset _, ?_⟩
    rintro answer tests rfl
    exact List.subset_append_right _ _
  · exact testsNamed_passesOn names seen

theorem registerRepository_passesOn (form : RepositoryForm) (seen : List SecurityTest) :
    Task.PassesOn (IfOk fun _ _ => True) (registerRepository form).run seen := by
  have hcheck : Task.PassesOn (IfOk fun _ _ => True) (checkForm form.violations).run seen := by
    rw [checkForm]
    split <;> exact fun _ _ => True.intro
  refine Task.passesOn_run_bind hcheck fun _ seen _ _ => ?_
  cases hu : (Text.trim form.url).isEmpty with
  | true =>
    simp only [hu, if_true]
    exact fun _ _ => True.intro
  | false =>
    simp only [hu]
    refine Task.passesOn_run_bind (testsToAttach_passesOn _ seen) fun tests seen _ htests => ?_
    have hclock : Task.PassesOn (IfOk fun seen _ => tests ⊆ seen)
        (Action.ofTask Task.readClock).run seen :=
      ⟨List.nil_subset _, fun _ _ _ => List.Subset.trans htests (List.subset_append_left _ _)⟩
    refine Task.passesOn_run_bind hclock fun now seen _ htests => ?_
    have hinsert : Task.PassesOn (IfOk fun _ _ => True) (Action.store (.insertRepository
          { url := Text.trim form.url, vm := form.vm, securityTests := tests, languages := [],
            createdAt := now, deletedAt := none })).run seen :=
      ⟨htests, fun _ _ _ => True.intro⟩
    exact Task.passesOn_run_bind hinsert fun _ _ _ _ _ _ => True.intro

/-- **Every registration brings nothing but what it has found.** -/
theorem Errand.passesOn (r : Runner) {e : Errand} (he : e.registers = true) :
    Task.PassesOn (fun _ _ => True) (e.task r) [] := by
  cases e with
  | registerRepository form =>
    exact (registerRepository_passesOn form []).imp fun _ _ _ => True.intro
  | registerSecurityTest form =>
    exact Task.passesOn_of_concernsTests (registerSecurityTest_onlyAsks form)
  | ensureDefaults => exact Task.passesOn_of_concernsTests ensureDefaults_onlyAsks
  | analyse | status | run => cases he

/-! ## Stages that pass tests on -/

open Execution (UnitContext)

/-- The tests that a detector carries about. -/
def FollowStage.held : FollowStage → List SecurityTest
  | lookUp _ selected | readScheduled selected => selected
  | recordTests tests => tests

/-- The tests that a run carries about, besides its own. -/
def RunStage.held : RunStage → List SecurityTest
  | follow _ _ _ stage => stage.held
  | _ => []

/-- The tests that an admission carries about. -/
def AdmissionStage.held : AdmissionStage → List SecurityTest
  | findRunning repository | finalize repository _ _ | findDetector repository =>
    repository.securityTests
  | insert _ tests _ _ => tests
  | enter | findRepository | ended _ => []

/-- **A run brings nothing but what it has found**, and carries about no more. -/
theorem RunStage.Step.passesOn {r : Runner} {ctx : UnitContext} {test : SecurityTest}
    {known : List SecurityTest} {st st' : RunStage} {c : Call} {answer : c.Answer}
    {tests : List SecurityTest} (h : st.Step r ctx test known c answer st' tests) :
    c.brought answer ⊆ st.held ∧ st'.held ⊆ st.held ++ c.found answer := by
  have hbrought := c.brought_subset answer
  cases h with
  | lookedUp answer =>
    refine ⟨List.Subset.trans hbrought (List.nil_subset _),
      List.append_subset.mpr ⟨List.subset_append_left _ _, ?_⟩⟩
    cases answer with
    | ok found => exact List.subset_append_right _ _
    | error e => exact List.nil_subset _
  | selectionRecorded => exact ⟨hbrought, List.subset_append_left _ _⟩
  | scheduledRead htests =>
    refine ⟨List.Subset.trans hbrought (List.nil_subset _),
      fun test htest => List.mem_append_left _ ?_⟩
    rw [htests] at htest
    exact List.mem_of_mem_filter (mem_of_mem_firstBy htest).1
  | testsRecorded | testsRefused => exact ⟨hbrought, List.nil_subset _⟩
  | _ => exact ⟨List.Subset.trans hbrought (List.nil_subset _), List.nil_subset _⟩

theorem AdmissionStage.Proceeds.held_subset {url : String} {repository : Repository}
    {running : List Analysis} {st : AdmissionStage} (h : Proceeds url repository running st) :
    st.held ⊆ repository.securityTests := by
  cases h with
  | conflict => exact List.nil_subset _
  | finalize | detect | insert => exact List.Subset.refl _

/-- **An admission brings nothing but what it has found**, and carries about no more. -/
theorem AdmissionStage.Step.passesOn {url : String} {st st' : AdmissionStage} {c : Call}
    {answer : c.Answer} {admitted : Option Analysis} (h : st.Step url c answer st' admitted) :
    c.brought answer ⊆ st.held ∧ st'.held ⊆ st.held ++ c.found answer := by
  cases h with
  | entered | failed | unknown => exact ⟨List.nil_subset _, List.nil_subset _⟩
  | found repository => exact ⟨List.nil_subset _, List.subset_append_right _ _⟩
  | foundRunning h | finalized h =>
    exact ⟨List.nil_subset _, List.Subset.trans h.held_subset (List.subset_append_left _ _)⟩
  | detectorFound =>
    exact ⟨List.nil_subset _,
      List.append_subset.mpr ⟨List.subset_append_right _ _, List.subset_append_left _ _⟩⟩
  | inserted => exact ⟨List.Subset.refl _, List.nil_subset _⟩

/-- What a task carries about, and what it will ever bring of it, is known. -/
def Stage.PassesOn (known : List SecurityTest) : Stage → Prop
  | run _ _ stage => stage.held ⊆ known
  | admission _ stage => stage.held ⊆ known
  | status _ _ => True
  | plain _ rest _ _ => ∃ seen, seen ⊆ known ∧ Task.PassesOn (fun _ _ => True) rest seen

theorem Stage.PassesOn.mono {known known' : List SecurityTest} {stage : Stage}
    (h : stage.PassesOn known) (hsub : known ⊆ known') : stage.PassesOn known' := by
  cases stage with
  | run | admission => exact List.Subset.trans h hsub
  | status => exact True.intro
  | plain =>
    obtain ⟨seen, hseen, h⟩ := h
    exact ⟨seen, List.Subset.trans hseen hsub, h⟩

theorem Stage.passesOn_begin (r : Runner) (e : Errand) (known : List SecurityTest) :
    (begin r e).PassesOn known := by
  cases e with
  | run | analyse => exact List.nil_subset _
  | status => exact True.intro
  | registerRepository form =>
    exact ⟨[], List.nil_subset _, Errand.passesOn r (e := .registerRepository form) rfl⟩
  | registerSecurityTest form =>
    exact ⟨[], List.nil_subset _, Errand.passesOn r (e := .registerSecurityTest form) rfl⟩
  | ensureDefaults => exact ⟨[], List.nil_subset _, Errand.passesOn r (e := .ensureDefaults) rfl⟩

/-! ## Turns -/

namespace Staging

variable {r : Runner} {w : Surroundings} {c c' : Staging} {i : Nat} {q : Call} {answer : q.Answer}
  {test : SecurityTest}

/-- A copy was in the store before a turn, or the task has brought it. -/
theorem Turn.copies (h : Turn r w i q answer c c') (ht : c'.store.Copies test) :
    c.store.Copies test ∨ test ∈ q.brought answer := by
  cases h with
  | runStore hi ha | admission hi ha | status hi ha => exact w.stores_copies ha ht
  | plain hi hq ha => exact w.stores_copies ha ht
  | runBackend | enter => exact .inl ht

/-- What an answer shows is registered, or a copy. -/
theorem Turn.found (h : Turn r w i q answer c c') (ht : test ∈ q.found answer) :
    test ∈ c.store.securityTests ∨ c.store.Copies test := by
  cases h with
  | runStore hi ha | admission hi ha | status hi ha => exact w.stores_found ha ht
  | plain hi hq ha => exact w.stores_found ha ht
  | runBackend | enter => cases ht

/-- **Whoever has the turn passes on what it knew and what it has found.** -/
theorem Turn.passesOn (h : Turn r w i q answer c c') {known : List SecurityTest}
    (hst : ∀ (j : Nat) (x : Stage), c.stages[j]? = some x → x.PassesOn known) :
    q.brought answer ⊆ known ∧ ∀ (j : Nat) (x : Stage), c'.stages[j]? = some x →
      x.PassesOn (known ++ q.found answer) := by
  -- the others stand where they stood, or begin
  have hstages : ∀ {stage : Stage} {launched : List Errand},
      stage.PassesOn (known ++ q.found answer) →
        ∀ (j : Nat) (x : Stage), (c.goOn r i stage launched).stages[j]? = some x →
          x.PassesOn (known ++ q.found answer) := by
    intro stage launched hstage j x hj
    rcases stages_goOn hj with ⟨-, rfl⟩ | ⟨-, hj⟩ | ⟨e, -, rfl⟩
    · exact hstage
    · exact (hst j x hj).mono (List.subset_append_left _ _)
    · exact Stage.passesOn_begin r e _
  cases h with
  | runStore hi _ hstep | runBackend hi _ hstep | admission hi _ hstep =>
    have hold := hst i _ hi
    obtain ⟨hbrought, hheld⟩ := hstep.passesOn
    refine ⟨List.Subset.trans hbrought hold, hstages (List.Subset.trans hheld ?_)⟩
    exact List.append_subset.mpr
      ⟨List.Subset.trans hold (List.subset_append_left _ _), List.subset_append_right _ _⟩
  | enter => exact ⟨List.nil_subset _, hstages (List.nil_subset _)⟩
  | status =>
    exact ⟨List.Subset.trans (Call.brought_subset _ _) (List.nil_subset _), hstages True.intro⟩
  | plain hi _ _ hrest =>
    obtain ⟨next, s, s', rfl, ht⟩ := hrest
    obtain ⟨seen, hseen, hbrings, hnext⟩ := hst i _ hi
    refine ⟨List.Subset.trans (Call.brought_subset _ _) (List.Subset.trans hbrings hseen),
      hstages ⟨_, ?_, (hnext _).settles ht⟩⟩
    exact List.append_subset.mpr
      ⟨List.Subset.trans hseen (List.subset_append_left _ _), List.subset_append_right _ _⟩

/-- All copies are of registered tests, also those that tasks carry about. -/
structure Referenced (c : Staging) : Prop where
  /-- There is one registered test of a name. -/
  names : NamesApart c.store.securityTests
  /-- Copies in the store are of registered tests. -/
  copies : ∀ test, c.store.Copies test → test ∈ c.store.securityTests
  /-- So are those that tasks carry about. -/
  stages : ∀ (i : Nat) (x : Stage), c.stages[i]? = some x → x.PassesOn c.store.securityTests

/-- **Turns keep all copies those of registered tests.** -/
theorem Referenced.turn (hx : c.Referenced) (h : Turn r w i q answer c c') : c'.Referenced := by
  have hgrows := h.securityTests_isPrefix.subset
  obtain ⟨hbrought, hstages⟩ := h.passesOn hx.stages
  refine ⟨?_, fun test ht => hgrows ?_, fun j x hj => (hstages j x hj).mono ?_⟩
  · cases h with
    | runStore hi ha | admission hi ha | status hi ha => exact w.stores_namesApart ha hx.names
    | plain hi hq ha => exact w.stores_namesApart ha hx.names
    | runBackend | enter => exact hx.names
  · rcases h.copies ht with ht | ht
    · exact hx.copies test ht
    · exact hbrought ht
  · refine List.append_subset.mpr ⟨hgrows, fun test ht => hgrows ?_⟩
    exact (h.found ht).elim id (hx.copies test)

theorem referenced_idle : (idle .empty).Referenced where
  names := List.nodup_nil
  copies test ht := by
    rcases ht with ⟨x, hx, -⟩ | ⟨a, ha, -⟩
    · cases hx
    · cases ha
  stages _ _ hi := by cases hi

theorem Referenced.request (hx : c.Referenced) (e : Errand) :
    ({ c with stages := c.stages ++ [.begin r e] } : Staging).Referenced where
  names := hx.names
  copies := hx.copies
  stages j x hj := by
    rcases stages_request hj with hj | rfl
    · exact hx.stages j x hj
    · exact Stage.passesOn_begin r e _

theorem referenced_history {t : List Crowd.Event} (h : History r w (idle .empty) t c) :
    c.Referenced := by
  induction h with
  | start => exact referenced_idle
  | request _ _ ih => exact ih.request _
  | turn _ hturn ih => exact ih.turn hturn

/-- A job is a job of one of the tests of its analysis. -/
theorem Kept.mem_of_job {a : Analysis} (hc : c.Kept r) (ha : a ∈ c.store.analyses) {j : Job}
    (hj : j ∈ a.jobs) : j.securityTest ∈ a.securityTests := by
  obtain ⟨i, -, job, hknown, -, htest⟩ := exists_mem_of_forall₂ (hc.balances a ha).entries hj
  obtain ⟨ctx, stage, hrid, hi, -⟩ := exists_run_of_known hknown
  exact htest ▸ hc.mem_of_test ha hi hrid

end Staging

/-- A registered test is found under its name. -/
theorem find?_name_of_mem {tests : List SecurityTest} (hn : NamesApart tests) {test : SecurityTest}
    (h : test ∈ tests) : tests.find? (·.name == test.name) = some test := by
  obtain ⟨found, hfound⟩ : ∃ found, tests.find? (·.name == test.name) = some found := by
    rw [← Option.isSome_iff_exists, List.find?_isSome]
    exact ⟨test, h, by simp⟩
  have hname : found.name = test.name := by simpa using List.find?_some hfound
  rw [hfound, List.inj_on_of_nodup_map hn (List.mem_of_find?_eq_some hfound) h hname]

/-! ## Crowds -/

variable {r : Runner} {w : Surroundings} {s : Crowd}

/-- **Every copy of a test is the registered test of its name.**  Start from an empty store, and let
anybody register and analyse anything, whatever the backend answers and whichever calls to the store
fail.  Then no two registered tests have one name, and a test in the list of a repository, in that
of an analysis or in a job is found under its name, in all its fields as it is there.  Jobs are of
tests that their analyses list. -/
theorem copies_are_registered (h : Crowd.Reachable r w (.idle .empty) s) :
    (s.store.securityTests.map (·.name)).Nodup ∧
      (∀ x ∈ s.store.repositories, ∀ test ∈ x.securityTests,
        s.store.securityTests.find? (·.name == test.name) = some test) ∧
      ∀ a ∈ s.store.analyses,
        (∀ test ∈ a.securityTests,
          s.store.securityTests.find? (·.name == test.name) = some test) ∧
        ∀ j ∈ a.jobs,
          s.store.securityTests.find? (·.name == j.securityTest.name) = some j.securityTest ∧
            j.securityTest.name ∈ a.pendingNames := by
  obtain ⟨t, c, hhist, rfl⟩ := Staging.exists_staging_of_reachable h
  have hkept : c.Kept r := (Staging.kept_idle rfl).history hhist
  have hreferenced := Staging.referenced_history hhist
  have hfound : ∀ test, c.store.Copies test →
      c.store.securityTests.find? (·.name == test.name) = some test := fun test ht =>
    find?_name_of_mem hreferenced.names (hreferenced.copies test ht)
  refine ⟨hreferenced.names, fun x hx test ht => hfound test (.inl ⟨x, hx, ht⟩), fun a ha => ?_⟩
  refine ⟨fun test ht => hfound test (.inr ⟨a, ha, ht⟩), fun j hj => ?_⟩
  have htest := hkept.mem_of_job ha hj
  exact ⟨hfound _ (.inr ⟨a, ha, htest⟩), List.mem_map_of_mem htest⟩

/-- In the sample the detector has selected two tests for the repository, and has a job; what the
repository and the job hold is found as it is there. -/
theorem copies_are_registered_sample : ∃ s t x a,
    Crowd.follow Script.sampleRunner (Script.sample.schedule Script.detection) (.idle .empty) =
        some (s, t) ∧
      s.store.repositories = [x] ∧ s.store.analyses = [a] ∧
      x.securityTests.map (·.name) = ["bandit", SecurityTest.detectorName] ∧
      a.jobs.map (·.securityTest.name) = [SecurityTest.detectorName] ∧
      (∀ test ∈ x.securityTests,
        s.store.securityTests.find? (·.name == test.name) = some test) ∧
      ∀ j ∈ a.jobs,
        s.store.securityTests.find? (·.name == j.securityTest.name) = some j.securityTest := by
  obtain ⟨s, t, x, a, hs, hx, ha, htests, hjobs⟩ : ∃ s t x a,
      Crowd.follow Script.sampleRunner (Script.sample.schedule Script.detection) (.idle .empty) =
          some (s, t) ∧
        s.store.repositories = [x] ∧ s.store.analyses = [a] ∧
        x.securityTests.map (·.name) = ["bandit", SecurityTest.detectorName] ∧
        a.jobs.map (·.securityTest.name) = [SecurityTest.detectorName] :=
    ⟨_, _, _, _, rfl, rfl, rfl, rfl, rfl⟩
  obtain ⟨-, hrepositories, hanalyses⟩ := copies_are_registered (Crowd.reachable_of_follow hs)
  refine ⟨s, t, x, a, hs, hx, ha, htests, hjobs, hrepositories x (by simp [hx]), fun j hj => ?_⟩
  exact ((hanalyses a (by simp [ha])).2 j hj).1

end Service
end ScanService
