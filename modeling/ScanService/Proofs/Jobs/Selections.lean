import ScanService.Proofs.Conversations
import ScanService.Proofs.Jobs.Phases
import ScanService.Proofs.Schedule

/-!
# Recorded selections

When a detector has passed, the tests for its languages are looked up, a language at a time, and what
has been found is recorded with the repository.  A look-up that fails contributes nothing, and the
detector goes on.  So the tests of a repository with languages need not be all that these ask for; but
they are always what one selection for these languages gave, by one run of the detector, and that is
all of them if no look-up of it failed.

## What is here

* `trace_selectTests_iff` — the conversations that a selection can have, and what each gives.
* `Selects`, `selects_iff` — what a selection gives when each look-up is answered as the store does.
* `Staging.Selective` — a detector that looks tests up has had the conversation of a selection as far
  as that, and each repository with languages has what such a conversation gave; `Selective.turn` and
  `selective_history` carry it along.
* `recorded_tests_were_selected` — **what is recorded is what was selected**, failures and all.
* `recorded_tests_incomplete` — and that need not be complete.
-/

namespace ScanService
namespace Service

open Execution (UnitContext)

/-! ## Conversations of a selection -/

/-- A look-up of the default tests of a language, and its answer. -/
def lookUp (language : String) (answer : Except ServiceError (List SecurityTest)) :
    Program.Exchange activity :=
  ⟨.store (.findSecurityTests (.defaultsFor language)), answer⟩

/-- A question got the answer that a store gives. -/
def AnsweredBy (m : Store.Memory) : Program.Exchange activity → Prop
  | ⟨.store c, answer⟩ => answer = (m.answer c).1
  | _ => False

/-- A call to the store failed. -/
def HasFailed : Program.Exchange activity → Prop
  | ⟨.store _, answer⟩ => ∃ e, answer = Except.error e
  | _ => False

/-- The tests that are selected for some languages when each look-up is answered as a store does. -/
def Selects (m : Store.Memory) (languages : List String) (tests : List SecurityTest) : Prop :=
  ∃ u, (selectTests languages).Trace u tests ∧ ∀ y ∈ u, AnsweredBy m y

variable {m : Store.Memory} {language : String} {languages rest : List String}
  {tests more : List SecurityTest} {u v : List (Program.Exchange activity)}

theorem trace_defaultsForAll_cons (answer : Except ServiceError (List SecurityTest))
    (h : (defaultsForAll rest).Trace v more) :
    (defaultsForAll (language :: rest)).Trace (lookUp language answer :: v)
      (answer.toOption.getD [] ++ more) := by
  have hmore : ((defaultsForAll rest).bind fun more =>
      .done (answer.toOption.getD [] ++ more)).Trace v (answer.toOption.getD [] ++ more) := by
    rw [← List.append_nil v]
    exact Program.trace_bind.mpr ⟨v, [], more, rfl, h, .done _⟩
  cases answer with
  | ok found => exact .ask hmore
  | error e => exact .ask hmore

theorem exists_of_trace_defaultsForAll_cons
    (h : (defaultsForAll (language :: rest)).Trace u tests) : ∃ answer v more,
      u = lookUp language answer :: v ∧ (defaultsForAll rest).Trace v more ∧
        tests = answer.toOption.getD [] ++ more := by
  obtain ⟨u₁, u₂, found, rfl, hfound, h⟩ := Program.trace_bind.mp h
  obtain ⟨v, u₃, more, rfl, hmore, h⟩ := Program.trace_bind.mp h
  cases h
  cases hfound with
  | @ask _ _ answer rest _ hfound =>
    refine ⟨answer, v, more, ?_, hmore, ?_⟩
    · cases answer <;> cases hfound <;> simp [lookUp]
    · cases answer <;> cases hfound <;> rfl

/-- **The conversations of look-ups:** each may have any answer, and those that fail contribute
nothing. -/
theorem trace_defaultsForAll_iff : (defaultsForAll languages).Trace u tests ↔
    ∃ answers : List (Except ServiceError (List SecurityTest)),
      answers.length = languages.length ∧ u = List.zipWith lookUp languages answers ∧
        tests = answers.flatMap fun answer => answer.toOption.getD [] := by
  induction languages generalizing u tests with
  | nil =>
    constructor
    · rintro ⟨⟩
      exact ⟨[], rfl, rfl, rfl⟩
    · rintro ⟨answers, hlength, rfl, rfl⟩
      obtain rfl := List.length_eq_zero_iff.mp hlength
      exact .done []
  | cons language rest ih =>
    constructor
    · intro h
      obtain ⟨answer, v, more, rfl, hmore, rfl⟩ := exists_of_trace_defaultsForAll_cons h
      obtain ⟨answers, hlength, rfl, rfl⟩ := ih.mp hmore
      exact ⟨answer :: answers, by simp [hlength], rfl, rfl⟩
    · rintro ⟨answers, hlength, rfl, rfl⟩
      cases answers with
      | nil => cases hlength
      | cons answer answers =>
        exact trace_defaultsForAll_cons answer
          (ih.mpr ⟨answers, by simpa using hlength, rfl, rfl⟩)

/-- **The conversations of a selection**, and what each gives. -/
theorem trace_selectTests_iff : (selectTests languages).Trace u tests ↔
    ∃ answers : List (Except ServiceError (List SecurityTest)),
      answers.length = (lookups languages).length ∧
        u = List.zipWith lookUp (lookups languages) answers ∧
        tests = answers.flatMap fun answer => answer.toOption.getD [] :=
  trace_defaultsForAll_iff

/-- The store's own answer to a look-up. -/
theorem answeredBy_lookUp_iff {answer : Except ServiceError (List SecurityTest)} :
    AnsweredBy m (lookUp language answer) ↔
      answer = .ok (m.securityTests.filter fun test =>
        test.language == language && test.isDefault) := by
  have haccepts : (Store.Filter.defaultsFor language).accepts =
      fun test : SecurityTest => test.language == language && test.isDefault :=
    funext fun test => Store.accepts_defaultsFor
  rw [← haccepts]
  exact Iff.rfl

/-- **What a selection gives that nothing happens to:** the default tests of all languages in turn. -/
theorem selects_iff : Selects m languages tests ↔ tests = (lookups languages).flatMap fun language =>
    m.securityTests.filter fun test => test.language == language && test.isDefault := by
  rw [Selects, selectTests]
  generalize lookups languages = languages
  induction languages generalizing tests with
  | nil =>
    constructor
    · rintro ⟨u, ⟨⟩, -⟩
      rfl
    · rintro rfl
      exact ⟨[], .done [], by simp⟩
  | cons language rest ih =>
    rw [List.flatMap_cons]
    constructor
    · rintro ⟨u, h, hanswers⟩
      obtain ⟨answer, v, more, rfl, hmore, rfl⟩ := exists_of_trace_defaultsForAll_cons h
      rw [List.forall_mem_cons, answeredBy_lookUp_iff] at hanswers
      rw [hanswers.1, ih.mp ⟨v, hmore, hanswers.2⟩]
      rfl
    · rintro rfl
      obtain ⟨v, hmore, hanswers⟩ := ih.mpr rfl
      exact ⟨_, trace_defaultsForAll_cons (.ok _) hmore,
        List.forall_mem_cons.mpr ⟨answeredBy_lookUp_iff.mpr rfl, hanswers⟩⟩

/-! ## Conversations in a history -/

namespace Crowd

/-- The turn in which a question was answered. -/
def Event.ofExchange (i : Nat) (y : Program.Exchange activity) : Event := ⟨i, y.1, y.2⟩

variable {t : List Event} {i j : Nat} {q : Call} {answer : q.Answer}

/-- What has been said stays said. -/
theorem isInfix_turnsOf_concat {l : List Event} (h : l <:+: turnsOf i t) :
    l <:+: turnsOf i (t ++ [⟨j, q, answer⟩]) := by
  by_cases hj : j = i
  · subst hj
    rw [turnsOf_concat_self]
    exact h.trans (List.prefix_append _ _).isInfix
  · rwa [turnsOf_concat_of_ne hj]

end Crowd

/-- A detector that looks up tests has had the conversation of a selection as far as that. -/
def FollowStage.Selects (m : Store.Memory) (t : List Crowd.Event) (i : Nat)
    (languages : List String) : FollowStage → Prop
  | lookUp rest selected => ∃ u, u.map (Crowd.Event.ofExchange i) <:+ Crowd.turnsOf i t ∧
    (∀ y ∈ u, AnsweredBy m y ∨ HasFailed y) ∧
    ∀ v more, (defaultsForAll rest).Trace v more →
      (selectTests languages).Trace (u ++ v) (selected ++ more)
  | _ => True

/-- So it is with a run. -/
def RunStage.Selects (r : Runner) (m : Store.Memory) (t : List Crowd.Event) (i : Nat)
    (test : SecurityTest) : RunStage → Prop
  | follow _ _ reading stage => stage.Selects m t i (r.evaluate test reading.report).languages
  | _ => True

/-- So it is with a task; and nothing has been detected in what is registered. -/
def Stage.Selects (r : Runner) (m : Store.Memory) (t : List Crowd.Event) (i : Nat) : Stage → Prop
  | run _ test stage => stage.Selects r m t i test
  | plain _ rest _ _ => rest.OnlyAsks Call.registersUndetected
  | admission _ _ | status _ _ => True

variable {r : Runner} {w : Surroundings} {t : List Crowd.Event} {i : Nat}

theorem Stage.selects_begin (e : Errand) : (begin r e).Selects r m t i := by
  cases e with
  | run | analyse | status => exact True.intro
  | registerRepository form => exact registerRepository_onlyAsks_undetected form
  | registerSecurityTest form =>
    exact (registerSecurityTest_onlyAsks form).imp fun _ =>
      Call.registersUndetected_of_concernsTests
  | ensureDefaults =>
    exact ensureDefaults_onlyAsks.imp fun _ => Call.registersUndetected_of_concernsTests

/-- A look-up is answered as a store with the same tests does, or it fails. -/
theorem Surroundings.answeredBy_or_hasFailed {m' m'' : Store.Memory}
    {answer : Except ServiceError (List SecurityTest)}
    (h : w.Stores (.findSecurityTests (.defaultsFor language)) m' answer m'')
    (hm : m'.securityTests = m.securityTests) :
    AnsweredBy m (lookUp language answer) ∨ HasFailed (lookUp language answer) := by
  cases answer with
  | ok found =>
    refine .inl (answeredBy_lookUp_iff.mpr ?_)
    rw [← hm, w.filter_of_stores_findSecurityTests h]
  | error e => exact .inr ⟨e, rfl⟩

/-- **A step of a detector goes on with the conversation of its selection.** -/
theorem RunStage.Step.selects {ctx : UnitContext} {test : SecurityTest} {stage stage' : RunStage}
    {known tests : List SecurityTest} {q : Call} {answer : q.Answer}
    (h : stage.Step r ctx test known q answer stage' tests) (hstage : stage.Selects r m t i test)
    (ha : ∀ language found, (⟨q, answer⟩ : Program.Exchange activity) = lookUp language found →
      AnsweredBy m (lookUp language found) ∨ HasFailed (lookUp language found)) :
    stage'.Selects r m (t ++ [⟨i, q, answer⟩]) i test := by
  cases h with
  | detected report hd =>
    refine ⟨[], List.nil_suffix, by simp, fun v more h => ?_⟩
    simpa [selectTests] using h
  | @lookedUp id startedAt reading language rest selected answer =>
    obtain ⟨u, hu, hanswers, hgoes⟩ := hstage
    refine ⟨u ++ [lookUp language answer], ?_, ?_, fun v more h => ?_⟩
    · obtain ⟨before, hbefore⟩ := hu
      rw [Crowd.turnsOf_concat_self, ← hbefore, List.map_append, List.append_assoc]
      exact List.suffix_append _ _
    · intro y hy
      rcases List.mem_append.mp hy with hy | hy
      · exact hanswers y hy
      · rw [List.mem_singleton.mp hy]
        exact ha language answer rfl
    · rw [List.append_assoc, List.append_assoc]
      exact hgoes _ _ (trace_defaultsForAll_cons answer h)
  | _ => exact True.intro

namespace Staging

variable {c c' : Staging}

/-- What is recorded for a repository was selected by a detector, in the course of its turns. -/
def HasSelected (m : Store.Memory) (t : List Crowd.Event) (c : Staging)
    (x : Repository) : Prop :=
  ∃ (i : Nat) (ctx : UnitContext) (test : SecurityTest) (stage : RunStage)
    (u : List (Program.Exchange activity)), c.stages[i]? = some (.run ctx test stage) ∧
      ctx.repositoryUrl = x.url ∧ test.name = SecurityTest.detectorName ∧
      u.map (Crowd.Event.ofExchange i) <:+: Crowd.turnsOf i t ∧
      (selectTests x.languages).Trace u x.securityTests ∧ ∀ y ∈ u, AnsweredBy m y ∨ HasFailed y

/-- Every repository with languages has tests that were selected for them, and no task is about to
change that. -/
structure Selective (r : Runner) (m : Store.Memory) (t : List Crowd.Event) (c : Staging) : Prop where
  /-- So has a repository. -/
  repositories : ∀ x ∈ c.store.repositories, x.languages = [] ∨ c.HasSelected m t x
  /-- No task is about to change that. -/
  stages : ∀ (i : Nat) (x : Stage), c.stages[i]? = some x → x.Selects r m t i

theorem HasSelected.request {x : Repository} (h : c.HasSelected m t x) (e : Errand) :
    HasSelected m t { c with stages := c.stages ++ [.begin r e] } x := by
  obtain ⟨i, ctx, test, stage, u, hi, h⟩ := h
  refine ⟨i, ctx, test, stage, u, ?_, h⟩
  rw [List.getElem?_append_left (List.getElem?_eq_some_iff.mp hi).1, hi]

theorem HasSelected.turn {x : Repository} (h : c.HasSelected m t x) {q : Call}
    {answer : q.Answer} (hturn : Turn r w i q answer c c') :
    HasSelected m (t ++ [⟨i, q, answer⟩]) c' x := by
  obtain ⟨j, ctx, test, stage, u, hj, hurl, hname, hu, h⟩ := h
  obtain ⟨stage', hj', -⟩ := hturn.run_goes_on hj
  exact ⟨j, ctx, test, stage', u, hj', hurl, hname, Crowd.isInfix_turnsOf_concat hu, h⟩

/-- Whoever has no turn is where it was in its conversation. -/
theorem selects_of_ne {j : Nat} {x : Stage} {q : Call} {answer : q.Answer}
    (h : x.Selects r m t j) (hne : j ≠ i) : x.Selects r m (t ++ [⟨i, q, answer⟩]) j := by
  cases x with
  | run ctx test stage =>
    cases stage with
    | follow id startedAt reading stage =>
      cases stage with
      | lookUp rest selected =>
        obtain ⟨u, hu, h⟩ := h
        exact ⟨u, by rwa [Crowd.turnsOf_concat_of_ne hne.symm], h⟩
      | readScheduled | recordTests => exact True.intro
    | _ => exact True.intro
  | admission | status => exact True.intro
  | plain => exact h

/-- Whoever has the turn goes on with its conversation, and whoever is launched begins. -/
theorem Selective.stages_of_turn (hc : c.Selective r m t)
    (htests : c.store.securityTests = m.securityTests)
    {q : Call} {answer : q.Answer} (h : Turn r w i q answer c c') {j : Nat} {x : Stage}
    (hj : c'.stages[j]? = some x) : x.Selects r m (t ++ [⟨i, q, answer⟩]) j := by
  have hothers : j ≠ i ∧ c.stages[j]? = some x → x.Selects r m (t ++ [⟨i, q, answer⟩]) j :=
    fun ⟨hne, hj⟩ => selects_of_ne (hc.stages j x hj) hne
  cases h with
  | @runStore _ ctx test stage stage' q answer m' tests hi ha hstep =>
    rcases stages_goOn hj with ⟨rfl, rfl⟩ | hj | ⟨e, -, rfl⟩
    · refine hstep.selects (hc.stages j _ hi) fun language found he => ?_
      cases he
      exact w.answeredBy_or_hasFailed ha htests
    · exact hothers hj
    · exact Stage.selects_begin e
  | @runBackend _ ctx test stage stage' q answer hi ha hstep =>
    rcases stages_goOn hj with ⟨rfl, rfl⟩ | hj | ⟨e, -, rfl⟩
    · exact hstep.selects (hc.stages j _ hi) nofun
    · exact hothers hj
    · exact Stage.selects_begin e
  | plain hi hq ha hrest =>
    rcases stages_goOn hj with ⟨rfl, rfl⟩ | hj | ⟨e, he, -⟩
    · obtain ⟨next, s, s', rfl, ht⟩ := hrest
      have hold : Program.OnlyAsks _ _ := hc.stages j _ hi
      exact OnlyAsks.settles (hold.2 _) ht
    · exact hothers hj
    · cases he
  | enter | admission | status =>
    rcases stages_goOn hj with ⟨rfl, rfl⟩ | hj | ⟨e, -, rfl⟩
    · exact True.intro
    · exact hothers hj
    · exact Stage.selects_begin e

/-- What is recorded in a turn was selected before it. -/
theorem Selective.repositories_of_turn (hc : c.Selective r m t) {start : Store.Memory}
    (hhist : History r w (idle start) t c) {q : Call} {answer : q.Answer}
    (h : Turn r w i q answer c c') {y : Repository} (hy : y ∈ c'.store.repositories) :
    y.languages = [] ∨ HasSelected m (t ++ [⟨i, q, answer⟩]) c' y := by
  rcases h.repositories hy with
    hy | ⟨e, he, q', next, hp, hi, hq⟩ |
      ⟨ctx, test, id, startedAt, reading, selected, z, -, hi, hurl, rfl⟩
  · exact (hc.repositories y hy).imp_right fun hselected => hselected.turn h
  · have hold : Program.OnlyAsks _ _ := hc.stages i _ hi
    rcases hq with rfl | ⟨f, p, rfl⟩
    · exact .inl hold.1
    · exact hold.1.elim
  · -- nothing is left to look up, so the conversation of the selection is over
    obtain ⟨u, hu, hanswers, hgoes⟩ := hc.stages i _ hi
    have hname := (keepsToFollowUps_of_history hhist hi).1
    have hselected := hgoes [] [] (.done [])
    rw [List.append_nil, List.append_nil] at hselected
    obtain ⟨stage', hi', -⟩ := h.run_goes_on hi
    exact .inr ⟨i, ctx, test, stage', u, hi', hurl.symm, hname,
      Crowd.isInfix_turnsOf_concat hu.isInfix, hselected, hanswers⟩

/-- **At all times what is recorded was selected,** as long as no test is registered. -/
theorem selective_history (hm : ∀ x ∈ m.repositories, x.languages = [])
    (h : History r w (idle m) t c) (htests : c.store.securityTests = m.securityTests) :
    c.Selective r m t := by
  induction h with
  | start => exact ⟨fun x hx => .inl (hm x hx), fun i x hi => by cases hi⟩
  | @request t c e _ _ ih =>
    have hc := ih htests
    refine ⟨fun x hx => (hc.repositories x hx).imp_right fun h => h.request e, fun j x hj => ?_⟩
    rcases stages_request hj with hj | rfl
    · exact hc.stages j x hj
    · exact Stage.selects_begin e
  | turn hhist hturn ih =>
    have hbefore := hhist.securityTests_isPrefix.eq_of_length_le
      (htests ▸ hturn.securityTests_isPrefix.length_le)
    have hc := ih hbefore.symm
    exact ⟨fun y hy => hc.repositories_of_turn hhist hturn hy,
      fun j x hj => hc.stages_of_turn hbefore.symm hturn hj⟩

end Staging

/-! ## Crowds -/

variable {s : Crowd}

/-- **What is recorded is what was selected.**  Let nothing have been detected at first, let anybody
register and analyse repositories, and let any calls to the store fail; but no test is registered.
Then for each repository with languages there is a run of the detector for it, which in the course of
its turns has had the conversation of a selection for these languages, and the recorded tests are what
the selection gave.  Each look-up of it was answered as the store does, or failed.  So if none of it
failed, the recorded tests are what is selected when no look-up fails. -/
theorem recorded_tests_were_selected (hm : ∀ x ∈ m.repositories, x.languages = [])
    (h : Crowd.History r w (.idle m) t s) (htests : s.store.securityTests = m.securityTests)
    {x : Repository} (hx : x ∈ s.store.repositories) (hl : x.languages ≠ []) :
    ∃ (i : Nat) (ctx : UnitContext) (test : SecurityTest) (u : List (Program.Exchange activity)),
      s.errands[i]? = some (.run ctx test) ∧ ctx.repositoryUrl = x.url ∧
        test.name = SecurityTest.detectorName ∧
        u.map (Crowd.Event.ofExchange i) <:+: Crowd.turnsOf i t ∧
        (selectTests x.languages).Trace u x.securityTests ∧
        (∀ y ∈ u, AnsweredBy m y ∨ HasFailed y) ∧
        ((∀ y ∈ u, ¬HasFailed y) → Selects m x.languages x.securityTests) := by
  obtain ⟨c, hhist, rfl⟩ := Staging.exists_staging (c := .idle m) h
  obtain ⟨i, ctx, test, stage, u, hi, hurl, hname, hu, hselected, hanswers⟩ :=
    ((Staging.selective_history hm hhist htests).repositories x hx).resolve_left hl
  exact ⟨i, ctx, test, u, Staging.errands_of_run hi, hurl, hname, hu, hselected, hanswers,
    fun hnone => ⟨u, hselected, fun y hy => (hanswers y hy).resolve_right (hnone y hy)⟩⟩

/-! ### A sample -/

namespace Script

/-- A store with two default tests, the detector among them, and no repository. -/
def selectableStore : Store.Memory :=
  ⟨[], [{ sampleDetector with isDefault := true }, sampleTest], []⟩

/-- A repository is registered and analysed, and the detector runs until it has to look up the tests
for the language that it has found. -/
def beforeLookUps : List Move :=
  .request (.registerRepository ⟨sampleRepository.url, none, []⟩) :: List.replicate 2 (.turn 0) ++
    .request (.analyse sampleRepository.url) :: List.replicate 4 (.turn 1) ++
    List.replicate 7 (.turn 2)

/-- The store fails when the detector looks up the tests for the language, and at no other time. -/
def failingLookUp : List Cue :=
  sample.schedule beforeLookUps ++
    .turn 2 { Chance.ofScript sample [] with failure := fun _ => some (.persistence "") } ::
      sample.schedule (List.replicate 2 (.turn 2))

/-- What the repository is after that. -/
theorem follow_failingLookUp : ∃ s t x,
    Crowd.follow sampleRunner failingLookUp (.idle selectableStore) = some (s, t) ∧
      s.store.securityTests = selectableStore.securityTests ∧ s.store.repositories = [x] ∧
      x.languages = ["python"] ∧ x.securityTests = [{ sampleDetector with isDefault := true }] :=
  ⟨_, _, _, rfl, rfl, rfl, rfl, rfl⟩

end Script

/-- In the sample the detector has selected what is recorded, although a look-up of it failed. -/
theorem recorded_tests_were_selected_sample : ∃ t s,
    Crowd.History Script.sampleRunner .arbitrary (.idle Script.selectableStore) t s ∧
      ∃ x ∈ s.store.repositories, x.languages ≠ [] ∧ ∃ u,
        (selectTests x.languages).Trace u x.securityTests ∧ ∃ y ∈ u, HasFailed y := by
  obtain ⟨s, t, x, hs, htests, hstored, hlanguages, hrecorded⟩ := Script.follow_failingLookUp
  have hhist := Crowd.history_of_follow (w := .arbitrary) .start hs
    (fun cue _ => cue.isAllowedBy_of_forall fun _ _ => True.intro)
    (Surroundings.allow_of_forall (fun _ _ _ => True.intro) t _)
  have hx : x ∈ s.store.repositories := hstored ▸ List.mem_cons_self
  have hl : x.languages ≠ [] := by simp [hlanguages]
  obtain ⟨i, ctx, test, u, -, -, -, -, htrace, -, hcomplete⟩ :=
    recorded_tests_were_selected (by simp [Script.selectableStore]) hhist htests hx hl
  refine ⟨t, s, hhist, x, hx, hl, u, htrace, ?_⟩
  by_contra hnone
  have hselects := hcomplete fun y hy hfailed => hnone ⟨y, hy, hfailed⟩
  rw [selects_iff, hlanguages, hrecorded] at hselects
  exact absurd hselects (by decide)

/-- **What is recorded need not be complete:** when a look-up fails, a repository is left with the
language but without its default test. -/
theorem recorded_tests_incomplete : ∃ (m : Store.Memory) (t : List Crowd.Event) (s : Crowd),
    Crowd.History Script.sampleRunner .arbitrary (.idle m) t s ∧ m.repositories = [] ∧
      s.store.securityTests = m.securityTests ∧ ∃ x ∈ s.store.repositories, x.languages ≠ [] ∧
        ¬Selects m x.languages x.securityTests := by
  obtain ⟨s, t, x, hs, htests, hstored, hlanguages, hrecorded⟩ := Script.follow_failingLookUp
  have hhist := Crowd.history_of_follow (w := .arbitrary) .start hs
    (fun cue _ => cue.isAllowedBy_of_forall fun _ _ => True.intro)
    (Surroundings.allow_of_forall (fun _ _ _ => True.intro) t _)
  refine ⟨_, t, s, hhist, rfl, htests, x, hstored ▸ List.mem_cons_self, by simp [hlanguages], ?_⟩
  rw [selects_iff, hlanguages, hrecorded]
  decide

end Service
end ScanService
