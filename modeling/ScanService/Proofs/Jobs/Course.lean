import ScanService.Proofs.Conversations
import ScanService.Proofs.Jobs.Fate

/-!
# The course of a run

Of all that a run asks, its calls to the backend are what decides its fate.  They come in one order,
with six exits, and `Course` writes them down as a grammar: a conversation with the backend that has
come to its end, and the fate that it means.  It is not a chart of the program but of its outside;
that the program keeps to it is shown of all its conversations, a stage at a time, last stage first
(`course_of_trace`), and so it is true of a run in every crowd (`exists_course_of_history`).

## What is here

* `toBackend` — a conversation as far as it was held with the backend.
* `Preparation` — what is said about an image: it is looked for, and unless it is there it is pulled
  once and looked for again.
* `Course` — **what a run says to the backend and is told, and what it comes to.**
* `Course.unique` — what a run comes to is a function of what the backend has told it.
-/

namespace ScanService

namespace Execution

/-- The questions to an execution backend. -/
abbrev inquiry : Interface := ⟨Call, Call.Answer⟩

end Execution

namespace Service

open Execution (UnitContext)

/-! ## Conversations with the backend -/

/-- An exchange as far as it was held with the backend. -/
def toBackend? : Program.Exchange activity → Option (Program.Exchange Execution.inquiry)
  | ⟨.backend c, answer⟩ => some ⟨c, answer⟩
  | _ => none

/-- A conversation as far as it was held with the backend. -/
def toBackend (u : List (Program.Exchange activity)) : List (Program.Exchange Execution.inquiry) :=
  u.filterMap toBackend?

@[simp] theorem toBackend_append (u v : List (Program.Exchange activity)) :
    toBackend (u ++ v) = toBackend u ++ toBackend v := List.filterMap_append

@[simp] theorem toBackend_cons_backend (c : Execution.Call) (answer : c.Answer)
    (u : List (Program.Exchange activity)) :
    toBackend (⟨.backend c, answer⟩ :: u) = ⟨c, answer⟩ :: toBackend u := rfl

/-- Calls to the backend take turns. -/
@[simp] theorem toBackend_turns (u : List (Program.Exchange activity)) :
    toBackend (turns u) = toBackend u := by
  rw [toBackend, turns, List.filterMap_filter]
  refine congrArg (List.filterMap · u) (funext fun ⟨c, answer⟩ => ?_)
  cases c <;> rfl

/-- Questions to others than the backend. -/
def Call.sparesBackend : Call → Prop
  | .backend _ => False
  | _ => True

theorem toBackend_cons_of_spares {c : Call} {answer : c.Answer} (h : c.sparesBackend)
    (u : List (Program.Exchange activity)) : toBackend (⟨c, answer⟩ :: u) = toBackend u := by
  cases c with
  | backend => exact h.elim
  | _ => rfl

/-- Whoever spares the backend says nothing to it. -/
theorem toBackend_eq_nil {α : Type} {m : Task α} (h : m.OnlyAsks Call.sparesBackend)
    {u : List (Program.Exchange activity)} {a : α} (ht : m.Trace u a) : toBackend u = [] := by
  have hspares := h.of_trace ht
  clear h ht
  induction u with
  | nil => rfl
  | cons y u ih =>
    rw [List.forall_mem_cons] at hspares
    rw [toBackend_cons_of_spares hspares.1, ih hspares.2]

/-! ## Images -/

/-- The image is looked for until it is there, or until the time is over. -/
inductive Polls (image : String) : List (Program.Exchange Execution.inquiry) → Prop where
  /-- The last look. -/
  | last (answer : Except BackendError Bool) : Polls image [⟨.imageIsLoaded image, answer⟩]
  /-- The image was not there, and is looked for again. -/
  | again {answer : Except BackendError Bool} {rest : List (Program.Exchange Execution.inquiry)}
    (hanswer : answer ≠ .ok true) (hrest : Polls image rest) :
    Polls image (⟨.imageIsLoaded image, answer⟩ :: rest)

/-- What is said about an image before there is a unit. -/
inductive Preparation (image : String) : List (Program.Exchange Execution.inquiry) → Prop where
  /-- The image is there. -/
  | there : Preparation image [⟨.imageIsLoaded image, .ok true⟩]
  /-- It is not, as far as one can say; it is pulled once and then looked for. -/
  | pulled {answer : Except BackendError Bool} (hanswer : answer ≠ .ok true)
    (pull : Except BackendError Unit) {polls : List (Program.Exchange Execution.inquiry)}
    (hpolls : Polls image polls) :
    Preparation image (⟨.imageIsLoaded image, answer⟩ :: ⟨.pullImage image, pull⟩ :: polls)

/-! ## Courses -/

/-- What a run says to the backend and is told, from its first question to its last, and what it
comes to.  There are six ways out. -/
inductive Course (r : Runner) (ctx : UnitContext) (test : SecurityTest) :
    List (Program.Exchange Execution.inquiry) → Fate → Prop where
  /-- There is no unit. -/
  | refused {p : List (Program.Exchange Execution.inquiry)} (hp : Preparation test.imageRef p)
    (e : BackendError) :
    Course r ctx test (p ++ [⟨.createUnit ctx test.imageRef (r.command test), .error e⟩])
      (.noUnit e.toServiceError.message)
  /-- The unit is not started. -/
  | notStarted {p : List (Program.Exchange Execution.inquiry)} (hp : Preparation test.imageRef p)
    (id : String) (e : BackendError) :
    Course r ctx test (p ++ [⟨.createUnit ctx test.imageRef (r.command test), .ok id⟩,
      ⟨.startUnit id, .error e⟩]) (.failed e.toServiceError.message)
  /-- The unit does not end in time. -/
  | timedOut {p : List (Program.Exchange Execution.inquiry)} (hp : Preparation test.imageRef p)
    (id : String) (after : Duration) :
    Course r ctx test (p ++ [⟨.createUnit ctx test.imageRef (r.command test), .ok id⟩,
      ⟨.startUnit id, .ok ()⟩, ⟨.waitUnit id test.timeout, .error (.timeout after)⟩]) .timedOut
  /-- The unit does not end as it should. -/
  | notEnded {p : List (Program.Exchange Execution.inquiry)} (hp : Preparation test.imageRef p)
    (id : String) {e : BackendError} (he : ∀ after, e ≠ .timeout after) :
    Course r ctx test (p ++ [⟨.createUnit ctx test.imageRef (r.command test), .ok id⟩,
      ⟨.startUnit id, .ok ()⟩, ⟨.waitUnit id test.timeout, .error e⟩])
      (.failed e.toServiceError.message)
  /-- What the unit has printed cannot be read. -/
  | unread {p : List (Program.Exchange Execution.inquiry)} (hp : Preparation test.imageRef p)
    (id : String) (e : BackendError) :
    Course r ctx test (p ++ [⟨.createUnit ctx test.imageRef (r.command test), .ok id⟩,
      ⟨.startUnit id, .ok ()⟩, ⟨.waitUnit id test.timeout, .ok ()⟩, ⟨.readOutput id, .error e⟩])
      (.failed e.toServiceError.message)
  /-- It is read. -/
  | reported {p : List (Program.Exchange Execution.inquiry)} (hp : Preparation test.imageRef p)
    (id report : String) :
    Course r ctx test (p ++ [⟨.createUnit ctx test.imageRef (r.command test), .ok id⟩,
      ⟨.startUnit id, .ok ()⟩, ⟨.waitUnit id test.timeout, .ok ()⟩, ⟨.readOutput id, .ok report⟩])
      (.reported report)

/-! ## The last word -/

/-- The fate that an answer means, if it means one. -/
def fateTold? : Program.Exchange Execution.inquiry → Option Fate
  | ⟨.createUnit _ _ _, .error e⟩ => some (.noUnit e.toServiceError.message)
  | ⟨.startUnit _, .error e⟩ => some (.failed e.toServiceError.message)
  | ⟨.waitUnit _ _, .error (.timeout _)⟩ => some .timedOut
  | ⟨.waitUnit _ _, .error e⟩ => some (.failed e.toServiceError.message)
  | ⟨.readOutput _, .error e⟩ => some (.failed e.toServiceError.message)
  | ⟨.readOutput _, .ok report⟩ => some (.reported report)
  | _ => none

/-- The fate that the last answer means. -/
def fateOf? (l : List (Program.Exchange Execution.inquiry)) : Option Fate :=
  l.getLast?.bind fateTold?

@[simp] theorem fateOf?_append_singleton (l : List (Program.Exchange Execution.inquiry))
    (y : Program.Exchange Execution.inquiry) : fateOf? (l ++ [y]) = fateTold? y := by
  simp [fateOf?]

theorem fateTold?_wait {id : String} {limit : Duration} {e : BackendError}
    (he : ∀ after, e ≠ .timeout after) :
    fateTold? ⟨.waitUnit id limit, .error e⟩ = some (.failed e.toServiceError.message) := by
  cases e with
  | timeout after => exact absurd rfl (he after)
  | _ => rfl

/-- The last answer of a course means its fate. -/
theorem Course.fateOf?_eq {r : Runner} {ctx : UnitContext} {test : SecurityTest}
    {l : List (Program.Exchange Execution.inquiry)} {fate : Fate} (h : Course r ctx test l fate) :
    fateOf? l = some fate := by
  cases h with
  | notEnded hp id he => simp [fateOf?, fateTold?_wait he]
  | refused | notStarted | timedOut | unread | reported => simp [fateOf?, fateTold?]

/-- **What a run comes to is a function of what the backend has told it.** -/
theorem Course.unique {r : Runner} {ctx : UnitContext} {test : SecurityTest}
    {l : List (Program.Exchange Execution.inquiry)} {fate fate' : Fate}
    (h : Course r ctx test l fate) (h' : Course r ctx test l fate') : fate = fate' :=
  Option.some.inj (h.fateOf?_eq.symm.trans h'.fateOf?_eq)

/-! ## What is done without the backend -/

section

variable {r : Runner} {ctx : UnitContext} {test : SecurityTest}

theorem moveJob_onlyAsks (job : Job) (p : Store.JobPatch) :
    (moveJob ctx job p).OnlyAsks Call.sparesBackend := by
  rw [moveJob]
  split
  · exact True.intro
  · cases job.executionId with
    | none => exact True.intro
    | some id => exact ⟨True.intro, fun _ => True.intro⟩

theorem failJob_onlyAsks (job : Job) (reason : String) :
    (failJob moveJob ctx job reason).OnlyAsks Call.sparesBackend :=
  ⟨True.intro, fun _ =>
    Program.onlyAsks_bind (m := moveJob ctx job _) (moveJob_onlyAsks job _) fun _ => True.intro⟩

theorem defaultsForAll_onlyAsks (languages : List String) :
    (defaultsForAll languages).OnlyAsks Call.sparesBackend := by
  induction languages with
  | nil => exact True.intro
  | cons language rest ih =>
    refine Program.onlyAsks_bind (m := defaultsFor language) ⟨True.intro, fun answer => ?_⟩
      fun tests => Program.onlyAsks_bind ih fun more => True.intro
    cases answer <;> exact True.intro

theorem forEach_launch_onlyAsks (tests : List SecurityTest) :
    (Program.forEach (Task.launch ctx) tests).OnlyAsks Call.sparesBackend := by
  induction tests with
  | nil => exact True.intro
  | cons test rest ih => exact ⟨True.intro, fun _ => ih⟩

theorem enqueueFollowUps_onlyAsks (languages : List String) :
    (enqueueFollowUps ctx languages).OnlyAsks Call.sparesBackend := by
  refine Program.onlyAsks_bind (defaultsForAll_onlyAsks _) fun selected =>
    ⟨True.intro, fun _ => Program.onlyAsks_bind (m := scheduledNames ctx.rid) ?_ fun scheduled => ?_⟩
  · refine ⟨True.intro, fun answer => ?_⟩
    rcases answer with e | _ | a <;> exact True.intro
  · simp only
    split
    · exact True.intro
    · refine ⟨True.intro, fun answer => ?_⟩
      cases answer with
      | ok u => exact forEach_launch_onlyAsks _
      | error e => exact True.intro

theorem recordReport_onlyAsks (job : Job) (report : String) :
    (r.recordReport moveJob ctx test job report).OnlyAsks Call.sparesBackend := by
  have hlast : ∀ p : Timestamp → Store.JobPatch, (Task.readClock.bind fun now =>
      (moveJob ctx job (p now)).bind fun _ => .done ()).OnlyAsks Call.sparesBackend := fun p =>
    ⟨True.intro, fun now =>
      Program.onlyAsks_bind (m := moveJob ctx job (p now)) (moveJob_onlyAsks job _) fun _ =>
        True.intro⟩
  simp only [Runner.recordReport]
  split
  · exact Program.onlyAsks_bind (enqueueFollowUps_onlyAsks _) fun _ => hlast _
  · exact hlast _

/-! ## Conversations of a run -/

variable {image : String} {u : List (Program.Exchange activity)}

theorem trace_imageIsThere {there : Bool} (h : (imageIsThere image).Trace u there) :
    ∃ answer : Except BackendError Bool,
      u = [⟨.backend (.imageIsLoaded image), answer⟩] ∧ (there = true ↔ answer = .ok true) := by
  obtain ⟨answer, v, rfl, hv⟩ := Program.trace_ask_iff.mp h
  refine ⟨answer, ?_⟩
  cases answer with
  | ok b =>
    obtain ⟨rfl, rfl⟩ := Program.trace_done_iff.mp hv
    simp
  | error e =>
    obtain ⟨rfl, rfl⟩ := Program.trace_done_iff.mp hv
    simp

/-- In a round the image is looked for, and the next round comes only if it was not there. -/
theorem trace_pollImage {interval deadline : Duration} {rounds : Nat}
    (h : (pollImage interval deadline image (rounds + 1)).Trace u ()) :
    ∃ (answer : Except BackendError Bool) (v : List (Program.Exchange activity)),
      toBackend u = ⟨.imageIsLoaded image, answer⟩ :: toBackend v ∧
        (v = [] ∨ answer ≠ .ok true ∧ (pollImage interval deadline image rounds).Trace v ()) := by
  obtain ⟨_, v, rfl, hv⟩ := Program.trace_ask_iff.mp h
  obtain ⟨look, v', there, rfl, hlook, hv'⟩ := Program.trace_bind (m := imageIsThere image).mp hv
  obtain ⟨answer, rfl, hthere⟩ := trace_imageIsThere hlook
  cases there with
  | true =>
    obtain ⟨rfl, -⟩ := Program.trace_done_iff.mp hv'
    exact ⟨answer, [], rfl, .inl rfl⟩
  | false =>
    have hanswer : answer ≠ .ok true := fun he => Bool.false_ne_true (hthere.mpr he)
    obtain ⟨now, v'', rfl, hv''⟩ := Program.trace_ask_iff.mp hv'
    refine ⟨answer, v'', rfl, ?_⟩
    by_cases hdeadline : deadline ≤ now
    · simp only [Program.bind_done, if_pos hdeadline] at hv''
      exact .inl (Program.trace_done_iff.mp hv'').1
    · simp only [Program.bind_done, if_neg hdeadline] at hv''
      exact .inr ⟨hanswer, hv''⟩

/-- An image is looked for once at least, and not again once it is there. -/
theorem polls_of_trace {interval deadline : Duration} {rounds : Nat}
    (h : (pollImage interval deadline image (rounds + 1)).Trace u ()) :
    Polls image (toBackend u) := by
  induction rounds generalizing u with
  | zero =>
    obtain ⟨answer, v, hu, rfl | ⟨-, hv⟩⟩ := trace_pollImage h
    · exact hu ▸ .last answer
    · obtain ⟨rfl, -⟩ := Program.trace_done_iff.mp hv
      exact hu ▸ .last answer
  | succ rounds ih =>
    obtain ⟨answer, v, hu, rfl | ⟨hanswer, hv⟩⟩ := trace_pollImage h
    · exact hu ▸ .last answer
    · exact hu ▸ .again hanswer (ih hv)

/-- What is said about an image, and no more, is said to make it available. -/
theorem preparation_of_trace {settings : RunnerSettings}
    (h : (ensureImage settings image).Trace u ()) : Preparation image (toBackend u) := by
  obtain ⟨look, v, there, rfl, hlook, hv⟩ := Program.trace_bind (m := imageIsThere image).mp h
  obtain ⟨answer, rfl, hthere⟩ := trace_imageIsThere hlook
  cases there with
  | true =>
    obtain ⟨rfl, -⟩ := Program.trace_done_iff.mp hv
    obtain rfl := hthere.mp rfl
    exact .there
  | false =>
    have hanswer : answer ≠ .ok true := fun he => Bool.false_ne_true (hthere.mpr he)
    obtain ⟨pull, v', rfl, hv'⟩ := Program.trace_ask_iff.mp hv
    obtain ⟨now, v'', rfl, hv''⟩ := Program.trace_ask_iff.mp hv'
    rw [Program.bind_done] at hv''
    have hpolls : Polls image (toBackend v'') := polls_of_trace hv''
    exact .pulled hanswer pull hpolls

variable {p : List (Program.Exchange Execution.inquiry)} {id : String} {job : Job}

theorem course_of_readReport (hp : Preparation test.imageRef p)
    (h : (r.readReport moveJob ctx test id job).Trace u ()) :
    ∃ fate, Course r ctx test (p ++ ⟨.createUnit ctx test.imageRef (r.command test), .ok id⟩ ::
      ⟨.startUnit id, .ok ()⟩ :: ⟨.waitUnit id test.timeout, .ok ()⟩ :: toBackend u) fate := by
  obtain ⟨answer, v, rfl, hv⟩ := Program.trace_ask_iff.mp h
  cases answer with
  | ok report =>
    rw [toBackend_cons_backend, toBackend_eq_nil (recordReport_onlyAsks job report) hv]
    exact ⟨_, .reported hp id report⟩
  | error e =>
    rw [toBackend_cons_backend, toBackend_eq_nil (failJob_onlyAsks job _) hv]
    exact ⟨_, .unread hp id e⟩

theorem course_of_awaitUnit (hp : Preparation test.imageRef p)
    (h : (r.awaitUnit moveJob ctx test id job).Trace u ()) :
    ∃ fate, Course r ctx test (p ++ ⟨.createUnit ctx test.imageRef (r.command test), .ok id⟩ ::
      ⟨.startUnit id, .ok ()⟩ :: toBackend u) fate := by
  obtain ⟨answer, v, rfl, hv⟩ := Program.trace_ask_iff.mp h
  rw [toBackend_cons_backend]
  cases answer with
  | ok _ => exact course_of_readReport hp hv
  | error e =>
    cases e with
    | timeout after =>
      obtain ⟨now, v', rfl, hv'⟩ := Program.trace_ask_iff.mp hv
      obtain ⟨moved, v'', _, rfl, hmoved, hv''⟩ :=
        Program.trace_bind (m := moveJob ctx job _).mp hv'
      obtain ⟨rfl, -⟩ := Program.trace_done_iff.mp hv''
      have hnone : toBackend (⟨.readClock, now⟩ :: (moved ++ [])) = [] := by
        rw [List.append_nil, toBackend_cons_of_spares (c := .readClock) True.intro,
          toBackend_eq_nil (moveJob_onlyAsks job _) hmoved]
      rw [hnone]
      exact ⟨_, .timedOut hp id after⟩
    | _ =>
      rw [toBackend_eq_nil (failJob_onlyAsks job _) hv]
      exact ⟨_, .notEnded hp id nofun⟩

theorem course_of_startUnit (hp : Preparation test.imageRef p)
    (h : (r.startUnit moveJob ctx test id job).Trace u ()) :
    ∃ fate, Course r ctx test
      (p ++ ⟨.createUnit ctx test.imageRef (r.command test), .ok id⟩ :: toBackend u) fate := by
  obtain ⟨answer, v, rfl, hv⟩ := Program.trace_ask_iff.mp h
  rw [toBackend_cons_backend]
  cases answer with
  | ok _ =>
    obtain ⟨now, v', rfl, hv'⟩ := Program.trace_ask_iff.mp hv
    obtain ⟨moved, v'', job', rfl, hmoved, hv''⟩ :=
      Program.trace_bind (m := moveJob ctx job _).mp hv'
    have hrest : toBackend (⟨.readClock, now⟩ :: (moved ++ v'')) = toBackend v'' := by
      rw [toBackend_cons_of_spares (c := .readClock) True.intro, toBackend_append,
        toBackend_eq_nil (moveJob_onlyAsks job _) hmoved, List.nil_append]
    rw [hrest]
    exact course_of_awaitUnit hp hv''
  | error e =>
    rw [toBackend_eq_nil (failJob_onlyAsks job _) hv]
    exact ⟨_, .notStarted hp id e⟩

theorem course_of_createUnit (hp : Preparation test.imageRef p)
    (h : (r.createUnit moveJob ctx test).Trace u ()) :
    ∃ fate, Course r ctx test (p ++ toBackend u) fate := by
  obtain ⟨answer, v, rfl, hv⟩ := Program.trace_ask_iff.mp h
  rw [toBackend_cons_backend]
  cases answer with
  | ok id =>
    obtain ⟨_, v', rfl, hv'⟩ := Program.trace_ask_iff.mp hv
    rw [toBackend_cons_of_spares (c := .store _) True.intro]
    exact course_of_startUnit hp (u := v') hv'
  | error e =>
    obtain ⟨now, v', rfl, hv'⟩ := Program.trace_ask_iff.mp hv
    obtain ⟨_, v'', rfl, hv''⟩ := Program.trace_ask_iff.mp hv'
    obtain ⟨rfl, -⟩ := Program.trace_done_iff.mp hv''
    exact ⟨_, .refused hp e⟩

/-- **Whatever a run is told, it keeps to the course.** -/
theorem course_of_trace (h : (r.run ctx test).Trace u ()) :
    ∃ fate, Course r ctx test (toBackend u) fate := by
  obtain ⟨prepared, v, _, rfl, hprepared, hv⟩ := Program.trace_bind.mp h
  rw [toBackend_append]
  exact course_of_createUnit (preparation_of_trace hprepared) hv

end

/-- **In every crowd a run keeps to the course**, and when it has ended it has come to the end of
it. -/
theorem exists_course_of_history {r : Runner} {w : Surroundings} {m : Store.Memory}
    {errands : List Errand} {t : List Crowd.Event} {s : Crowd}
    (h : Crowd.History r w (.gathered r m errands) t s) {i : Nat} {x : Worker}
    (hi : s.workers[i]? = some x) {ctx : UnitContext} {test : SecurityTest}
    (hx : x.errand = .run ctx test) :
    ∃ rest fate, Course r ctx test (toBackend (Crowd.said i t) ++ rest) fate ∧
      (x.isLive = false → rest = []) := by
  obtain ⟨errand, task⟩ := x
  cases hx
  obtain ⟨v, a, hv⟩ := Program.exists_trace Call.nonempty_answer task
  obtain ⟨u, hu, hturns⟩ := h.converses.goesOn i _ hi v a hv
  obtain ⟨fate, hcourse⟩ := course_of_trace hu
  rw [← toBackend_turns, hturns, toBackend_append, toBackend_turns] at hcourse
  refine ⟨toBackend v, fate, hcourse, fun hended => ?_⟩
  cases task with
  | done b => rw [(Program.trace_done_iff.mp hv).1, toBackend, List.filterMap_nil]
  | ask c next => cases hended

end Service
end ScanService
