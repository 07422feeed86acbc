import Mathlib.Order.Bounds.Defs
import ScanService.Proofs.Jobs.Course
import ScanService.Service.Retry

/-!
# How often a call is repeated

A policy makes a call again after a failure that may pass, so what the call comes to depends on what
the backend has in store for it: one outcome for each time it may be asked.  Of these the first that
leaves nothing to hope for is the last one asked for, and what was asked until then is the whole
conversation.

## What is here

* `AnsweredInOrder` — the backend of a conversation has its answers in store, one for each call.
* `IsFinal`, `endings` — the outcomes after which a call is not made again, and the places at which
  something may end.
* `repetition` — so many calls, with a pause between any two that follow each other.
* `conversations_of_attempt` — the conversations of a repeated call, by induction on how often it
  may be made again.
* `retries_bounded` — **a call that is repeated is made until the least of its final outcomes, and
  no other call is repeated.**
* `RetryPolicy.apply_bind`, `RetryPolicy.apply_eq_self` — what a policy makes of a task.
-/

namespace ScanService
namespace Service

/-! ## Backends with answers in store -/

/-- The calls to the backend in a conversation are answered out of a store of answers, which has one
for each place in the order of calls, counted from one, and each call that may be made there. -/
def AnsweredInOrder (inner : ℕ → (c : Execution.Call) → c.Answer)
    (t : List (Program.Exchange activity)) : Prop :=
  ∀ i x, (toBackend t)[i]? = some x → x.2 = inner (i + 1) x.1

section

variable {inner : ℕ → (c : Execution.Call) → c.Answer} {t : List (Program.Exchange activity)}
  {c : Execution.Call}

theorem answeredInOrder_nil : AnsweredInOrder inner [] := fun _ _ h => nomatch h

/-- The first call has the first answer, and the others have the rest. -/
theorem answeredInOrder_cons_backend {r : c.Answer} :
    AnsweredInOrder inner (⟨.backend c, r⟩ :: t) ↔
      r = inner 1 c ∧ AnsweredInOrder (fun i => inner (i + 1)) t := by
  rw [AnsweredInOrder, toBackend_cons_backend]
  constructor
  · exact fun h => ⟨h 0 ⟨c, r⟩ rfl, fun i x hx => h (i + 1) x hx⟩
  · rintro ⟨hr, h⟩ (_ | i) x hx
    · cases hx
      exact hr
    · exact h i x hx

/-- Questions to others do not use up answers. -/
theorem answeredInOrder_cons_of_spares {q : Call} {r : q.Answer} (hq : q.sparesBackend) :
    AnsweredInOrder inner (⟨q, r⟩ :: t) ↔ AnsweredInOrder inner t := by
  rw [AnsweredInOrder, toBackend_cons_of_spares hq, AnsweredInOrder]

end

/-! ## Final outcomes -/

/-- An outcome after which a call is not made again: a success, or a failure that does not pass. -/
def IsFinal {α : Type} : Except BackendError α → Prop
  | .ok _ => True
  | .error e => e.isTransient = false

theorem isFinal_iff {α : Type} {r : Except BackendError α} :
    IsFinal r ↔ (∃ v, r = .ok v) ∨ ∃ e, r = .error e ∧ e.isTransient = false := by
  cases r <;> simp [IsFinal]

/-- What is not final is a failure that may pass. -/
theorem exists_of_not_isFinal {α : Type} {r : Except BackendError α} (h : ¬IsFinal r) :
    ∃ e, r = .error e ∧ e.isTransient = true := by
  cases r with
  | ok v => exact absurd True.intro h
  | error e => exact ⟨e, rfl, Bool.not_eq_false _ |>.mp h⟩

/-! ## Where something ends -/

/-- The places, counted from one, at which something may end. -/
def endings (p : ℕ → Prop) : Set ℕ := {k | 1 ≤ k ∧ p k}

section

variable {p : ℕ → Prop} {k : ℕ}

/-- What may end at once does. -/
theorem isLeast_endings_one (h : p 1) : IsLeast (endings p) 1 :=
  ⟨⟨Nat.le_refl 1, h⟩, fun _ hk => hk.1⟩

/-- What may not end at once ends where the rest of it does. -/
theorem isLeast_endings_succ (hfirst : ¬p 1) (h : IsLeast (endings fun i => p (i + 1)) k) :
    IsLeast (endings p) (k + 1) := by
  refine ⟨⟨Nat.succ_pos k, h.1.2⟩, ?_⟩
  rintro (_ | j) ⟨hj, hp⟩
  · omega
  · have hj : j ≠ 0 := fun hzero => hfirst (by rwa [hzero] at hp)
    exact Nat.succ_le_succ (h.2 ⟨Nat.one_le_iff_ne_zero.mpr hj, hp⟩)

end

/-! ## Conversations of a repeated call -/

/-- So many calls with their outcomes, and a pause between any two that follow each other. -/
def repetition (delay : Duration) (c : Execution.Call) (outcome : ℕ → c.Answer) (k : ℕ) :
    List (Program.Exchange activity) :=
  ((List.range k).map fun i => ⟨.backend c, outcome (i + 1)⟩).intersperse ⟨.sleep delay, ()⟩

section

variable {delay : Duration} {c : Execution.Call} {outcome : ℕ → c.Answer}
  {t : List (Program.Exchange activity)} {a : c.Answer}

theorem repetition_one : repetition delay c outcome 1 = [⟨.backend c, outcome 1⟩] := rfl

/-- The first call, a pause and the other calls. -/
theorem repetition_succ {k : ℕ} (hk : 1 ≤ k) : repetition delay c outcome (k + 1) =
    ⟨.backend c, outcome 1⟩ :: ⟨.sleep delay, ()⟩ ::
      repetition delay c (fun i => outcome (i + 1)) k := by
  obtain ⟨k, rfl⟩ := Nat.exists_eq_add_of_le' hk
  rw [repetition, repetition, List.range_succ_eq_map, List.map_cons, List.map_map,
    List.range_succ_eq_map, List.map_cons, List.map_cons]
  rfl

/-- A call that is not made again is the whole conversation. -/
theorem trace_backend_iff : (Task.backend c).Trace t a ↔ t = [⟨.backend c, a⟩] := by
  constructor
  · intro h
    obtain ⟨r, rest, rfl, hrest⟩ := Program.trace_ask_iff.mp h
    obtain ⟨rfl, rfl⟩ := Program.trace_done_iff.mp hrest
    rfl
  · rintro rfl
    exact .ask (.done a)

/-- A call that may be made again is the whole conversation if its outcome is final; otherwise there
are a pause and the same call, which may be made once less. -/
theorem trace_attempt_succ_iff {more : ℕ} : (attempt delay c (more + 1)).Trace t a ↔
    (IsFinal a ∧ t = [⟨.backend c, a⟩]) ∨
    ∃ e rest, e.isTransient = true ∧
      t = ⟨.backend c, .error e⟩ :: ⟨.sleep delay, ()⟩ :: rest ∧
      (attempt delay c more).Trace rest a := by
  constructor
  · intro h
    obtain ⟨r, v, rfl, hv⟩ := Program.trace_ask_iff.mp h
    cases r with
    | ok result =>
      obtain ⟨rfl, rfl⟩ := Program.trace_done_iff.mp hv
      exact .inl ⟨True.intro, rfl⟩
    | error e =>
      by_cases he : e.isTransient = true
      · simp only [Program.bind_done, if_pos he] at hv
        obtain ⟨_, rest, rfl, hrest⟩ := Program.trace_ask_iff.mp hv
        exact .inr ⟨e, rest, he, rfl, hrest⟩
      · simp only [Program.bind_done, if_neg he] at hv
        obtain ⟨rfl, rfl⟩ := Program.trace_done_iff.mp hv
        exact .inl ⟨Bool.eq_false_iff.mpr he, rfl⟩
  · rintro (⟨hfinal, rfl⟩ | ⟨e, rest, he, rfl, hrest⟩)
    · refine .ask ?_
      cases a with
      | ok result => exact .done _
      | error e =>
        simp only [Program.bind_done, if_neg (Bool.eq_false_iff.mp hfinal)]
        exact .done _
    · refine .ask ?_
      simp only [Program.bind_done, if_pos he]
      exact .ask hrest

/-- A single call that is answered out of a store has the first of its answers. -/
theorem conversation_once (delay : Duration) {inner : ℕ → (c : Execution.Call) → c.Answer} :
    t = [⟨.backend c, a⟩] ∧ AnsweredInOrder inner t ↔
      t = repetition delay c (fun i => inner i c) 1 ∧ a = inner 1 c := by
  rw [repetition_one]
  constructor
  · rintro ⟨rfl, hanswers⟩
    obtain ⟨rfl, -⟩ := answeredInOrder_cons_backend.mp hanswers
    exact ⟨rfl, rfl⟩
  · rintro ⟨rfl, rfl⟩
    exact ⟨rfl, answeredInOrder_cons_backend.mpr ⟨rfl, answeredInOrder_nil⟩⟩

/-- **A repeated call is made until the least of its final outcomes, with pauses between.**  There
is one conversation for each store of answers. -/
theorem conversations_of_attempt (delay : Duration) (c : Execution.Call) (more : ℕ)
    (inner : ℕ → (c : Execution.Call) → c.Answer) :
    ∃ k, IsLeast (endings fun i => IsFinal (inner i c) ∨ i = more + 1) k ∧ ∀ t a,
      (attempt delay c more).Trace t a ∧ AnsweredInOrder inner t ↔
        t = repetition delay c (fun i => inner i c) k ∧ a = inner k c := by
  induction more generalizing inner with
  | zero =>
    refine ⟨1, isLeast_endings_one (.inr rfl), fun t a => ?_⟩
    rw [attempt, trace_backend_iff, conversation_once delay]
  | succ more ih =>
    by_cases hfinal : IsFinal (inner 1 c)
    · refine ⟨1, isLeast_endings_one (.inl hfinal), fun t a => ?_⟩
      rw [← conversation_once delay, trace_attempt_succ_iff]
      constructor
      · rintro ⟨⟨-, rfl⟩ | ⟨e, rest, he, rfl, -⟩, hanswers⟩
        · exact ⟨rfl, hanswers⟩
        · rw [← (answeredInOrder_cons_backend.mp hanswers).1] at hfinal
          exact absurd he (Bool.eq_false_iff.mp hfinal)
      · rintro ⟨rfl, hanswers⟩
        rw [← (answeredInOrder_cons_backend.mp hanswers).1] at hfinal
        exact ⟨.inl ⟨hfinal, rfl⟩, hanswers⟩
    · obtain ⟨e, hfirst, he⟩ := exists_of_not_isFinal hfinal
      -- the other calls are those of the same call with the other answers
      obtain ⟨k, hk, hrest⟩ := ih fun i => inner (i + 1)
      have hnot : ¬(IsFinal (inner 1 c) ∨ 1 = more + 1 + 1) := by
        rintro (h | h)
        · exact hfinal h
        · omega
      refine ⟨k + 1, isLeast_endings_succ hnot (by simpa only [Nat.add_right_cancel_iff] using hk),
        fun t a => ?_⟩
      rw [repetition_succ hk.1.1, trace_attempt_succ_iff]
      constructor
      · rintro ⟨⟨hfinal', rfl⟩ | ⟨e', rest, -, rfl, htrace⟩, hanswers⟩
        · rw [(answeredInOrder_cons_backend.mp hanswers).1] at hfinal'
          exact absurd hfinal' hfinal
        · obtain ⟨hanswer, hothers⟩ := answeredInOrder_cons_backend.mp hanswers
          rw [answeredInOrder_cons_of_spares (q := .sleep delay) True.intro] at hothers
          obtain ⟨rfl, rfl⟩ := (hrest rest a).mp ⟨htrace, hothers⟩
          exact ⟨by rw [hanswer], rfl⟩
      · rintro ⟨rfl, rfl⟩
        obtain ⟨htrace, hothers⟩ := (hrest _ _).mpr ⟨rfl, rfl⟩
        refine ⟨.inr ⟨e, _, he, by rw [hfirst], htrace⟩, answeredInOrder_cons_backend.mpr ⟨rfl, ?_⟩⟩
        rwa [answeredInOrder_cons_of_spares (q := .sleep delay) True.intro]

end

/-! ## Policies -/

/-- **Retries are bounded.**  However many attempts are allowed, and whatever the backend has in
store for a call: the call is made `k` times, unchanged, with a pause before each but the first,
where `k` is the first place with a success, with a failure that does not pass, or at which the
attempts are used up, none counting as one; and what comes of it is the last outcome.  So a success
is the last outcome that was asked for.  Only pulling an image, creating a unit and starting it are
repeated; any other call is made once. -/
theorem retries_bounded (p : RetryPolicy) (inner : ℕ → (c : Execution.Call) → c.Answer) :
    (∀ c, RetryPolicy.repeats c = true ↔ (∃ image, c = .pullImage image) ∨
      (∃ ctx image command, c = .createUnit ctx image command) ∨ ∃ id, c = .startUnit id) ∧
    (∀ c, RetryPolicy.repeats c = true → ∃ k,
      IsLeast {k | 1 ≤ k ∧ ((∃ v, inner k c = .ok v) ∨
        (∃ e, inner k c = .error e ∧ e.isTransient = false) ∨ k = max p.attempts 1)} k ∧
      (∀ t a, (p.backend c).Trace t a ∧ AnsweredInOrder inner t ↔
        t = ((List.range k).map fun i => ⟨.backend c, inner (i + 1) c⟩).intersperse
          ⟨.sleep p.delay, ()⟩ ∧ a = inner k c) ∧
      ∀ i v, 1 ≤ i → i ≤ k → inner i c = .ok v → i = k) ∧
    (∀ c, RetryPolicy.repeats c = false → ∀ t a,
      (p.backend c).Trace t a ∧ AnsweredInOrder inner t ↔
        t = [⟨.backend c, inner 1 c⟩] ∧ a = inner 1 c) := by
  refine ⟨?which, ?repeated, ?once⟩
  case which =>
    intro c
    cases c <;> simp [RetryPolicy.repeats]
  case repeated =>
    intro c hc
    have hmost : max p.attempts 1 = p.attempts - 1 + 1 := by omega
    have hset : {k | 1 ≤ k ∧ ((∃ v, inner k c = .ok v) ∨
        (∃ e, inner k c = .error e ∧ e.isTransient = false) ∨ k = max p.attempts 1)} =
        endings fun i => IsFinal (inner i c) ∨ i = p.attempts - 1 + 1 := by
      simp only [endings, isFinal_iff, or_assoc, hmost]
    obtain ⟨k, hk, hconversations⟩ := conversations_of_attempt p.delay c (p.attempts - 1) inner
    refine ⟨k, hset ▸ hk, fun t a => ?_, fun i v hi hik hv => ?_⟩
    · rw [RetryPolicy.backend, if_pos hc]
      exact hconversations t a
    · exact Nat.le_antisymm hik (hk.2 ⟨hi, .inl (isFinal_iff.mpr (.inl ⟨v, hv⟩))⟩)
  case once =>
    intro c hc t a
    rw [RetryPolicy.backend, if_neg (Bool.eq_false_iff.mp hc), attempt, trace_backend_iff]
    exact conversation_once p.delay

/-- A backend that loses its connection, and creates a unit if it is asked again. -/
def lostOnce : ℕ → (c : Execution.Call) → c.Answer
  | 2, .createUnit _ _ _ => .ok "unit-0"
  | _, _ => .error (.request .connection)

/-- With three attempts, the second is the last one; and a backend that does not answer is not asked
twice whether it is there. -/
theorem retries_bounded_sample :
    RetryPolicy.repeats (.createUnit ⟨default, "u"⟩ "i" "c") = true ∧
    (RetryPolicy.backend ⟨3, .ofSeconds 1⟩ (.createUnit ⟨default, "u"⟩ "i" "c")).Trace
      [⟨.backend (.createUnit ⟨default, "u"⟩ "i" "c"), .error (.request .connection)⟩,
        ⟨.sleep (.ofSeconds 1), ()⟩, ⟨.backend (.createUnit ⟨default, "u"⟩ "i" "c"), .ok "unit-0"⟩]
      (.ok "unit-0") ∧
    RetryPolicy.repeats .ping = false ∧
    (RetryPolicy.backend ⟨3, .ofSeconds 1⟩ .ping).Trace
      [⟨.backend .ping, .error (.request .connection)⟩] (.error (.request .connection)) := by
  obtain ⟨-, hrepeated, honce⟩ := retries_bounded ⟨3, .ofSeconds 1⟩ lostOnce
  refine ⟨rfl, ?_, rfl, ((honce .ping rfl _ _).mpr ⟨rfl, rfl⟩).1⟩
  obtain ⟨k, hk, hconversations, -⟩ := hrepeated (.createUnit ⟨default, "u"⟩ "i" "c") rfl
  have hle : k ≤ 2 := hk.2 ⟨by decide, .inl ⟨_, rfl⟩⟩
  have hne : k ≠ 1 := by
    rintro rfl
    obtain ⟨_, ⟨v, hv⟩ | ⟨e, he, hpermanent⟩ | hlast⟩ := hk.1
    · exact nomatch hv
    · cases he
      exact absurd hpermanent (by decide)
    · exact absurd hlast (by decide)
  obtain rfl : k = 2 := by
    have := hk.1.1
    omega
  exact ((hconversations _ _).mpr ⟨rfl, rfl⟩).1

end Service

/-! ## Tasks under a policy -/

namespace Program

variable {I J : Interface} {α β : Type}

/-- What is put in for the questions of two programs, one after the other. -/
theorem refine_bind (f : (c : J.Call) → Program I (J.Answer c)) (m : Program J α)
    (g : α → Program J β) : (m.bind g).refine f = (m.refine f).bind fun a => (g a).refine f := by
  induction m with
  | done a => rfl
  | ask c next ih =>
    rw [bind_ask, refine, refine, bind_assoc]
    exact congrArg _ (funext ih)

/-- Where questions stand for themselves, nothing changes. -/
theorem refine_eq_self {f : (c : I.Call) → Program I (I.Answer c)} {m : Program I α}
    (h : m.OnlyAsks fun c => f c = call c) : m.refine f = m := by
  induction m with
  | done a => rfl
  | ask c next ih =>
    rw [refine, h.1]
    exact congrArg (ask c) (funext fun r => ih r (h.2 r))

end Program

namespace Service
namespace RetryPolicy

variable {α β : Type} {p : RetryPolicy}

theorem apply_bind (m : Task α) (f : α → Task β) :
    p.apply (m.bind f) = (p.apply m).bind fun a => p.apply (f a) :=
  Program.refine_bind _ m f

/-- The questions that a policy leaves as they are. -/
def Leaves (p : RetryPolicy) : Call → Prop
  | .backend c => repeats c = false ∨ p.attempts ≤ 1
  | _ => True

/-- **A policy does nothing to a task that asks for nothing to be repeated.** -/
theorem apply_eq_self {m : Task α} (h : m.OnlyAsks p.Leaves) : p.apply m = m := by
  refine Program.refine_eq_self (h.imp fun c hc => ?_)
  cases c with
  | backend c =>
    have hmore : (if repeats c = true then p.attempts - 1 else 0) = 0 := by
      rcases hc with hc | hc
      · rw [hc, if_neg Bool.false_ne_true]
      · rw [Nat.sub_eq_zero_of_le hc, ite_self]
    change p.backend c = Task.backend c
    rw [RetryPolicy.backend, hmore, attempt]
  | _ => rfl

/-- A policy that allows no further attempts does nothing at all. -/
theorem apply_of_attempts_le_one (hp : p.attempts ≤ 1) (m : Task α) : p.apply m = m := by
  refine apply_eq_self ?_
  induction m with
  | done a => exact True.intro
  | ask c next ih =>
    refine ⟨?_, ih⟩
    cases c with
    | backend c => exact .inr hp
    | _ => exact True.intro

end RetryPolicy

/-- Whoever repeats a call asks for nothing else, but for pauses. -/
theorem attempt_onlyAsks (delay : Duration) (c : Execution.Call) (more : ℕ) :
    (attempt delay c more).OnlyAsks fun q : Call => q = .backend c ∨ q = .sleep delay := by
  induction more with
  | zero => exact ⟨.inl rfl, fun _ => True.intro⟩
  | succ more ih =>
    refine ⟨.inl rfl, fun r => ?_⟩
    cases r with
    | ok v => exact True.intro
    | error e =>
      simp only [Program.bind_done]
      split
      · exact ⟨.inr rfl, fun _ => ih⟩
      · exact True.intro

end Service
end ScanService
