import Mathlib.Algebra.Order.Floor.Div
import ScanService.Proofs.Jobs.Retries
import ScanService.Service.Config

/-!
# Waiting for images

A run that does not find its image asks for a pull, and looks for the image in rounds until it is
there or a deadline has come.  Where time passes by sleeping only, the rounds can be counted: each
of them takes the poll interval, so they end with the first that finds the image, and at the latest
with the first that reaches the ceiling.  The deadline counts from the end of the pull, however
often that was tried.

## What is here

* `elapsed`, `TellsTime` — how long a conversation takes, and a timer that tells it.
* `LooksAnswered` — what looking for images comes to, look by look.
* `pollRounds` — so many rounds of looking.
* `conversations_of_pollImage` — the rounds until the deadline, by induction on those allowed.
* `image_wait_ends` — **the wait for an image ends with the first round that finds it, or with the
  first at the ceiling, and then a unit is created.**
-/

namespace ScanService
namespace Service

open Execution (UnitContext)

/-! ## Time -/

/-- How long a question takes where time passes by sleeping only. -/
def Call.lasts : Call → ℕ
  | .sleep d => d.nanos
  | _ => 0

/-- How long a conversation takes, in nanoseconds. -/
def elapsed (t : List (Program.Exchange activity)) : ℕ := (t.map fun x => Call.lasts x.1).sum

/-- From a moment on, the timer tells how much time has passed. -/
def TellsTime : ℕ → List (Program.Exchange activity) → Prop
  | _, [] => True
  | now, ⟨.readTimer, told⟩ :: rest => told = ⟨now⟩ ∧ TellsTime now rest
  | now, ⟨c, _⟩ :: rest => TellsTime (now + Call.lasts c) rest

/-- The looks for images in a conversation are answered in order, the first by the first answer. -/
def LooksAnswered : (ℕ → Except BackendError Bool) → List (Program.Exchange activity) → Prop
  | _, [] => True
  | checks, ⟨.backend (.imageIsLoaded _), answer⟩ :: rest =>
    answer = checks 0 ∧ LooksAnswered (fun i => checks (i + 1)) rest
  | checks, _ :: rest => LooksAnswered checks rest

/-- A conversation that a task can have, from a moment on. -/
structure TimedTrace (m : Task Unit) (now : ℕ) (checks : ℕ → Except BackendError Bool)
    (t : List (Program.Exchange activity)) : Prop where
  /-- The task can have it, from its beginning to its end. -/
  trace : m.Trace t ()
  /-- The timer tells the time. -/
  time : TellsTime now t
  /-- The looks are answered in order. -/
  looks : LooksAnswered checks t

/-- Questions that ask neither for the time nor for images. -/
def Call.sparesWaits : Call → Prop
  | .readTimer | .backend (.imageIsLoaded _) => False
  | _ => True

section

variable {now : ℕ} {checks : ℕ → Except BackendError Bool}
  {u t : List (Program.Exchange activity)}

@[simp] theorem elapsed_cons (c : Call) (r : c.Answer) :
    elapsed (⟨c, r⟩ :: t) = Call.lasts c + elapsed t := rfl

theorem elapsed_append : elapsed (u ++ t) = elapsed u + elapsed t := by
  rw [elapsed, List.map_append, List.sum_append, elapsed, elapsed]

theorem tellsTime_cons_of_spares {c : Call} {r : c.Answer} (hc : c.sparesWaits) :
    TellsTime now (⟨c, r⟩ :: t) ↔ TellsTime (now + Call.lasts c) t := by
  cases c with
  | readTimer => exact hc.elim
  | _ => exact Iff.rfl

theorem looksAnswered_cons_of_spares {c : Call} {r : c.Answer} (hc : c.sparesWaits) :
    LooksAnswered checks (⟨c, r⟩ :: t) ↔ LooksAnswered checks t := by
  rcases c with _ | (_ | _ | _ | _ | _ | _ | _) | _ | _ | _ | _ | _ | _ | _
  case backend.imageIsLoaded => exact hc.elim
  all_goals exact Iff.rfl

/-- Before a conversation, others may be had that take their time. -/
theorem tellsTime_append (now : ℕ) (hu : ∀ x ∈ u, Call.sparesWaits x.1) :
    TellsTime now (u ++ t) ↔ TellsTime (now + elapsed u) t := by
  induction u generalizing now with
  | nil => exact Iff.rfl
  | cons x u ih =>
    rw [List.forall_mem_cons] at hu
    rw [List.cons_append, tellsTime_cons_of_spares hu.1, ih _ hu.2, elapsed_cons, Nat.add_assoc]

theorem looksAnswered_append (hu : ∀ x ∈ u, Call.sparesWaits x.1) :
    LooksAnswered checks (u ++ t) ↔ LooksAnswered checks t := by
  induction u with
  | nil => exact Iff.rfl
  | cons x u ih =>
    rw [List.forall_mem_cons] at hu
    rw [List.cons_append, looksAnswered_cons_of_spares hu.1, ih hu.2]

end

/-! ## Rounds -/

section

variable {image : String} {interval deadline : Duration} {now : ℕ}
  {checks : ℕ → Except BackendError Bool} {t : List (Program.Exchange activity)}

/-- A look and what follows it, told by whether the image was found. -/
theorem trace_imageIsThere_bind_iff {f : Bool → Task Unit} :
    ((imageIsThere image).bind f).Trace t () ↔ ∃ (answer : Except BackendError Bool) (rest : _),
      t = ⟨.backend (.imageIsLoaded image), answer⟩ :: rest ∧
        (f (decide (answer = .ok true))).Trace rest () := by
  have hbind : (imageIsThere image).bind f = .ask (I := activity) (.backend (.imageIsLoaded image))
      fun answer => f (decide (answer = .ok true)) := by
    refine congrArg (Program.ask (I := activity) (.backend (.imageIsLoaded image)))
      (funext fun answer => ?_)
    rcases answer with e | (_ | _) <;> rfl
  rw [hbind]
  exact Program.trace_ask_iff

/-- One round of looking: a pause, a look, and unless that finds the image a glance at the timer. -/
def pollRound (interval : Duration) (image : String) (answer : Except BackendError Bool)
    (now : ℕ) : List (Program.Exchange activity) :=
  ⟨.sleep interval, ()⟩ :: ⟨.backend (.imageIsLoaded image), answer⟩ ::
    if answer = .ok true then [] else [⟨.readTimer, ⟨now⟩⟩]

/-- So many rounds, beginning at a moment. -/
def pollRounds (interval : Duration) (image : String) (now : ℕ)
    (checks : ℕ → Except BackendError Bool) (m : ℕ) : List (Program.Exchange activity) :=
  (List.range m).flatMap fun i =>
    pollRound interval image (checks (i + 1)) (now + (i + 1) * interval.nanos)

theorem pollRounds_one : pollRounds interval image now checks 1 =
    pollRound interval image (checks 1) (now + interval.nanos) := by
  simp [pollRounds]

/-- The first round, and the others from its end on. -/
theorem pollRounds_succ (m : ℕ) : pollRounds interval image now checks (m + 1) =
    pollRound interval image (checks 1) (now + interval.nanos) ++
      pollRounds interval image (now + interval.nanos) (fun i => checks (i + 1)) m := by
  rw [pollRounds, List.range_succ_eq_map, List.flatMap_cons, List.flatMap_map, pollRounds,
    Nat.zero_add, Nat.one_mul]
  refine congrArg _ (congrArg (List.flatMap · _) (funext fun i => congrArg _ ?_))
  rw [Nat.succ_eq_add_one, Nat.succ_mul (i + 1), Nat.add_assoc, Nat.add_comm interval.nanos]

theorem elapsed_pollRound (answer : Except BackendError Bool) :
    elapsed (pollRound interval image answer now) = interval.nanos := by
  rw [pollRound]
  split <;> rfl

/-- Rounds take the poll interval each. -/
theorem elapsed_pollRounds (m : ℕ) :
    elapsed (pollRounds interval image now checks m) = m * interval.nanos := by
  induction m generalizing now checks with
  | zero => rw [Nat.zero_mul]; rfl
  | succ m ih =>
    rw [pollRounds_succ, elapsed_append, elapsed_pollRound, ih, Nat.succ_mul, Nat.add_comm]

/-- There is nothing to say where a task stops, and otherwise it goes on. -/
theorem trace_ite_iff {c : Prop} [Decidable c] {m : Task Unit} :
    (if c then .done () else m : Task Unit).Trace t () ↔ if c then t = [] else m.Trace t () := by
  split
  · simp [Program.trace_done_iff]
  · exact Iff.rfl

/-- A round in which the image is found is the last one, and so is one that reaches the deadline. -/
theorem trace_pollImage_succ_iff {rounds : ℕ} :
    (pollImage interval deadline image (rounds + 1)).Trace t () ↔
      ∃ (answer : Except BackendError Bool) (rest : _),
        t = ⟨.sleep interval, ()⟩ :: ⟨.backend (.imageIsLoaded image), answer⟩ :: rest ∧
        if answer = .ok true then rest = [] else ∃ told rest', rest = ⟨.readTimer, told⟩ :: rest' ∧
          if deadline ≤ told then rest' = []
          else (pollImage interval deadline image rounds).Trace rest' () := by
  have hround : pollImage interval deadline image (rounds + 1) =
      .ask (I := activity) (.sleep interval) fun _ => (imageIsThere image).bind fun there =>
        if there = true then .done () else .ask (I := activity) .readTimer fun told =>
          if deadline ≤ told then .done () else pollImage interval deadline image rounds := rfl
  simp only [hround, Program.trace_ask_iff, trace_imageIsThere_bind_iff, trace_ite_iff,
    decide_eq_true_eq]
  constructor
  · rintro ⟨_, _, rfl, answer, rest, rfl, h⟩
    exact ⟨answer, rest, rfl, h⟩
  · rintro ⟨answer, rest, rfl, h⟩
    exact ⟨(), _, rfl, answer, rest, rfl, h⟩

/-- A round with its place in time and the answer it gets: unless it is the last one, the others
begin where it ends. -/
theorem timedTrace_pollImage_succ_iff {rounds : ℕ} :
    TimedTrace (pollImage interval deadline image (rounds + 1)) now (fun i => checks (i + 1)) t ↔
      ∃ rest, t = pollRound interval image (checks 1) (now + interval.nanos) ++ rest ∧
        if checks 1 = .ok true ∨ deadline.nanos ≤ now + interval.nanos then rest = []
        else TimedTrace (pollImage interval deadline image rounds) (now + interval.nanos)
          (fun i => checks (i + 2)) rest := by
  constructor
  · rintro ⟨htrace, htime, hlooks⟩
    obtain ⟨answer, rest, rfl, hrest⟩ := trace_pollImage_succ_iff.mp htrace
    obtain ⟨rfl, hlooks⟩ : answer = checks 1 ∧
      LooksAnswered (fun i => checks (i + 2)) rest := hlooks
    by_cases hfound : checks 1 = .ok true
    · rw [if_pos hfound] at hrest
      subst hrest
      exact ⟨[], by rw [pollRound, if_pos hfound, List.append_nil], by rw [if_pos (.inl hfound)]⟩
    · rw [if_neg hfound] at hrest
      obtain ⟨told, rest, rfl, hrest⟩ := hrest
      obtain ⟨rfl, htime⟩ : told = ⟨now + interval.nanos⟩ ∧
        TellsTime (now + interval.nanos) rest := htime
      refine ⟨rest, by rw [pollRound, if_neg hfound]; rfl, ?_⟩
      by_cases hend : deadline.nanos ≤ now + interval.nanos
      · rw [if_pos (.inr hend)]
        rwa [if_pos (Duration.le_iff.mpr hend)] at hrest
      · rw [if_neg (not_or.mpr ⟨hfound, hend⟩)]
        rw [if_neg (mt Duration.le_iff.mp hend)] at hrest
        exact ⟨hrest, htime, hlooks⟩
  · rintro ⟨rest, rfl, hrest⟩
    by_cases hfound : checks 1 = .ok true
    · rw [if_pos (.inl hfound)] at hrest
      rw [hrest, List.append_nil, pollRound, if_pos hfound]
      exact ⟨trace_pollImage_succ_iff.mpr ⟨_, _, rfl, if_pos hfound ▸ rfl⟩, True.intro, rfl,
        True.intro⟩
    · rw [pollRound, if_neg hfound]
      by_cases hend : deadline.nanos ≤ now + interval.nanos
      · rw [if_pos (.inr hend)] at hrest
        rw [hrest]
        refine ⟨trace_pollImage_succ_iff.mpr ⟨_, _, rfl, ?_⟩, ⟨rfl, True.intro⟩, rfl, True.intro⟩
        rw [if_neg hfound]
        exact ⟨_, [], rfl, if_pos (Duration.le_iff.mpr hend) ▸ rfl⟩
      · rw [if_neg (not_or.mpr ⟨hfound, hend⟩)] at hrest
        refine ⟨trace_pollImage_succ_iff.mpr ⟨_, _, rfl, ?_⟩, ⟨rfl, hrest.time⟩, rfl, hrest.looks⟩
        rw [if_neg hfound]
        refine ⟨_, _, rfl, ?_⟩
        rw [if_neg (mt Duration.le_iff.mp hend)]
        exact hrest.trace

/-- **The rounds end with the first that finds the image or reaches the deadline**, if enough rounds
are allowed to reach it. -/
theorem conversations_of_pollImage (image : String) (checks : ℕ → Except BackendError Bool)
    {rounds : ℕ} (hdeadline : deadline.nanos ≤ now + (rounds + 1) * interval.nanos) : ∃ m,
      IsLeast (endings fun i =>
        checks i = .ok true ∨ deadline.nanos ≤ now + i * interval.nanos) m ∧
      ∀ t, TimedTrace (pollImage interval deadline image (rounds + 1)) now
        (fun i => checks (i + 1)) t ↔ t = pollRounds interval image now checks m := by
  have hlast (rounds now checks) (h : checks 1 = .ok true ∨ deadline.nanos ≤ now + interval.nanos)
      (t : List (Program.Exchange activity)) :
      TimedTrace (pollImage interval deadline image (rounds + 1)) now (fun i => checks (i + 1)) t ↔
        t = pollRounds interval image now checks 1 := by
    simp only [timedTrace_pollImage_succ_iff, if_pos h, pollRounds_one, exists_eq_right,
      List.append_nil]
  induction rounds generalizing now checks with
  | zero =>
    rw [Nat.zero_add] at hdeadline
    have hend : deadline.nanos ≤ now + interval.nanos := by rwa [Nat.one_mul] at hdeadline
    exact ⟨1, isLeast_endings_one (.inr hdeadline), hlast 0 now checks (.inr hend)⟩
  | succ rounds ih =>
    by_cases hend : checks 1 = .ok true ∨ deadline.nanos ≤ now + 1 * interval.nanos
    · refine ⟨1, isLeast_endings_one hend, hlast _ now checks ?_⟩
      rwa [Nat.one_mul] at hend
    · obtain ⟨m, hm, hrest⟩ := @ih (now + interval.nanos) (fun i => checks (i + 1))
        (by rwa [Nat.add_assoc, Nat.add_comm interval.nanos, ← Nat.succ_mul])
      refine ⟨m + 1, isLeast_endings_succ hend ?_, fun t => ?_⟩
      · simpa only [Nat.add_assoc, Nat.add_comm interval.nanos, ← Nat.succ_mul] using hm
      · rw [Nat.one_mul] at hend
        simp only [timedTrace_pollImage_succ_iff, if_neg hend, hrest, exists_eq_right,
          pollRounds_succ]

end

/-! ## The wait -/

section

variable {p : RetryPolicy} {s : RunnerSettings} {image : String}

theorem leaves_imageIsThere : (imageIsThere image).OnlyAsks p.Leaves :=
  ⟨.inl rfl, fun answer => by cases answer <;> exact True.intro⟩

theorem leaves_pollImage (interval deadline : Duration) (rounds : ℕ) :
    (pollImage interval deadline image rounds).OnlyAsks p.Leaves := by
  induction rounds with
  | zero => exact True.intro
  | succ rounds ih =>
    refine ⟨True.intro, fun _ => Program.onlyAsks_bind (m := imageIsThere image)
      leaves_imageIsThere fun there => ?_⟩
    cases there with
    | true => exact True.intro
    | false =>
      refine ⟨True.intro, fun told => ?_⟩
      simp only [Program.bind_done]
      split
      · exact True.intro
      · exact ih

/-- Under a policy, only the pull is repeated. -/
theorem apply_ensureImage : p.apply (ensureImage s image) =
    (imageIsThere image).bind fun there => if there = true then .done () else
      (p.backend (.pullImage image)).bind fun _ => .ask (I := activity) .readTimer fun now =>
        pollImage s.pollInterval (now + s.pullCeiling) image (s.pullCeiling.nanos + 1) := by
  have hensure : ensureImage s image =
      (imageIsThere image).bind fun there => if there = true then .done () else
        (Task.backend (.pullImage image)).bind fun _ => .ask (I := activity) .readTimer fun now =>
          pollImage s.pollInterval (now + s.pullCeiling) image (s.pullCeiling.nanos + 1) := rfl
  rw [hensure, RetryPolicy.apply_bind, RetryPolicy.apply_eq_self leaves_imageIsThere]
  refine congrArg _ (funext fun there => ?_)
  cases there with
  | true => rfl
  | false =>
    have hpull : p.apply (Task.backend (.pullImage image)) = p.backend (.pullImage image) :=
      Program.bind_done_right _
    rw [if_neg Bool.false_ne_true, if_neg Bool.false_ne_true, RetryPolicy.apply_bind, hpull]
    refine congrArg _ (funext fun _ => RetryPolicy.apply_eq_self ⟨True.intro, fun now => ?_⟩)
    exact leaves_pollImage _ _ _

/-- Pulling an image asks neither for the time nor for images. -/
theorem sparesWaits_of_pull {pulled : List (Program.Exchange activity)}
    {answer : Except BackendError Unit} (h : (p.backend (.pullImage image)).Trace pulled answer) :
    ∀ x ∈ pulled, Call.sparesWaits x.1 := by
  refine Program.OnlyAsks.of_trace ((attempt_onlyAsks _ _ _).imp ?_) h
  rintro q (rfl | rfl) <;> exact True.intro

variable {start : ℕ} {checks : ℕ → Except BackendError Bool}
  {t : List (Program.Exchange activity)}

/-- **If the image is there, nothing else is asked.** -/
theorem timedTrace_ensureImage_of_found (h : checks 0 = .ok true) :
    TimedTrace (p.apply (ensureImage s image)) start checks t ↔
      t = [⟨.backend (.imageIsLoaded image), checks 0⟩] := by
  rw [apply_ensureImage]
  constructor
  · rintro ⟨htrace, -, hlooks⟩
    obtain ⟨answer, rest, rfl, hrest⟩ := trace_imageIsThere_bind_iff.mp htrace
    obtain ⟨rfl, -⟩ : answer = checks 0 ∧ LooksAnswered (fun i => checks (i + 1)) rest := hlooks
    simp only [h, decide_true, if_true] at hrest
    rw [(Program.trace_done_iff.mp hrest).1]
  · rintro rfl
    refine ⟨trace_imageIsThere_bind_iff.mpr ⟨_, [], rfl, ?_⟩, True.intro, rfl, True.intro⟩
    simp only [h, decide_true, if_true]
    exact .done ()

/-- Otherwise it is pulled, and then looked for from the time at which the pull has ended. -/
theorem timedTrace_ensureImage_of_missing (h : checks 0 ≠ .ok true) :
    TimedTrace (p.apply (ensureImage s image)) start checks t ↔ ∃ pulled answer polls,
      (p.backend (.pullImage image)).Trace pulled answer ∧
      t = ⟨.backend (.imageIsLoaded image), checks 0⟩ ::
        (pulled ++ ⟨.readTimer, ⟨start + elapsed pulled⟩⟩ :: polls) ∧
      TimedTrace (pollImage s.pollInterval (⟨start + elapsed pulled⟩ + s.pullCeiling) image
        (s.pullCeiling.nanos + 1)) (start + elapsed pulled) (fun i => checks (i + 1)) polls := by
  rw [apply_ensureImage]
  constructor
  · rintro ⟨htrace, htime, hlooks⟩
    obtain ⟨answer, rest, rfl, hrest⟩ := trace_imageIsThere_bind_iff.mp htrace
    obtain ⟨rfl, hlooks⟩ : answer = checks 0 ∧
      LooksAnswered (fun i => checks (i + 1)) rest := hlooks
    simp only [h, decide_false, Bool.false_eq_true, if_false] at hrest
    obtain ⟨pulled, v, answer, rfl, hpulled, hv⟩ := Program.trace_bind.mp hrest
    obtain ⟨told, polls, rfl, hpolls⟩ := Program.trace_ask_iff.mp hv
    have hspares := sparesWaits_of_pull hpulled
    obtain ⟨rfl, hlater⟩ := (tellsTime_append start hspares).mp htime
    have hlooks : LooksAnswered _ (⟨.readTimer, _⟩ :: polls) :=
      (looksAnswered_append hspares).mp hlooks
    exact ⟨pulled, answer, polls, hpulled, rfl, hpolls, hlater, hlooks⟩
  · rintro ⟨pulled, answer, polls, hpulled, rfl, htrace, htime, hlooks⟩
    have hspares := sparesWaits_of_pull hpulled
    refine ⟨trace_imageIsThere_bind_iff.mpr ⟨_, _, rfl, ?_⟩, ?_, rfl, ?_⟩
    · simp only [h, decide_false, Bool.false_eq_true, if_false]
      exact Program.trace_bind.mpr ⟨pulled, _, answer, rfl, hpulled, .ask htrace⟩
    · exact (tellsTime_append start hspares).mpr ⟨rfl, htime⟩
    · exact (looksAnswered_append hspares).mpr hlooks

/-- The deadline is reached by as many rounds as the ceiling takes. -/
theorem deadline_le_iff (hinterval : 0 < s.pollInterval.nanos) (now i : ℕ) :
    ((⟨now⟩ : Duration) + s.pullCeiling).nanos ≤ now + i * s.pollInterval.nanos ↔
      s.pullCeiling.nanos ⌈/⌉ s.pollInterval.nanos ≤ i := by
  rw [ceilDiv_le_iff_le_mul hinterval, Duration.nanos_add, Nat.add_le_add_iff_left, Nat.mul_comm]

/-- Where a bound has been reached, there is an end: what may end from `n` on ends at `n`. -/
theorem isLeast_endings_of_le {a : ℕ → Prop} {n m : ℕ}
    (h : IsLeast (endings fun i => a i ∨ n ≤ i) m) :
    IsLeast (endings fun i => a i ∨ i = max 1 n) m := by
  obtain ⟨⟨hm, hends⟩, hleast⟩ := h
  have hle : m ≤ max 1 n := hleast ⟨Nat.le_max_left .., .inr (Nat.le_max_right ..)⟩
  refine ⟨⟨hm, hends.imp id fun hn => Nat.le_antisymm hle (Nat.max_le.mpr ⟨hm, hn⟩)⟩, ?_⟩
  rintro i ⟨hi, ha | rfl⟩
  · exact hleast ⟨hi, .inl ha⟩
  · exact hle

/-- **The wait for a missing image**: one pull, and then rounds until the image is there or the
ceiling is reached. -/
theorem exists_rounds (image : String) (hinterval : 0 < s.pollInterval.nanos)
    (h : checks 0 ≠ .ok true) : ∃ m,
    IsLeast (endings fun i => checks i = .ok true ∨
      i = max 1 (s.pullCeiling.nanos ⌈/⌉ s.pollInterval.nanos)) m ∧
    ∀ start t, TimedTrace (p.apply (ensureImage s image)) start checks t ↔ ∃ pulled answer,
      (p.backend (.pullImage image)).Trace pulled answer ∧
      t = ⟨.backend (.imageIsLoaded image), checks 0⟩ ::
        (pulled ++ ⟨.readTimer, ⟨start + elapsed pulled⟩⟩ ::
          pollRounds s.pollInterval image (start + elapsed pulled) checks m) := by
  have hrounds (now : ℕ) : ∃ m, IsLeast (endings fun i => checks i = .ok true ∨
      s.pullCeiling.nanos ⌈/⌉ s.pollInterval.nanos ≤ i) m ∧ ∀ polls,
        TimedTrace (pollImage s.pollInterval (⟨now⟩ + s.pullCeiling) image
          (s.pullCeiling.nanos + 1)) now (fun i => checks (i + 1)) polls ↔
        polls = pollRounds s.pollInterval image now checks m := by
    have hallowed : ((⟨now⟩ : Duration) + s.pullCeiling).nanos ≤
        now + (s.pullCeiling.nanos + 1) * s.pollInterval.nanos := by
      refine Nat.add_le_add_left ?_ now
      exact (Nat.le_succ _).trans (Nat.le_mul_of_pos_right _ hinterval)
    obtain ⟨m, hm, hpolls⟩ := conversations_of_pollImage image checks hallowed
    simp only [deadline_le_iff hinterval] at hm
    exact ⟨m, hm, hpolls⟩
  obtain ⟨m, hm, -⟩ := hrounds 0
  refine ⟨m, isLeast_endings_of_le hm, fun start t => ?_⟩
  have hpolls (now : ℕ) (polls) : TimedTrace (pollImage s.pollInterval (⟨now⟩ + s.pullCeiling) image
      (s.pullCeiling.nanos + 1)) now (fun i => checks (i + 1)) polls ↔
      polls = pollRounds s.pollInterval image now checks m := by
    obtain ⟨m', hm', hpolls⟩ := hrounds now
    rw [hpolls, hm'.unique hm]
  simp only [timedTrace_ensureImage_of_missing h, hpolls]
  constructor
  · rintro ⟨pulled, answer, _, hpulled, ht, rfl⟩
    exact ⟨pulled, answer, hpulled, ht⟩
  · rintro ⟨pulled, answer, hpulled, ht⟩
    exact ⟨pulled, answer, _, hpulled, ht, rfl⟩

/-- The rounds that are made take no longer than the ceiling and one interval more. -/
theorem rounds_mul_le {a : ℕ → Prop} {c q m : ℕ}
    (h : IsLeast (endings fun i => a i ∨ i = max 1 (c ⌈/⌉ q)) m) : m * q ≤ c + q := by
  have hm : m ≤ max 1 (c ⌈/⌉ q) := h.2 ⟨Nat.le_max_left .., .inr rfl⟩
  rcases le_max_iff.mp hm with hone | hceiling
  · calc m * q ≤ 1 * q := Nat.mul_le_mul_right q hone
      _ = q := Nat.one_mul q
      _ ≤ c + q := Nat.le_add_left q c
  · calc m * q ≤ (c + q - 1) / q * q := Nat.mul_le_mul_right q hceiling
      _ ≤ c + q - 1 := Nat.div_mul_le_self ..
      _ ≤ c + q := Nat.sub_le ..

end

/-! ## The run -/

section

variable {p : RetryPolicy} {r : Runner} {ctx : UnitContext} {test : SecurityTest} {start : ℕ}
  {checks : ℕ → Except BackendError Bool} {u t : List (Program.Exchange activity)}

theorem TellsTime.of_append (h : TellsTime start (u ++ t)) : TellsTime start u := by
  induction u generalizing start with
  | nil => exact True.intro
  | cons x u ih =>
    obtain ⟨c, answer⟩ := x
    cases c with
    | readTimer => exact ⟨h.1, ih h.2⟩
    | _ => exact @ih (start + Call.lasts _) h

theorem LooksAnswered.of_append (h : LooksAnswered checks (u ++ t)) : LooksAnswered checks u := by
  induction u generalizing checks with
  | nil => exact True.intro
  | cons x u ih =>
    obtain ⟨c, answer⟩ := x
    rcases c with _ | (_ | _ | _ | _ | _ | _ | _) | _ | _ | _ | _ | _ | _ | _
    case backend.imageIsLoaded => exact ⟨h.1, ih h.2⟩
    all_goals exact @ih checks h

/-- A call is made at once, however often it may be repeated. -/
theorem exists_first_of_attempt {α : Type} {c : Execution.Call} {delay : Duration} {more : ℕ}
    {f : c.Answer → Task α} {a : α} (h : ((attempt delay c more).bind f).Trace t a) :
    ∃ answer rest, t = ⟨.backend c, answer⟩ :: rest := by
  cases more with
  | zero | succ more =>
    obtain ⟨answer, rest, rfl, -⟩ := Program.trace_ask_iff.mp h
    exact ⟨answer, rest, rfl⟩

/-- **After the wait, a unit is created.** -/
theorem exists_wait_of_run (h : TimedTrace (p.apply (r.run ctx test)) start checks t) :
    ∃ u answer v,
      t = u ++ ⟨.backend (.createUnit ctx test.imageRef (r.command test)), answer⟩ :: v ∧
      TimedTrace (p.apply (ensureImage r.settings test.imageRef)) start checks u := by
  obtain ⟨htrace, htime, hlooks⟩ := h
  have hrun : r.run ctx test =
      (ensureImage r.settings test.imageRef).bind fun _ => r.createUnit moveJob ctx test := rfl
  rw [hrun, RetryPolicy.apply_bind] at htrace
  obtain ⟨u, _, _, rfl, hu, hv⟩ := Program.trace_bind.mp htrace
  obtain ⟨answer, v, rfl⟩ := exists_first_of_attempt hv
  exact ⟨u, answer, v, rfl, hu, htime.of_append, hlooks.of_append⟩

/-- The configured interval is never shorter than a second. -/
theorem one_second_le_pollInterval (c : Config) : .ofSeconds 1 ≤ c.runnerSettings.pollInterval :=
  Nat.mul_le_mul_right _ (Nat.le_max_right ..)

/-- **The wait for an image ends at the ceiling.**  If time passes by sleeping only, and whatever
the looks for the image and the pull come to: an image that is found at once is not pulled.
Otherwise there is one pull, which the policy may try several times, and after it has ended there
are looks at every multiple of the poll interval until the image is found, or until the number of
looks that the ceiling takes has been made, of which there is one at least.  They end no later than
the ceiling and one interval after the pull, and after them the unit is created.  A policy that
allows no further attempts is none, and every configuration has an interval of a second at least. -/
theorem image_wait_ends (p : RetryPolicy) (r : Runner) (ctx : UnitContext) (test : SecurityTest)
    (hinterval : 0 < r.settings.pollInterval.nanos) (start : ℕ)
    (checks : ℕ → Except BackendError Bool) :
    (checks 0 = .ok true → ∀ t,
      TimedTrace (p.apply (ensureImage r.settings test.imageRef)) start checks t ↔
        t = [⟨.backend (.imageIsLoaded test.imageRef), checks 0⟩]) ∧
    (checks 0 ≠ .ok true → ∃ m,
      IsLeast {j | 1 ≤ j ∧ (checks j = .ok true ∨
        j = max 1 (r.settings.pullCeiling.nanos ⌈/⌉ r.settings.pollInterval.nanos))} m ∧
      (∀ t, TimedTrace (p.apply (ensureImage r.settings test.imageRef)) start checks t ↔
        ∃ pulled answer, (p.backend (.pullImage test.imageRef)).Trace pulled answer ∧
          t = ⟨.backend (.imageIsLoaded test.imageRef), checks 0⟩ ::
            (pulled ++ ⟨.readTimer, ⟨start + elapsed pulled⟩⟩ ::
              pollRounds r.settings.pollInterval test.imageRef (start + elapsed pulled) checks m)) ∧
      ∀ now, elapsed (pollRounds r.settings.pollInterval test.imageRef now checks m) =
          m * r.settings.pollInterval.nanos ∧
        m * r.settings.pollInterval.nanos ≤
          r.settings.pullCeiling.nanos + r.settings.pollInterval.nanos) ∧
    (∀ inner, ∃ pulled answer, (p.backend (.pullImage test.imageRef)).Trace pulled answer ∧
      AnsweredInOrder inner pulled) ∧
    (∀ t, TimedTrace (p.apply (r.run ctx test)) start checks t → ∃ u answer v,
      t = u ++ ⟨.backend (.createUnit ctx test.imageRef (r.command test)), answer⟩ :: v ∧
      TimedTrace (p.apply (ensureImage r.settings test.imageRef)) start checks u) ∧
    (p.attempts ≤ 1 → ∀ m : Task Unit, p.apply m = m) ∧
    ∀ env c, Config.ofEnvironment env = .ok c →
      .ofSeconds 1 ≤ c.runnerSettings.pollInterval := by
  refine ⟨?found, ?missing, ?pull, ?run, ?plain, ?configured⟩
  case found => exact fun h t => timedTrace_ensureImage_of_found h
  case missing =>
    intro h
    obtain ⟨m, hm, htraces⟩ := exists_rounds (p := p) test.imageRef hinterval h
    exact ⟨m, hm, htraces start, fun now => ⟨elapsed_pollRounds m, rounds_mul_le hm⟩⟩
  case pull =>
    intro inner
    obtain ⟨k, -, hconversations⟩ :=
      conversations_of_attempt p.delay (.pullImage test.imageRef) (p.attempts - 1) inner
    obtain ⟨htrace, hanswers⟩ := (hconversations _ _).mpr ⟨rfl, rfl⟩
    exact ⟨_, _, htrace, hanswers⟩
  case run => exact fun t => exists_wait_of_run
  case plain => exact RetryPolicy.apply_of_attempts_le_one
  case configured => exact fun _ c _ => one_second_le_pollInterval c

end

/-- An image that does not come is looked for three times in five seconds, the last time a second
after them. -/
theorem image_wait_ends_sample :
    0 < (Duration.ofSeconds 2).nanos ∧ ∃ t,
    TimedTrace (RetryPolicy.apply ⟨1, .ofSeconds 1⟩
      (ensureImage ⟨"", .ofSeconds 2, .ofSeconds 5⟩ "huskyci/bandit:latest")) 0
      (fun _ => .ok false) t ∧ elapsed t = (Duration.ofSeconds 6).nanos := by
  refine ⟨by decide, ?_⟩
  obtain ⟨-, hmissing, -⟩ := image_wait_ends ⟨1, .ofSeconds 1⟩
    ⟨⟨"", .ofSeconds 2, .ofSeconds 5⟩, .builtin⟩ ⟨default, "u"⟩
    (builtinTest "bandit" "python" "bandit -r ." 360) (by decide) 0 fun _ => .ok false
  obtain ⟨m, ⟨⟨-, hends⟩, -⟩, htraces, -⟩ := hmissing (by decide)
  obtain rfl : m = 3 := hends.resolve_left (by decide)
  exact ⟨_, (htraces _).mpr ⟨_, .ok (), .ask (.done _), rfl⟩, rfl⟩

end Service
end ScanService
