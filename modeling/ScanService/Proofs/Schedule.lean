import ScanService.Proofs.Replay

/-!
# Schedules

A crowd leaves much open: who comes and whose turn it is, what the backend answers and which calls to
the store fail, what the clocks say and which identifiers are drawn.  A schedule settles all of this
in advance, a cue at a time, so that there is one course of events for it (`Crowd.follow`).

## What is here

* `history_of_follow` — what a schedule leads to is a history, in all surroundings that allow it.
* `exists_schedule` — **every history follows a schedule**, and one whose backend takes no notice of
  commands at that.
-/

namespace ScanService
namespace Service

open Execution (UnitContext)

/-- What a task finds that reads clocks and draws an identifier. -/
structure Moment where
  /-- The time of day. -/
  now : Timestamp
  /-- The time since the service was started. -/
  timer : Duration
  /-- The identifier that is drawn. -/
  rid : Uuid

/-- A moment, and then others. -/
def Moment.before (x : Moment) (moments : Nat → Moment) : Nat → Moment
  | 0 => x
  | n + 1 => moments n

/-- What is left to chance in a turn. -/
structure Chance where
  /-- What a call to the store fails with, having done nothing. -/
  failure (c : Store.Call) : Option ServiceError
  /-- What the backend answers. -/
  backend (c : Execution.Call) : c.Answer
  /-- What the task finds when it goes on, one moment after the other. -/
  moments : Nat → Moment

/-- What happens next: a client comes, or the task in some place takes a turn. -/
inductive Cue where
  | request (e : Errand)
  | turn (place : Nat) (chance : Chance)

namespace Chance

/-- The backend takes no notice of commands. -/
def IgnoresCommands (x : Chance) : Prop :=
  ∀ ctx image command command',
    x.backend (.createUnit ctx image command) = x.backend (.createUnit ctx image command')

/-- Everybody answers as a script says, these units having been created before. -/
def ofScript (d : Script) (units : List (Uuid × String)) : Chance :=
  ⟨fun _ => none, d.backend units, fun _ => ⟨d.now, d.timer, d.rid⟩⟩

/-- The answer of a store, and the store after it. -/
def stores (x : Chance) (c : Store.Call) (m : Store.Memory) : c.Answer × Store.Memory :=
  match x.failure c with
  | some e => (.error e, m)
  | none => m.answer c

/-- Goes on until the next turn. -/
def settle (r : Runner) {α : Type} : Task α → (Nat → Moment) → Crowd → Task α × Crowd
  | .ask .readClock next, x, s => settle r (next (x 0).now) (fun n => x (n + 1)) s
  | .ask .readTimer next, x, s => settle r (next (x 0).timer) (fun n => x (n + 1)) s
  | .ask .drawRid next, x, s => settle r (next (x 0).rid) (fun n => x (n + 1)) s
  | .ask (.sleep _) next, x, s => settle r (next ()) x s
  | .ask (.launch ctx test) next, x, s => settle r (next ()) x (s.begin r (.run ctx test))
  | .ask .leaveGate next, x, s => settle r (next ()) x { s with gateTaken := false }
  | t, _, s => (t, s)

/-- Goes on with an answer. -/
def goOn (r : Runner) (x : Chance) (i : Nat) (e : Errand) (t : Task e.Result) (s : Crowd) : Crowd :=
  (settle r t x.moments s).2.resume i ⟨e, (settle r t x.moments s).1⟩

/-- The worker in some place takes a turn. -/
def takeTurn (r : Runner) (x : Chance) (i : Nat) (s : Crowd) :
    Worker → Option (Crowd × Crowd.Event)
  | ⟨e, .ask (.store c) next⟩ =>
    some (x.goOn r i e (next (x.stores c s.store).1) { s with store := (x.stores c s.store).2 },
      ⟨i, .store c, (x.stores c s.store).1⟩)
  | ⟨e, .ask (.backend c) next⟩ =>
    some (x.goOn r i e (next (x.backend c)) (s.noteUnit c (x.backend c)),
      ⟨i, .backend c, x.backend c⟩)
  | ⟨e, .ask .enterGate next⟩ =>
    if s.gateTaken then none
    else some (x.goOn r i e (next ()) { s with gateTaken := true }, ⟨i, .enterGate, ()⟩)
  | _ => none

end Chance

namespace Crowd

/-- Follows a schedule; gives what it leads to, and the turns that were taken. -/
def follow (r : Runner) : List Cue → Crowd → Option (Crowd × List Event)
  | [], s => some (s, [])
  | .request e :: rest, s => if e.isRequest then follow r rest (s.begin r e) else none
  | .turn i x :: rest, s =>
    (s.workers[i]?.bind (x.takeTurn r i s)).bind fun y =>
      (follow r rest y.1).map fun z => (z.1, y.2 :: z.2)

end Crowd

variable {r : Runner} {w : Surroundings} {s s' start : Crowd}

/-! ## Schedules lead to histories -/

/-- Surroundings allow some turns, these units having been created before. -/
def Surroundings.Allow (w : Surroundings) : List (Uuid × String) → List Crowd.Event → Prop
  | _, [] => True
  | units, ⟨_, .backend (.createUnit ctx image command), .ok id⟩ :: rest =>
    w.backend units (.createUnit ctx image command) (.ok id) ∧ w.Allow ((ctx.rid, id) :: units) rest
  | units, ⟨_, .backend c, answer⟩ :: rest => w.backend units c answer ∧ w.Allow units rest
  | units, _ :: rest => w.Allow units rest

/-- Surroundings allow what the store does at a cue. -/
def Cue.IsAllowedBy (w : Surroundings) : Cue → Prop
  | .request _ => True
  | .turn _ x => ∀ c e, x.failure c = some e → w.failure c e

/-- Where any call to the store may fail, all cues are allowed. -/
theorem Cue.isAllowedBy_of_forall (hw : ∀ c e, w.failure c e) (cue : Cue) : cue.IsAllowedBy w := by
  cases cue with
  | request => exact True.intro
  | turn => exact fun c e _ => hw c e

/-- A call to the backend is allowed if its answer is, and what comes next is. -/
theorem Surroundings.allow_backend_iff {i : Nat} {c : Execution.Call} {answer : c.Answer}
    {t : List Crowd.Event} : w.Allow s.units (⟨i, .backend c, answer⟩ :: t) ↔
      w.backend s.units c answer ∧ w.Allow (s.noteUnit c answer).units t := by
  cases c with
  | createUnit ctx image command => cases answer <;> exact Iff.rfl
  | _ => exact Iff.rfl

/-- Where the backend may answer anything, all turns are allowed. -/
theorem Surroundings.allow_of_forall (hw : ∀ units c answer, w.backend units c answer)
    (t : List Crowd.Event) : ∀ units, w.Allow units t := by
  induction t with
  | nil => exact fun _ => True.intro
  | cons x t ih =>
    intro units
    obtain ⟨i, c, answer⟩ := x
    cases c with
    | backend c =>
      exact allow_backend_iff (s := ⟨⟨[], [], []⟩, false, units, []⟩).mpr ⟨hw _ _ _, ih _⟩
    | _ => exact ih _

/-- The units that are created in some turns have identifiers that their analyses have not seen. -/
def Crowd.createsFresh : List (Uuid × String) → List Crowd.Event → Bool
  | _, [] => true
  | units, ⟨_, .backend (.createUnit ctx _ _), .ok id⟩ :: rest =>
    !units.contains (ctx.rid, id) && createsFresh ((ctx.rid, id) :: units) rest
  | units, _ :: rest => createsFresh units rest

/-- Where the backend may answer anything but identifiers that have been seen, such turns are
allowed. -/
theorem Surroundings.allow_of_createsFresh (hw : ∀ units c answer, w.backend units c answer)
    {t : List Crowd.Event} {units : List (Uuid × String)}
    (h : Crowd.createsFresh units t = true) : w.withFreshUnits.Allow units t := by
  induction t generalizing units with
  | nil => exact True.intro
  | cons x t ih =>
    obtain ⟨i, c, answer⟩ := x
    cases c with
    | backend c =>
      cases c with
      | createUnit ctx image command =>
        cases answer with
        | ok id =>
          rw [Crowd.createsFresh, Bool.and_eq_true] at h
          exact ⟨⟨hw _ _ _, by simpa [IsFresh] using h.1⟩, ih h.2⟩
        | error e => exact ⟨⟨hw _ _ _, True.intro⟩, ih h⟩
      | _ => exact ⟨⟨hw _ _ _, True.intro⟩, ih h⟩
    | _ => exact ih h

/-- Between turns no unit is created. -/
theorem Crowd.Settles.units_eq {α : Type} {t t' : Task α} (h : Crowd.Settles r t s t' s') :
    s'.units = s.units := by
  induction h with
  | settled => rfl
  | quiet hq _ ih => exact ih.trans (by cases hq <;> rfl)

namespace Chance

variable {x : Chance}

theorem settles_settle {α : Type} (t : Task α) (moments : Nat → Moment) (s : Crowd) :
    Crowd.Settles r t s (settle r t moments s).1 (settle r t moments s).2 := by
  induction t generalizing moments s with
  | done a => exact .settled rfl s
  | ask c next ih =>
    cases c with
    | store | backend | enterGate => exact .settled rfl s
    | readClock => exact .quiet (.readClock s _) (ih _ _ s)
    | readTimer => exact .quiet (.readTimer s _) (ih _ _ s)
    | drawRid => exact .quiet (.drawRid s _) (ih _ _ s)
    | sleep span => exact .quiet (.sleep s span) (ih _ _ s)
    | launch ctx test => exact .quiet (.launch s ctx test) (ih _ _ _)
    | leaveGate => exact .quiet (.leaveGate s) (ih _ _ _)

/-- What is left to chance decides about questions that take no turn, and chance can be such that
they are answered in any way. -/
theorem exists_settle {α : Type} {t t' : Task α} (h : Crowd.Settles r t s t' s') :
    ∃ moments, settle r t moments s = (t', s') := by
  induction h with
  | @settled t h s =>
    refine ⟨fun _ => ⟨Script.sample.now, Script.sample.timer, Script.sample.rid⟩, ?_⟩
    cases t with
    | done a => rfl
    | ask c next => cases c <;> first | rfl | cases h
  | quiet hq _ ih =>
    obtain ⟨moments, hm⟩ := ih
    cases hq with
    | readClock _ now =>
      exact ⟨Moment.before ⟨now, Script.sample.timer, Script.sample.rid⟩ moments, hm⟩
    | readTimer _ timer =>
      exact ⟨Moment.before ⟨Script.sample.now, timer, Script.sample.rid⟩ moments, hm⟩
    | drawRid _ rid =>
      exact ⟨Moment.before ⟨Script.sample.now, Script.sample.timer, rid⟩ moments, hm⟩
    | sleep | launch | leaveGate => exact ⟨moments, hm⟩

theorem stores_stores {c : Store.Call} (h : ∀ e, x.failure c = some e → w.failure c e)
    (m : Store.Memory) : w.Stores c m (x.stores c m).1 (x.stores c m).2 := by
  rw [stores]
  split
  · next e he => exact .inr ⟨e, h e he, rfl, rfl⟩
  · exact .inl rfl

theorem units_goOn (i : Nat) (e : Errand) (t : Task e.Result) (s : Crowd) :
    (x.goOn r i e t s).units = s.units :=
  (settles_settle t x.moments s).units_eq

/-- What a worker does at a cue is a turn, if the surroundings allow it. -/
theorem turn_of_takeTurn {i : Nat} {y : Worker} {z : Crowd × Crowd.Event} {t : List Crowd.Event}
    (hi : s.workers[i]? = some y) (h : x.takeTurn r i s y = some z)
    (hx : ∀ c e, x.failure c = some e → w.failure c e) (hw : w.Allow s.units (z.2 :: t)) :
    (∃ q answer, z.2 = ⟨i, q, answer⟩ ∧ Crowd.Turn r w i q answer s z.1) ∧
      w.Allow z.1.units t := by
  obtain ⟨e, task⟩ := y
  cases task with
  | done a => cases h
  | ask c next =>
    cases c with
    | store c =>
      cases h
      refine ⟨⟨_, _, rfl, .intro hi (.store (stores_stores (hx c) _)) (settles_settle _ _ _)⟩, ?_⟩
      rwa [units_goOn]
    | backend c =>
      cases h
      obtain ⟨hanswer, hrest⟩ := Surroundings.allow_backend_iff.mp hw
      refine ⟨⟨_, _, rfl, .intro hi (.backend hanswer) (settles_settle _ _ _)⟩, ?_⟩
      rwa [units_goOn]
    | enterGate =>
      rw [takeTurn] at h
      split at h
      · cases h
      · next hg =>
        cases h
        refine ⟨⟨_, _, rfl, .intro hi (.gate (Bool.not_eq_true _ ▸ hg)) (settles_settle _ _ _)⟩, ?_⟩
        rwa [units_goOn]
    | _ => cases h

end Chance

namespace Crowd

/-- **What a schedule leads to is a history**, if the surroundings allow it. -/
theorem history_of_follow {cues : List Cue} {t t' : List Event} (hs : History r w start t s)
    (h : follow r cues s = some (s', t')) (hc : ∀ cue ∈ cues, cue.IsAllowedBy w)
    (hw : w.Allow s.units t') : History r w start (t ++ t') s' := by
  induction cues generalizing s t t' with
  | nil =>
    cases h
    rwa [List.append_nil]
  | cons cue rest ih =>
    have hrest : ∀ cue ∈ rest, cue.IsAllowedBy w := fun cue hcue =>
      hc cue (List.mem_cons_of_mem _ hcue)
    cases cue with
    | request e =>
      rw [follow] at h
      split at h
      · next he => exact ih (.request hs he) h hrest hw
      · cases h
    | turn i x =>
      rw [follow, Option.bind_eq_some_iff] at h
      obtain ⟨z, hturn, h⟩ := h
      obtain ⟨y, hi, hturn⟩ := Option.bind_eq_some_iff.mp hturn
      obtain ⟨z', hfollow, h⟩ := Option.map_eq_some_iff.mp h
      cases h
      obtain ⟨⟨q, answer, he, hturn⟩, hw⟩ :=
        Chance.turn_of_takeTurn hi hturn (hc _ List.mem_cons_self) hw
      have hnext := ih (.turn hs hturn) hfollow hrest hw
      rwa [List.append_assoc, List.singleton_append, ← he] at hnext

end Crowd

/-- In any case it can be reached. -/
theorem Crowd.reachable_of_follow {cues : List Cue} {t : List Event}
    (h : follow r cues s = some (s', t)) : Reachable r .arbitrary s s' := by
  exact (history_of_follow .start h
    (fun cue _ => cue.isAllowedBy_of_forall fun _ _ => True.intro)
    (Surroundings.allow_of_forall (fun _ _ _ => True.intro) t _)).reachable

/-! ### Schedules by a script -/

/-- Moves that are made with the answers of a script. -/
def Script.schedule (d : Script) (moves : List Script.Move) : List Cue :=
  moves.map fun
    | .request e => .request e
    | .turn i => .turn i (.ofScript d [])

/-- By a script no call to the store fails. -/
theorem Script.isAllowedBy_of_mem_schedule {d : Script} {moves : List Script.Move} {cue : Cue}
    (h : cue ∈ d.schedule moves) : cue.IsAllowedBy w := by
  obtain ⟨move, -, rfl⟩ := List.mem_map.mp h
  cases move with
  | request => exact True.intro
  | turn => exact fun _ _ he => by cases he

/-- By a script the backend answers what the script says. -/
theorem Script.answer_of_mem_follow {d : Script} {moves : List Script.Move} {t : List Crowd.Event}
    (h : Crowd.follow r (d.schedule moves) s = some (s', t)) {i : Nat} {c : Execution.Call}
    {answer : c.Answer} (hmem : ⟨i, .backend c, answer⟩ ∈ t) : answer = d.backend [] c := by
  induction moves generalizing s t with
  | nil =>
    cases h
    cases hmem
  | cons move rest ih =>
    cases move with
    | request e =>
      rw [schedule, List.map_cons, Crowd.follow] at h
      split at h
      · exact ih h hmem
      · cases h
    | turn j =>
      rw [schedule, List.map_cons, Crowd.follow, Option.bind_eq_some_iff] at h
      obtain ⟨z, hturn, h⟩ := h
      obtain ⟨⟨e, task⟩, -, hturn⟩ := Option.bind_eq_some_iff.mp hturn
      obtain ⟨z', hfollow, h⟩ := Option.map_eq_some_iff.mp h
      cases h
      rcases List.mem_cons.mp hmem with he | hmem
      · cases task with
        | done a => cases hturn
        | ask q next =>
          cases q with
          | store q =>
            cases hturn
            cases he
          | backend q =>
            cases hturn
            cases he
            rfl
          | enterGate =>
            rw [Chance.takeTurn] at hturn
            split at hturn
            · cases hturn
            · cases hturn
              cases he
          | _ => cases hturn
      · exact ih hfollow hmem

/-! ## Histories follow schedules -/

namespace Chance

/-- A backend that gives one answer to all calls of a kind, and fails to answer others. -/
def answerAll : (c : Execution.Call) → c.Answer → (c' : Execution.Call) → c'.Answer
  | .imageIsLoaded _, answer, .imageIsLoaded _ => answer
  | .pullImage _, answer, .pullImage _ => answer
  | .createUnit _ _ _, answer, .createUnit _ _ _ => answer
  | .startUnit _, answer, .startUnit _ => answer
  | .waitUnit _ _, answer, .waitUnit _ _ => answer
  | .readOutput _, answer, .readOutput _ => answer
  | .ping, answer, .ping => answer
  | _, _, _ => .error (.abnormal "")

theorem answerAll_self (c : Execution.Call) (answer : c.Answer) : answerAll c answer c = answer := by
  cases c <;> rfl

theorem answerAll_createUnit (c : Execution.Call) (answer : c.Answer) (ctx : UnitContext)
    (image command command' : String) :
    answerAll c answer (.createUnit ctx image command) =
      answerAll c answer (.createUnit ctx image command') := by
  cases c <;> rfl

/-- Every turn is what a worker does at some cue. -/
theorem exists_takeTurn {i : Nat} {q : Call} {answer : q.Answer}
    (h : Crowd.Turn r w i q answer s s') : ∃ x : Chance, x.IgnoresCommands ∧
      s.workers[i]?.bind (x.takeTurn r i s) = some (s', ⟨i, q, answer⟩) := by
  obtain ⟨hi, ha, ht⟩ := h
  obtain ⟨moments, hm⟩ := exists_settle ht
  have hping := answerAll_createUnit .ping (.ok ())
  cases ha with
  | @store c answer m h =>
    rcases h with h | ⟨e, -, rfl, rfl⟩
    · refine ⟨⟨fun _ => none, answerAll .ping (.ok ()), moments⟩, hping, ?_⟩
      rw [hi, Option.bind_some, takeTurn, goOn, stores, ← h, hm]
    · refine ⟨⟨fun _ => some e, answerAll .ping (.ok ()), moments⟩, hping, ?_⟩
      rw [hi, Option.bind_some, takeTurn, goOn, stores, hm]
  | @backend c answer h =>
    refine ⟨⟨fun _ => none, answerAll c answer, moments⟩, answerAll_createUnit c answer, ?_⟩
    simp only [hi, Option.bind_some, takeTurn, goOn, answerAll_self, hm]
  | gate hg =>
    refine ⟨⟨fun _ => none, answerAll .ping (.ok ()), moments⟩, hping, ?_⟩
    rw [hi, Option.bind_some, takeTurn, hg, if_neg Bool.false_ne_true, goOn, hm]

end Chance

/-- The backend takes no notice of commands. -/
def Cue.IgnoresCommands : Cue → Prop
  | .request _ => True
  | .turn _ x => x.IgnoresCommands

namespace Crowd

theorem follow_append (cues cues' : List Cue) (s : Crowd) :
    follow r (cues ++ cues') s = (follow r cues s).bind fun y =>
      (follow r cues' y.1).map fun z => (z.1, y.2 ++ z.2) := by
  induction cues generalizing s with
  | nil => cases h : follow r cues' s <;> simp [follow, h]
  | cons cue rest ih =>
    cases cue with
    | request e =>
      rw [List.cons_append, follow, follow]
      split
      · exact ih _
      · rfl
    | turn i x =>
      rw [List.cons_append, follow, follow]
      cases s.workers[i]?.bind (x.takeTurn r i s) with
      | none => rfl
      | some y =>
        rw [Option.bind_some, Option.bind_some, ih]
        cases follow r rest y.1 with
        | none => rfl
        | some z => cases h : follow r cues' z.1 <;> simp [h]

/-- **Every history follows a schedule**, and one whose backend takes no notice of commands. -/
theorem exists_schedule {t : List Event} (h : History r w start t s) :
    ∃ cues : List Cue, (∀ cue ∈ cues, cue.IgnoresCommands) ∧
      follow r cues start = some (s, t) := by
  induction h with
  | start => exact ⟨[], by simp, rfl⟩
  | @request t s e _ he ih =>
    obtain ⟨cues, hc, hfollow⟩ := ih
    refine ⟨cues ++ [.request e], fun cue hcue => ?_, ?_⟩
    · rcases List.mem_append.mp hcue with hcue | hcue
      · exact hc cue hcue
      · rw [List.mem_singleton.mp hcue]
        exact True.intro
    · rw [follow_append, hfollow, Option.bind_some, follow, if_pos he, follow, Option.map_some,
        List.append_nil]
  | @turn t s s' i q answer _ hturn ih =>
    obtain ⟨cues, hc, hfollow⟩ := ih
    obtain ⟨x, hx, hturn⟩ := Chance.exists_takeTurn hturn
    refine ⟨cues ++ [.turn i x], fun cue hcue => ?_, ?_⟩
    · rcases List.mem_append.mp hcue with hcue | hcue
      · exact hc cue hcue
      · rw [List.mem_singleton.mp hcue]
        exact hx
    · rw [follow_append, hfollow, Option.bind_some, follow, hturn, Option.bind_some, follow,
        Option.map_some, Option.map_some]

end Crowd
end Service
end ScanService
