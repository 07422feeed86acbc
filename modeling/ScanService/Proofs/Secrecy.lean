import Mathlib.Data.List.Forall2
import Mathlib.Data.Option.Basic
import ScanService.Proofs.Schedule
import ScanService.Service.Config

/-!
# The secret shows in commands alone

The configured secret is put into the commands of units and nowhere else.  Two services that differ
in the secret only, and that follow the same schedule, ask the same questions in the same order, but
for the commands of the units they create, and each is the command of the test that is run.  So they
store the same and tell their clients the same.

## What is here

* `Task.SameButCommands` — two tasks that differ only in commands; `run_sameButCommands` says that
  the runs of two such services do.
* `Crowd.follow_sameButCommands` — a schedule leads the two through the same stores, a turn at a
  time.
* `secret_shows_in_commands_alone` — all of this, for all schedules and for all histories.
-/

namespace ScanService
namespace Service

open Execution (UnitContext)

/-- The service with another secret. -/
def Runner.withSecret (r : Runner) (secret : String) : Runner :=
  { r with settings := { r.settings with secret := secret } }

/-- The configuration with another secret. -/
def Config.withSecret (c : Config) (secret : String) : Config :=
  { c with gitPrivateSshKey := secret }

/-! ## Commands -/

/-- The command of a test that does not ask for the secret is its template. -/
theorem Runner.command_of_not_contains {test : SecurityTest}
    (h : Text.contains test.cmd SecurityTest.secretPlaceholder = false) (r : Runner) :
    r.command test = test.cmd := by
  rw [Runner.command, Text.replaceAll, Text.substitute_of_not_occursIn h, String.ofList_toList]

/-! ## Tasks -/

/-- Two tasks ask the same but for the commands of units, which are related. -/
inductive Task.SameButCommands (p : String → String → Prop) {α : Type} : Task α → Task α → Prop where
  | done (a : α) : SameButCommands p (.done a) (.done a)
  | ask (c : Call) {next next' : c.Answer → Task α}
    (h : ∀ answer, SameButCommands p (next answer) (next' answer)) :
    SameButCommands p (.ask (I := activity) c next) (.ask (I := activity) c next')
  | createUnit (ctx : UnitContext) (image : String) {command command' : String}
    {next next' : Except BackendError String → Task α} (hp : p command command')
    (h : ∀ answer, SameButCommands p (next answer) (next' answer)) :
    SameButCommands p (.ask (I := activity) (.backend (.createUnit ctx image command)) next)
      (.ask (I := activity) (.backend (.createUnit ctx image command')) next')

namespace Task.SameButCommands

variable {p : String → String → Prop} {α β : Type}

theorem refl (t : Task α) : SameButCommands p t t := by
  induction t with
  | done a => exact .done a
  | ask c next ih => exact .ask c ih

theorem bind {t t' : Task α} (h : SameButCommands p t t') {f f' : α → Task β}
    (hf : ∀ a, SameButCommands p (f a) (f' a)) :
    SameButCommands p (Program.bind t f) (Program.bind t' f') := by
  induction h with
  | done a => exact hf a
  | ask c _ ih => exact .ask c ih
  | createUnit ctx image hp _ ih => exact .createUnit ctx image hp ih

end Task.SameButCommands

/-- The commands that two services use on an errand. -/
def Errand.Commands (r r' : Runner) : Errand → String → String → Prop
  | .run _ test, command, command' => command = r.command test ∧ command' = r'.command test
  | _, _, _ => False

/-- **Runs differ in the command of their unit only.** -/
theorem run_sameButCommands (r : Runner) (secret : String) (ctx : UnitContext)
    (test : SecurityTest) :
    (r.run ctx test).SameButCommands ((Errand.run ctx test).Commands r (r.withSecret secret))
      ((r.withSecret secret).run ctx test) := by
  refine .bind (.refl (ensureImage r.settings test.imageRef)) fun _ => ?_
  refine .createUnit ctx test.imageRef ⟨rfl, rfl⟩ fun answer => ?_
  -- with a unit, or without one, nothing more depends on the secret
  cases answer with
  | ok id => exact .refl (Program.bind (Task.store _) fun _ => r.startUnit moveJob ctx test id _)
  | error e => exact .refl _

/-- No other errand of a service has anything to do with the secret. -/
theorem task_sameButCommands (r : Runner) (secret : String) (e : Errand) :
    (e.task r).SameButCommands (e.Commands r (r.withSecret secret))
      (e.task (r.withSecret secret)) := by
  cases e with
  | run ctx test => exact run_sameButCommands r secret ctx test
  | analyse | status | registerRepository | registerSecurityTest | ensureDefaults => exact .refl _

/-! ## Places and options that are related -/

section Related

variable {α β α' β' : Type} {p : α → α' → Prop} {q : β → β' → Prop}

theorem rel_bind {o : Option α} {o' : Option α'} (h : Option.Rel p o o') {f : α → Option β}
    {f' : α' → Option β'} (hf : ∀ a a', o = some a → p a a' → Option.Rel q (f a) (f' a')) :
    Option.Rel q (o.bind f) (o'.bind f') := by
  cases h with
  | none => exact .none
  | some h => exact hf _ _ rfl h

theorem rel_map {o : Option α} {o' : Option α'} (h : Option.Rel p o o') {f : α → β}
    {f' : α' → β'} (hf : ∀ a a', o = some a → p a a' → q (f a) (f' a')) :
    Option.Rel q (o.map f) (o'.map f') := by
  cases h with
  | none => exact .none
  | some h => exact .some (hf _ _ rfl h)

theorem rel_imp {o : Option α} {o' : Option α'} (h : Option.Rel p o o') {p' : α → α' → Prop}
    (hp : ∀ a a', p a a' → p' a a') : Option.Rel p' o o' := by
  cases h with
  | none => exact .none
  | some h => exact .some (hp _ _ h)

variable {as : List α} {bs : List α'}

theorem rel_getElem? (h : List.Forall₂ p as bs) (i : Nat) : Option.Rel p as[i]? bs[i]? := by
  induction h generalizing i with
  | nil => exact .none
  | cons hp _ ih =>
    cases i with
    | zero => exact .some hp
    | succ i => exact ih i

theorem forall₂_set (h : List.Forall₂ p as bs) {a : α} {b : α'} (hp : p a b) (i : Nat) :
    List.Forall₂ p (as.set i a) (bs.set i b) := by
  induction h generalizing i with
  | nil => exact .nil
  | cons hp' h ih =>
    cases i with
    | zero => exact .cons hp h
    | succ i => exact .cons hp' (ih i)

end Related

/-! ## Crowds -/

/-- Two workers are on one errand, and differ only in commands. -/
inductive Worker.SameButCommands (r r' : Runner) : Worker → Worker → Prop where
  | intro (e : Errand) {t t' : Task e.Result} (h : t.SameButCommands (e.Commands r r') t') :
    SameButCommands r r' ⟨e, t⟩ ⟨e, t'⟩

/-- What has come of an errand has nothing to do with commands. -/
theorem Worker.SameButCommands.done_iff {r r' : Runner} {x x' : Worker}
    (h : x.SameButCommands r r' x') {e : Errand} {a : e.Result} :
    x = ⟨e, .done a⟩ ↔ x' = ⟨e, .done a⟩ := by
  obtain ⟨e', ht⟩ := h
  cases ht with
  | done => exact Iff.rfl
  | ask | createUnit => constructor <;> intro h <;> injection h with he ht <;> subst he <;> cases ht

/-- Two turns are the same, but a unit may be created with another command for the test that the
worker in that place runs. -/
inductive Crowd.Event.SameButCommands (r r' : Runner) (errands : List Errand) :
    Crowd.Event → Crowd.Event → Prop where
  | same (x : Crowd.Event) : SameButCommands r r' errands x x
  | createUnit {i : Nat} {ctx : UnitContext} {test : SecurityTest}
    (hi : errands[i]? = some (.run ctx test)) (ctx' : UnitContext) (image : String)
    (answer : Except BackendError String) :
    SameButCommands r r' errands
      ⟨i, .backend (.createUnit ctx' image (r.command test)), answer⟩
      ⟨i, .backend (.createUnit ctx' image (r'.command test)), answer⟩

/-- It does not matter which errands are begun later. -/
theorem Crowd.Event.SameButCommands.mono {r r' : Runner} {errands errands' : List Errand}
    (h : errands <+: errands') {x x' : Crowd.Event} (hx : x.SameButCommands r r' errands x') :
    x.SameButCommands r r' errands' x' := by
  cases hx with
  | same x => exact .same x
  | createUnit hi ctx image answer =>
    obtain ⟨later, rfl⟩ := h
    refine .createUnit (Eq.trans ?_ hi) ctx image answer
    rw [List.getElem?_append_left (List.getElem?_eq_some_iff.mp hi).1]

namespace Crowd

/-- Two crowds differ only in the commands that are still to be used. -/
structure SameButCommands (r r' : Runner) (s s' : Crowd) : Prop where
  store : s.store = s'.store
  gateTaken : s.gateTaken = s'.gateTaken
  units : s.units = s'.units
  workers : List.Forall₂ (Worker.SameButCommands r r') s.workers s'.workers

variable {r r' : Runner} {s s' : Crowd}

theorem sameButCommands_idle (m : Store.Memory) : (idle m).SameButCommands r r' (idle m) :=
  ⟨rfl, rfl, rfl, .nil⟩

theorem SameButCommands.errands (h : SameButCommands r r' s s') : s.errands = s'.errands := by
  have hmap : List.Forall₂ (fun e e' => e = e') s.errands s'.errands :=
    List.forall₂_map_left_iff.mpr (List.forall₂_map_right_iff.mpr
      (h.workers.imp fun _ _ ⟨_, _⟩ => rfl))
  exact List.forall₂_eq_eq_eq ▸ hmap

theorem SameButCommands.begin {secret : String} (h : SameButCommands r (r.withSecret secret) s s')
    (e : Errand) :
    SameButCommands r (r.withSecret secret) (s.begin r e) (s'.begin (r.withSecret secret) e) where
  store := h.store
  gateTaken := h.gateTaken
  units := h.units
  workers := List.rel_append h.workers (.cons ⟨e, task_sameButCommands r secret e⟩ .nil)

/-- Units are noted for their analyses, whatever their commands. -/
theorem SameButCommands.noteUnit (h : SameButCommands r r' s s') {c c' : Execution.Call}
    {answer : c.Answer} {answer' : c'.Answer}
    (hunits : (s.noteUnit c answer).units = (s'.noteUnit c' answer').units) :
    SameButCommands r r' (s.noteUnit c answer) (s'.noteUnit c' answer') where
  store := by rw [store_noteUnit, store_noteUnit, h.store]
  gateTaken := by
    unfold Crowd.noteUnit
    split <;> split <;> exact h.gateTaken
  units := hunits
  workers := by
    rw [workers_noteUnit, workers_noteUnit]
    exact h.workers

theorem SameButCommands.getElem? (h : SameButCommands r r' s s') (i : Nat) :
    Option.Rel (Worker.SameButCommands r r') s.workers[i]? s'.workers[i]? :=
  rel_getElem? h.workers i

theorem SameButCommands.resume (h : SameButCommands r r' s s') (i : Nat) {x x' : Worker}
    (hx : x.SameButCommands r r' x') : SameButCommands r r' (s.resume i x) (s'.resume i x') where
  store := h.store
  gateTaken := h.gateTaken
  units := h.units
  workers := forall₂_set h.workers hx i

end Crowd

/-! ## Turns -/

namespace Chance

variable {r : Runner} {secret : String} {s s' : Crowd} {p : String → String → Prop}

/-- Between turns two such tasks do the same. -/
theorem settle_sameButCommands {α : Type} {t t' : Task α} (ht : t.SameButCommands p t')
    (moments : Nat → Moment) (hs : s.SameButCommands r (r.withSecret secret) s') :
    (settle r t moments s).1.SameButCommands p (settle (r.withSecret secret) t' moments s').1 ∧
      (settle r t moments s).2.SameButCommands r (r.withSecret secret)
        (settle (r.withSecret secret) t' moments s').2 := by
  induction ht generalizing moments s s' with
  | done a => exact ⟨.done a, hs⟩
  | createUnit ctx image hp h => exact ⟨.createUnit ctx image hp h, hs⟩
  | ask c h ih =>
    cases c with
    | store | backend | enterGate => exact ⟨.ask _ h, hs⟩
    | readClock | readTimer | drawRid | sleep => exact ih _ _ hs
    | launch ctx test => exact ih _ _ (hs.begin _)
    | leaveGate => exact ih _ _ ⟨hs.store, rfl, hs.units, hs.workers⟩

theorem goOn_sameButCommands (x : Chance) (i : Nat) {e : Errand} {t t' : Task e.Result}
    (ht : t.SameButCommands (e.Commands r (r.withSecret secret)) t')
    (hs : s.SameButCommands r (r.withSecret secret) s') :
    (x.goOn r i e t s).SameButCommands r (r.withSecret secret)
      (x.goOn (r.withSecret secret) i e t' s') :=
  (settle_sameButCommands ht x.moments hs).2.resume i
    ⟨e, (settle_sameButCommands ht x.moments hs).1⟩

/-- **Two such workers take the same turn**, but for the command of a unit. -/
theorem takeTurn_sameButCommands {x : Chance} (hx : x.IgnoresCommands) {i : Nat} {y y' : Worker}
    (hs : s.SameButCommands r (r.withSecret secret) s') (hi : s.workers[i]? = some y)
    (hy : y.SameButCommands r (r.withSecret secret) y') :
    Option.Rel (fun z z' => z.1.SameButCommands r (r.withSecret secret) z'.1 ∧
        z.2.SameButCommands r (r.withSecret secret) s.errands z'.2)
      (x.takeTurn r i s y) (x.takeTurn (r.withSecret secret) i s' y') := by
  obtain ⟨e, ht⟩ := hy
  cases ht with
  | done a => exact .none
  | createUnit ctx image hp h =>
    cases e with
    | run ctx' test =>
      obtain ⟨rfl, rfl⟩ := hp
      have hi : s.errands[i]? = some (.run ctx' test) := by
        rw [Crowd.errands, List.getElem?_map, hi, Option.map_some]
      -- the backend gives the answer that it would have given to the other command
      rw [takeTurn, takeTurn, hx ctx image ((r.withSecret secret).command test) (r.command test)]
      refine .some ⟨goOn_sameButCommands x i (h _) (hs.noteUnit ?_), .createUnit hi ctx image _⟩
      cases x.backend (.createUnit ctx image (r.command test)) with
      | ok id => exact congrArg (List.cons (ctx.rid, id)) hs.units
      | error e => exact hs.units
    | _ => exact hp.elim
  | ask c h =>
    cases c with
    | store c =>
      rw [takeTurn, takeTurn, ← hs.store]
      exact .some ⟨goOn_sameButCommands x i (h _) ⟨rfl, hs.gateTaken, hs.units, hs.workers⟩,
        .same _⟩
    | backend c =>
      refine .some ⟨goOn_sameButCommands x i (h _) (hs.noteUnit ?_), .same _⟩
      cases c with
      | createUnit ctx image command =>
        cases x.backend (.createUnit ctx image command) with
        | ok id => exact congrArg (List.cons (ctx.rid, id)) hs.units
        | error e => exact hs.units
      | _ => exact hs.units
    | enterGate =>
      rw [takeTurn, takeTurn, ← hs.gateTaken]
      split
      · exact .none
      · exact .some ⟨goOn_sameButCommands x i (h _) ⟨hs.store, rfl, hs.units, hs.workers⟩, .same _⟩
    | _ => exact .none

end Chance

namespace Crowd

variable {r : Runner} {secret : String} {s s' : Crowd}

/-- **A schedule leads two such crowds through the same turns**, but for the commands of units. -/
theorem follow_sameButCommands {cues : List Cue} (hc : ∀ cue ∈ cues, cue.IgnoresCommands)
    (hs : s.SameButCommands r (r.withSecret secret) s') :
    Option.Rel (fun y y' => y.1.SameButCommands r (r.withSecret secret) y'.1 ∧
        List.Forall₂ (Event.SameButCommands r (r.withSecret secret) y.1.errands) y.2 y'.2)
      (follow r cues s) (follow (r.withSecret secret) cues s') := by
  induction cues generalizing s s' with
  | nil => exact .some ⟨hs, .nil⟩
  | cons cue rest ih =>
    have hrest : ∀ cue ∈ rest, cue.IgnoresCommands := fun cue hcue =>
      hc cue (List.mem_cons_of_mem _ hcue)
    cases cue with
    | request e =>
      rw [follow, follow]
      split
      · exact ih hrest (hs.begin e)
      · exact .none
    | turn i x =>
      have hx : x.IgnoresCommands := hc _ List.mem_cons_self
      rw [follow, follow]
      refine rel_bind (rel_bind (hs.getElem? i) fun y y' hi hy =>
        Chance.takeTurn_sameButCommands hx hs hi hy) fun z z' hz hturn =>
        rel_map (ih hrest hturn.1) fun u u' hu hfollow => ⟨hfollow.1, .cons ?_ hfollow.2⟩
      -- places stand for their errands to the end
      have hfollow : follow r (.turn i x :: rest) s = some (u.1, z.2 :: u.2) := by
        rw [follow, hz, Option.bind_some, hu, Option.map_some]
      exact hturn.2.mono (reachable_of_follow hfollow).errands_isPrefix

/-! ## The secret shows in commands alone -/

/-- Two services have stored the same, on the same errands, and have told the same to whoever has
come; and the turns that were taken are the same but for the commands of units. -/
structure Alike (r r' : Runner) (y y' : Crowd × List Event) : Prop where
  store : y.1.store = y'.1.store
  errands : y.1.errands = y'.1.errands
  answers : ∀ (i : Nat) (e : Errand) (a : e.Result),
    y.1.workers[i]? = some ⟨e, .done a⟩ ↔ y'.1.workers[i]? = some ⟨e, .done a⟩
  turns : List.Forall₂ (Event.SameButCommands r r' y.1.errands) y.2 y'.2

theorem SameButCommands.alike {r' : Runner} {t t' : List Event} (hs : s.SameButCommands r r' s')
    (ht : List.Forall₂ (Event.SameButCommands r r' s.errands) t t') :
    Alike r r' (s, t) (s', t') where
  store := hs.store
  errands := hs.errands
  answers i e a := by
    have hget := hs.getElem? i
    revert hget
    generalize s.workers[i]? = o, s'.workers[i]? = o'
    intro hget
    cases hget with
    | none => exact ⟨nofun, nofun⟩
    | some hx => rw [Option.some_inj, Option.some_inj, hx.done_iff]
  turns := ht

/-- **The secret shows in commands alone.**  Let two services differ in their secret only, and let
them follow the same schedule, with a backend that takes no notice of commands; every history follows
such a schedule.  Then both are stuck, or they are alike: at every point of the schedule, as it may
end anywhere.  The commands are the same, also when the address of a repository is put into them, for
all tests that do not ask for the secret; and the diagnostic texts are the same. -/
theorem secret_shows_in_commands_alone (r : Runner) (secret : String) (m : Store.Memory) :
    (∀ w t s, History r w (.idle m) t s → ∃ cues : List Cue,
      (∀ cue ∈ cues, cue.IgnoresCommands) ∧ follow r cues (.idle m) = some (s, t)) ∧
    (∀ cues : List Cue, (∀ cue ∈ cues, cue.IgnoresCommands) →
      Option.Rel (Alike r (r.withSecret secret)) (follow r cues (.idle m))
        (follow (r.withSecret secret) cues (.idle m))) ∧
    (∀ test : SecurityTest, Text.contains test.cmd SecurityTest.secretPlaceholder = false →
      r.command test = (r.withSecret secret).command test ∧
      ∀ ctx, Execution.renderCommand ctx (r.command test) =
        Execution.renderCommand ctx ((r.withSecret secret).command test)) ∧
    (r.withSecret secret).settings.debugText = r.settings.debugText ∧
    ∀ c : Config, (c.withSecret secret).debugText = c.debugText := by
  refine ⟨fun w t s h => exists_schedule h, fun cues hc => ?_, fun test htest => ?_, rfl,
    fun c => rfl⟩
  · have hstart : SameButCommands r (r.withSecret secret) (idle m) (idle m) :=
      sameButCommands_idle m
    exact rel_imp (follow_sameButCommands hc hstart) fun y y' h => h.1.alike h.2
  · have hcommand : r.command test = (r.withSecret secret).command test := by
      rw [Runner.command_of_not_contains htest, Runner.command_of_not_contains htest]
    exact ⟨hcommand, fun ctx => congrArg _ hcommand⟩

/-- The detector, with a command that asks for the secret. -/
def keyedDetector : SecurityTest :=
  { Script.sampleDetector with cmd := SecurityTest.secretPlaceholder }

/-- A store in which it is the only test. -/
def keyedStore : Store.Memory := ⟨[Script.sampleRepository], [keyedDetector], []⟩

/-- An analysis is admitted, and the run of the detector gets its unit. -/
def keyedSchedule : List Cue :=
  .request (.analyse Script.sampleRepository.url) ::
    (List.replicate 5 (.turn 0 (.ofScript .sample [])) ++
      List.replicate 2 (.turn 1 (.ofScript .sample [])))

/-- That unit of the detector. -/
def keyedCreation (command : String) : Event :=
  ⟨1, .backend (.createUnit ⟨.zero, Script.sampleRepository.url⟩ keyedDetector.imageRef command),
    .ok "first"⟩

/-- Two services create it with their secrets, and are alike for the rest. -/
theorem secret_shows_in_commands_alone_sample : ∃ y y' : Crowd × List Event,
    follow Script.sampleRunner keyedSchedule (.idle keyedStore) = some y ∧
    follow (Script.sampleRunner.withSecret "key") keyedSchedule (.idle keyedStore) = some y' ∧
    y.2.getLast? = some (keyedCreation "") ∧ y'.2.getLast? = some (keyedCreation "key") ∧
    Alike Script.sampleRunner (Script.sampleRunner.withSecret "key") y y' := by
  obtain ⟨y, y', hy, hy', hlast, hlast'⟩ : ∃ y y' : Crowd × List Event,
      follow Script.sampleRunner keyedSchedule (.idle keyedStore) = some y ∧
      follow (Script.sampleRunner.withSecret "key") keyedSchedule (.idle keyedStore) = some y' ∧
      y.2.getLast? = some (keyedCreation "") ∧ y'.2.getLast? = some (keyedCreation "key") :=
    ⟨_, _, rfl, rfl, rfl, rfl⟩
  have hcues : ∀ cue ∈ keyedSchedule, cue.IgnoresCommands := by
    intro cue hcue
    simp only [keyedSchedule, List.mem_cons, List.mem_append, List.mem_replicate] at hcue
    rcases hcue with rfl | ⟨-, rfl⟩ | ⟨-, rfl⟩
    · exact True.intro
    all_goals exact fun _ _ _ _ => rfl
  have halike :=
    (secret_shows_in_commands_alone Script.sampleRunner "key" keyedStore).2.1 keyedSchedule hcues
  rw [hy, hy'] at halike
  cases halike with
  | some halike => exact ⟨y, y', hy, hy', hlast, hlast', halike⟩

end Crowd
end Service
end ScanService
