import Mathlib.Algebra.GroupWithZero.Nat
import Mathlib.Data.List.Perm.Subperm
import ScanService.Proofs.Conversations
import ScanService.Proofs.Forms
import ScanService.Proofs.Schedule

/-!
# Boots of the service

Each boot registers the built-in tests that are missing: it looks for one after the other, and inserts
what it has not found.  Between looking and inserting others may come first.  Then the store refuses,
and the boot goes on as if it had found the test.  So of boots that take turns each missing test is
inserted by one, whichever comes first, and by no other; and because all of them go through the tests
in one order, the tests stand in that order in the end.

## What is here

* `Boot` — where a boot stands; `Boot.Step` is the chart of its turns.
* `Boot.exists_step` — **what a boot does in a turn is a step of the chart.**
* `Booting` — what holds of the store and the boots at all times; `Booting.step` carries it along.
* `builtins_inserted_once` — **the built-in tests are inserted once each, however many boots there
  are.**
-/

namespace ScanService
namespace Service

open Crowd (Event History Turn)
open Store (Memory)

/-! ## Where a boot stands -/

/-- What is left to do when these names have been registered, and these tests are to be looked at. -/
def remaining (registered : List String) (tests : List SecurityTest) :
    Task (Except ServiceError (List String)) :=
  (ensureTests tests).bind fun ensured => .done
    (match ensured.failure with
      | some e => .error e
      | none => .ok (registered ++ ensured.registered))

/-- A task that does not fail, and then an action. -/
theorem run_ofTask_bind {α β : Type} (t : Task α) (next : α → Action β) :
    (Action.ofTask t >>= next).run = t.bind fun x => (next x).run :=
  Program.bind_assoc t _ _

/-- A boot has all built-in tests to look at. -/
theorem ensureDefaults_eq : ensureDefaults.run = remaining [] builtinTests := by
  rw [ensureDefaults, run_ofTask_bind, remaining]
  refine congrArg _ (funext fun ensured => ?_)
  obtain ⟨registered, _ | e⟩ := ensured <;> rfl

@[simp] theorem remaining_nil (registered : List String) :
    remaining registered [] = .done (.ok registered) := by
  simp [remaining, ensureTests]

/-- What is left when the first of the tests has not been found. -/
def insertion (registered : List String) (test : SecurityTest) (rest : List SecurityTest) :
    Task (Except ServiceError (List String)) :=
  .ask (I := activity) (.store (.insertSecurityTest test)) fun
    | .ok _ => remaining (registered ++ [test.name]) rest
    | .error e => if e.isConflict then remaining registered rest else .done (.error e)

/-- One test: a boot looks for it, and inserts it if there is none of its name. -/
theorem run_ensureTest (test : SecurityTest) : (ensureTest test).run =
    .ask (I := activity) (.store (.findSecurityTest (.name test.name))) fun
      | .ok (some _) => .done (.ok [])
      | .ok none => .ask (I := activity) (.store (.insertSecurityTest test)) fun
        | .ok _ => .done (.ok [test.name])
        | .error e => .done (if e.isConflict then .ok [] else .error e)
      | .error e => .done (.error e) := by
  change Program.ask _ _ = _
  refine congrArg _ (funext fun answer => ?_)
  rcases answer with e | _ | found
  · rfl
  · change Program.ask _ _ = _
    refine congrArg _ (funext fun answer => ?_)
    rcases answer with e | u
    · change (if e.isConflict then pure [] else throw e : Action (List String)).run =
        .done (if e.isConflict then .ok [] else .error e)
      cases e.isConflict <;> rfl
    · rfl
  · rfl

/-- It looks for the first of the tests. -/
theorem remaining_cons (registered : List String) (test : SecurityTest) (rest : List SecurityTest) :
    remaining registered (test :: rest) =
      .ask (I := activity) (.store (.findSecurityTest (.name test.name))) fun
        | .ok (some _) => remaining registered rest
        | .ok none => insertion registered test rest
        | .error e => .done (.error e) := by
  have hgoes (names : List String) :
      ((ensureTests rest).bind fun more =>
        (.done { more with registered := names ++ more.registered } : Task Ensured)).bind
          (fun ensured => .done (match ensured.failure with
            | some e => .error e
            | none => .ok (registered ++ ensured.registered))) =
        remaining (registered ++ names) rest := by
    rw [Program.bind_assoc, remaining]
    simp only [Program.bind_done, List.append_assoc]
  rw [remaining, ensureTests, Program.bind_eq_bind, Program.bind_assoc, run_ensureTest,
    Program.bind_ask]
  refine congrArg _ (funext fun answer => ?_)
  rcases answer with e | _ | found
  · rfl
  · rw [Program.bind_ask, insertion]
    refine congrArg _ (funext fun answer => ?_)
    rcases answer with e | u
    · cases he : e.isConflict with
      | true =>
        simp only [Program.bind_done, he, if_true]
        exact (hgoes []).trans (by rw [List.append_nil])
      | false =>
        simp only [Program.bind_done, he]
        rfl
    · exact hgoes [test.name]
  · exact (hgoes []).trans (by rw [List.append_nil])

/-- Where a boot stands: what it has registered, and what it is about to do. -/
inductive Boot where
  /-- It is about to look for the first of some tests; if there are none it has ended. -/
  | looking (registered : List String) (ahead : List SecurityTest)
  /-- It has not found a test and is about to insert it. -/
  | inserting (registered : List String) (test : SecurityTest) (rest : List SecurityTest)

namespace Boot

/-- The names of the tests that it has registered. -/
def registered : Boot → List String
  | looking registered _ | inserting registered _ _ => registered

/-- The tests that it has not dealt with. -/
def ahead : Boot → List SecurityTest
  | looking _ ahead => ahead
  | inserting _ test rest => test :: rest

/-- What is left to do. -/
def task : Boot → Task (Except ServiceError (List String))
  | looking registered ahead => remaining registered ahead
  | inserting registered test rest => insertion registered test rest

/-- The worker that does it. -/
def worker (b : Boot) : Worker := ⟨.ensureDefaults, b.task⟩

/-- How many turns it will take at most. -/
def turnsLeft : Boot → ℕ
  | looking _ ahead => 2 * ahead.length
  | inserting _ _ rest => 2 * rest.length + 1

/-- A boot that has not begun. -/
def fresh : Boot := looking [] builtinTests

theorem worker_fresh (r : Runner) : fresh.worker = .begin r .ensureDefaults := by
  rw [fresh, worker, task, ← ensureDefaults_eq]
  rfl

/-- The chart of a boot: what it finds in the store, and what it makes of it. -/
inductive Step (m : Memory) : Boot → Boot → Memory → Prop where
  /-- A test is there and is passed over. -/
  | found {registered : List String} {test : SecurityTest} {rest : List SecurityTest}
    (h : test.name ∈ m.securityTests.map (·.name)) :
    Step m (looking registered (test :: rest)) (looking registered rest) m
  /-- A test is missing. -/
  | missed {registered : List String} {test : SecurityTest} {rest : List SecurityTest}
    (h : test.name ∉ m.securityTests.map (·.name)) :
    Step m (looking registered (test :: rest)) (inserting registered test rest) m
  /-- A missing test is inserted. -/
  | inserted {registered : List String} {test : SecurityTest} {rest : List SecurityTest}
    (h : test.name ∉ m.securityTests.map (·.name)) :
    Step m (inserting registered test rest) (looking (registered ++ [test.name]) rest)
      { m with securityTests := m.securityTests ++ [test] }
  /-- Somebody else has come first. -/
  | refused {registered : List String} {test : SecurityTest} {rest : List SecurityTest}
    (h : test.name ∈ m.securityTests.map (·.name)) :
    Step m (inserting registered test rest) (looking registered rest) m

/-! ## Turns of a boot -/

variable {r : Runner} {w : Surroundings} {s s' s₁ : Crowd} {b b' : Boot} {i : ℕ} {q : Call}
  {answer : q.Answer} {m m' : Memory}

/-- A boot stops at every question. -/
theorem settles_task_iff {t : Task (Except ServiceError (List String))} :
    Crowd.Settles r b.task s t s' ↔ t = b.task ∧ s' = s := by
  cases b with
  | looking registered ahead =>
    cases ahead with
    | nil => rw [task, remaining_nil, Crowd.settles_done_iff]
    | cons test rest => rw [task, remaining_cons, Crowd.settles_turn_iff rfl]
  | inserting registered test rest => rw [task, insertion, Crowd.settles_turn_iff rfl]

/-- Nothing is found by a name that no test has. -/
theorem find?_eq_none_iff {name : String} : m.securityTests.find? (·.name == name) = none ↔
    name ∉ m.securityTests.map (·.name) := by
  simp [List.find?_eq_none]

/-- **What a boot does in a turn is a step of the chart.** -/
theorem exists_step_of_answers {e : Errand} {next : q.Answer → Task e.Result} {t : Task e.Result}
    (hb : b.worker = ⟨e, .ask (I := activity) q next⟩)
    (ha : Crowd.Answers w.reliable s q answer s₁) (ht : Crowd.Settles r (next answer) s₁ t s') :
    ∃ b', b.Step s.store b' s'.store ∧ ⟨e, t⟩ = b'.worker ∧ s'.workers = s.workers := by
  cases b with
  | looking registered ahead =>
    cases ahead with
    | nil =>
      rw [worker, task, remaining_nil] at hb
      cases hb
    | cons test rest =>
      rw [worker, task, remaining_cons] at hb
      cases hb
      cases ha with
      | store h =>
        have hanswer := (w.stores_reliable h).trans (answer_findSecurityTest_name _ _)
        cases hanswer
        cases hfind : s.store.securityTests.find? (·.name == test.name) with
        | none =>
          rw [hfind] at ht
          obtain ⟨rfl, rfl⟩ := (settles_task_iff (b := .inserting registered test rest)).mp ht
          exact ⟨_, .missed (find?_eq_none_iff.mp hfind), rfl, rfl⟩
        | some found =>
          rw [hfind] at ht
          obtain ⟨rfl, rfl⟩ := (settles_task_iff (b := .looking registered rest)).mp ht
          refine ⟨_, .found ?_, rfl, rfl⟩
          by_contra hmissing
          rw [find?_eq_none_iff.mpr hmissing] at hfind
          cases hfind
  | inserting registered test rest =>
    rw [worker, task, insertion] at hb
    cases hb
    cases ha with
    | store h =>
      have hanswer := (w.stores_reliable h).trans (answer_insertSecurityTest _ _)
      split at hanswer
      · next htaken =>
        cases hanswer
        obtain ⟨rfl, rfl⟩ := (settles_task_iff (b := .looking registered rest)).mp ht
        exact ⟨_, .refused htaken, rfl, rfl⟩
      · next hfree =>
        cases hanswer
        obtain ⟨rfl, rfl⟩ :=
          (settles_task_iff (b := .looking (registered ++ [test.name]) rest)).mp ht
        exact ⟨_, .inserted hfree, rfl, rfl⟩

/-- **Of some boots, one goes on by the chart in each turn,** and the others stay where they are. -/
theorem exists_step {boots : List Boot} (hs : s.workers = boots.map worker)
    (h : Turn r w.reliable i q answer s s') :
    ∃ before b b' behind, boots = before ++ b :: behind ∧ before.length = i ∧
      b.Step s.store b' s'.store ∧ s'.workers = (before ++ b' :: behind).map worker := by
  obtain ⟨hi, ha, ht⟩ := h
  rw [hs, List.getElem?_map, Option.map_eq_some_iff] at hi
  obtain ⟨b, hi, hb⟩ := hi
  obtain ⟨before, behind, rfl, rfl⟩ := Store.exists_append_of_getElem? hi
  obtain ⟨b', hstep, hb', hworkers⟩ := exists_step_of_answers hb ha ht
  refine ⟨before, b, b', behind, rfl, rfl, hstep, ?_⟩
  rw [Crowd.resume, hworkers, hs, hb']
  simp

/-- A boot that has not ended can take a turn. -/
theorem ended_or_exists_turn (hi : s.workers[i]? = some b.worker) :
    (∃ registered, b = looking registered []) ∨ ∃ q answer s', Turn r w i q answer s s' := by
  have hstore {c : Store.Call} {next : c.Answer → Task (Except ServiceError (List String))}
      (hb : b.worker = ⟨.ensureDefaults, .ask (I := activity) (.store c) next⟩) :
      ∃ q answer s', Turn r w i q answer s s' :=
    ⟨_, _, _, .intro (hb ▸ hi) (.store (.inl rfl)) (Crowd.settles_settle (d := Script.sample) _ _)⟩
  cases b with
  | looking registered ahead =>
    cases ahead with
    | nil => exact .inl ⟨registered, rfl⟩
    | cons test rest => exact .inr (hstore (by rw [worker, task, remaining_cons]))
  | inserting registered test rest => exact .inr (hstore rfl)

namespace Step

/-- A step brings a boot nearer to its end. -/
theorem turnsLeft_lt (h : b.Step m b' m') : b'.turnsLeft < b.turnsLeft := by
  cases h with
  | found | refused => simp only [turnsLeft, List.length_cons]; omega
  | missed => simp only [turnsLeft, List.length_cons]; omega
  | inserted => simp only [turnsLeft]; omega

/-- Either nothing is inserted, or the next test is, because it is missing. -/
theorem cases_store (h : b.Step m b' m') :
    (m' = m ∧ b'.registered = b.registered) ∨
      ∃ test rest, b.ahead = test :: rest ∧ test.name ∉ m.securityTests.map (·.name) ∧
        m' = { m with securityTests := m.securityTests ++ [test] } ∧
        b'.registered = b.registered ++ [test.name] := by
  cases h with
  | found | missed | refused => exact .inl ⟨rfl, rfl⟩
  | inserted h => exact .inr ⟨_, _, rfl, h, rfl, rfl⟩

/-- No test is taken away. -/
theorem securityTests_isPrefix (h : b.Step m b' m') : m.securityTests <+: m'.securityTests := by
  rcases h.cases_store with ⟨rfl, -⟩ | ⟨test, rest, -, -, rfl, -⟩
  · exact List.prefix_refl _
  · exact List.prefix_append _ _

/-- A boot goes on to the next test when the one at hand is registered, and not before. -/
theorem ahead_cases (h : b.Step m b' m') : b'.ahead = b.ahead ∨
    ∃ test, b.ahead = test :: b'.ahead ∧ test.name ∈ m'.securityTests.map (·.name) := by
  cases h with
  | missed => exact .inl rfl
  | found h | refused h => exact .inr ⟨_, rfl, h⟩
  | inserted => exact .inr ⟨_, rfl, by simp⟩

end Step

end Boot

/-! ## What holds at all times -/

/-- The built-in tests that a store does not have. -/
def missingFrom (m : Memory) : List SecurityTest :=
  builtinTests.filter fun test => test.name ∉ m.securityTests.map (·.name)

/-- A boot has come as far as to where the tests that it has dealt with are registered. -/
def Boot.HasDealt (m : Memory) (b : Boot) : Prop :=
  ∃ dealt, dealt ++ b.ahead = builtinTests ∧
    ∀ test ∈ dealt, test.name ∈ m.securityTests.map (·.name)

/-- Some boots have begun with one store and stand where they stand in another. -/
structure Booting (m : Memory) (boots : List Boot) (m' : Memory) : Prop where
  /-- The first of the missing tests have been inserted, each by one of the boots. -/
  store : ∃ added, m' = { m with securityTests := m.securityTests ++ added } ∧
    added <+: missingFrom m ∧ (boots.flatMap (·.registered)).Perm (added.map (·.name))
  /-- What a boot has dealt with is registered. -/
  boots : ∀ b ∈ boots, b.HasDealt m'

/-- No two built-in tests have one name. -/
theorem nodup_names_builtinTests : (builtinTests.map (·.name)).Nodup := by decide

section Booting

variable {m m' m'' : Memory} {boots before behind : List Boot} {b b' : Boot}
  {added : List SecurityTest}

/-- A list that goes on with one that is not there yet is all that comes before it. -/
theorem eq_of_isPrefix_append_cons {α : Type} {xs ys zs : List α} {x : α}
    (h : xs <+: ys ++ x :: zs) (hx : x ∉ xs) (hys : ys ⊆ xs) (hnodup : ys.Nodup) : xs = ys := by
  rcases Nat.lt_or_ge ys.length xs.length with hlt | hle
  · -- then what comes next is there
    have hall : ys ++ [x] <+: ys ++ x :: zs :=
      (List.prefix_append_right_inj ys).mpr ⟨zs, rfl⟩
    have hmore : ys ++ [x] <+: xs :=
      List.prefix_of_prefix_length_le hall h (by rw [List.length_append]; exact hlt)
    exact absurd (hmore.subset (List.mem_append_right _ List.mem_cons_self)) hx
  · have hxs : xs <+: ys := List.prefix_of_prefix_length_le h (List.prefix_append _ _) hle
    exact hxs.eq_of_length_le (List.subperm_of_subset hnodup hys).length_le

/-- What has been dealt with and was missing has been added. -/
theorem mem_added_of_hasDealt {test : SecurityTest} (hadded : added <+: missingFrom m)
    (htest : test ∈ missingFrom m)
    (hname : test.name ∈ (m.securityTests ++ added).map (·.name)) : test ∈ added := by
  obtain ⟨hbuiltin, hmissing⟩ := List.mem_filter.mp htest
  rw [List.map_append, List.mem_append, or_iff_right (by simpa using hmissing)] at hname
  obtain ⟨test', htest', he⟩ := List.mem_map.mp hname
  have hbuiltin' := List.mem_of_mem_filter (hadded.subset htest')
  rwa [← List.inj_on_of_nodup_map nodup_names_builtinTests hbuiltin' hbuiltin he]

/-- **A test that a boot inserts is the next of the missing ones.** -/
theorem isPrefix_concat_missingFrom {dealt rest : List SecurityTest} {test : SecurityTest}
    (hadded : added <+: missingFrom m) (hall : dealt ++ test :: rest = builtinTests)
    (hdealt : ∀ t ∈ dealt, t.name ∈ (m.securityTests ++ added).map (·.name))
    (htest : test.name ∉ (m.securityTests ++ added).map (·.name)) :
    added ++ [test] <+: missingFrom m := by
  have hmissing : missingFrom m =
      dealt.filter (fun t => t.name ∉ m.securityTests.map (·.name)) ++
        test :: rest.filter (fun t => t.name ∉ m.securityTests.map (·.name)) := by
    rw [missingFrom, ← hall, List.filter_append, List.filter_cons_of_pos]
    exact decide_eq_true fun h => htest (by simpa using .inl (by simpa using h))
  have hadd : added = dealt.filter fun t => t.name ∉ m.securityTests.map (·.name) := by
    refine eq_of_isPrefix_append_cons (hmissing ▸ hadded) ?_ ?_ ?_
    · intro hmem
      exact htest (List.mem_map_of_mem (List.mem_append_right _ hmem))
    · intro t ht
      have hmem : t ∈ missingFrom m := hmissing ▸ List.mem_append_left _ ht
      exact mem_added_of_hasDealt hadded hmem (hdealt t (List.mem_of_mem_filter ht))
    · have hbuiltin : builtinTests.Nodup := .of_map _ nodup_names_builtinTests
      exact (List.nodup_append.mp (hall ▸ hbuiltin)).1.filter _
  rw [hmissing, ← hadd]
  exact (List.prefix_append_right_inj added).mpr ⟨_, rfl⟩

theorem Boot.HasDealt.mono (h : b.HasDealt m) (hm : m.securityTests <+: m'.securityTests) :
    b.HasDealt m' := by
  obtain ⟨dealt, hall, hdealt⟩ := h
  exact ⟨dealt, hall, fun test htest => (hm.map _).subset (hdealt test htest)⟩

/-- A boot that goes on has dealt with what it leaves behind. -/
theorem Boot.HasDealt.step (h : b.HasDealt m) (hstep : b.Step m b' m') : b'.HasDealt m' := by
  obtain ⟨dealt, hall, hdealt⟩ := h.mono hstep.securityTests_isPrefix
  rcases hstep.ahead_cases with he | ⟨test, he, htest⟩
  · exact ⟨dealt, he ▸ hall, hdealt⟩
  · refine ⟨dealt ++ [test], by rw [List.append_assoc, List.singleton_append, ← he, hall], ?_⟩
    intro t ht
    rcases List.mem_append.mp ht with ht | ht
    · exact hdealt t ht
    · rwa [List.mem_singleton.mp ht]

/-- **A step keeps it so.** -/
theorem Booting.step (h : Booting m (before ++ b :: behind) m') (hstep : b.Step m' b' m'') :
    Booting m (before ++ b' :: behind) m'' where
  store := by
    obtain ⟨added, rfl, hadded, hperm⟩ := h.store
    rcases hstep.cases_store with ⟨rfl, he⟩ | ⟨test, rest, hahead, hfree, rfl, he⟩
    · exact ⟨added, rfl, hadded, by simpa [he] using hperm⟩
    · obtain ⟨dealt, hall, hdealt⟩ := h.boots b (by simp)
      refine ⟨added ++ [test], by rw [← List.append_assoc], ?_, ?_⟩
      · exact isPrefix_concat_missingFrom hadded (hahead ▸ hall) hdealt hfree
      · have hlast : ((before ++ b' :: behind).flatMap (·.registered)).Perm
            ((before ++ b :: behind).flatMap (·.registered) ++ [test.name]) := by
          simp only [List.flatMap_append, List.flatMap_cons, he, List.append_assoc,
            List.singleton_append, List.perm_append_left_iff]
          exact (List.perm_append_singleton _ _).symm
        rw [List.map_append, List.map_singleton]
        exact hlast.trans (hperm.append_right _)
  boots x hx := by
    rw [List.mem_append, List.mem_cons] at hx
    have hothers : x ∈ before ∨ x ∈ behind → x.HasDealt m'' := fun hx =>
      (h.boots x (by rcases hx with hx | hx <;> simp [hx])).mono hstep.securityTests_isPrefix
    rcases hx with hx | rfl | hx
    · exact hothers (.inl hx)
    · exact (h.boots b (by simp)).step hstep
    · exact hothers (.inr hx)

/-- Before anybody has come, it is so. -/
theorem booting_nil (m : Memory) : Booting m [] m where
  store := ⟨[], by rw [List.append_nil], List.nil_prefix, .nil⟩
  boots := by simp

/-- Whoever comes has dealt with nothing yet. -/
theorem Booting.begin (h : Booting m boots m') : Booting m (boots ++ [.fresh]) m' where
  store := by
    obtain ⟨added, hm', hadded, hperm⟩ := h.store
    exact ⟨added, hm', hadded, by simpa [Boot.fresh, Boot.registered] using hperm⟩
  boots b hb := by
    rcases List.mem_append.mp hb with hb | hb
    · exact h.boots b hb
    · rw [List.mem_singleton.mp hb]
      exact ⟨[], rfl, by simp⟩

/-- **When a boot has ended, all missing tests have been added.** -/
theorem Booting.store_eq (h : Booting m boots m') {registered : List String}
    (hended : .looking registered [] ∈ boots) :
    (∀ test ∈ builtinTests, test.name ∈ m'.securityTests.map (·.name)) ∧
      m' = { m with securityTests := m.securityTests ++ missingFrom m } ∧
      (boots.flatMap (·.registered)).Perm ((missingFrom m).map (·.name)) := by
  obtain ⟨dealt, hall, hdealt⟩ := h.boots _ hended
  obtain rfl : dealt = builtinTests := (List.append_nil dealt).symm.trans hall
  obtain ⟨added, rfl, hadded, hperm⟩ := h.store
  have hsubset : missingFrom m ⊆ added := fun test htest =>
    mem_added_of_hasDealt hadded htest (hdealt test (List.mem_of_mem_filter htest))
  have hnodup : (missingFrom m).Nodup := (List.Nodup.of_map _ nodup_names_builtinTests).filter _
  have hadd : added = missingFrom m :=
    hadded.eq_of_length_le (List.subperm_of_subset hnodup hsubset).length_le
  exact ⟨hdealt, by rw [hadd], hadd ▸ hperm⟩

end Booting

/-! ## Boots that take turns -/

section Histories

variable {r : Runner} {w : Surroundings} {m : Memory} {t : List Event} {s : Crowd} {d : Script}

/-- **Whatever the order of their turns, boots stand as they should,** and none takes more turns than
two for each test. -/
theorem exists_booting (h : History r w.reliable (.idle m) t s)
    (hboots : ∀ e ∈ s.errands, e = .ensureDefaults) :
    ∃ boots : List Boot, s.workers = boots.map Boot.worker ∧ Booting m boots s.store ∧
      ∀ (i : ℕ) (b : Boot), boots[i]? = some b →
        (Crowd.turnsOf i t).length + b.turnsLeft ≤ 2 * builtinTests.length := by
  induction h with
  | start => exact ⟨[], rfl, booting_nil m, by simp⟩
  | @request t s e hhist he ih =>
    rw [Crowd.errands_begin] at hboots
    obtain rfl := hboots e (by simp)
    obtain ⟨boots, hworkers, hbooting, hturns⟩ := ih fun e he => hboots e (by simp [he])
    refine ⟨boots ++ [.fresh], ?_, hbooting.begin, fun i b hb => ?_⟩
    · rw [Crowd.begin, hworkers, List.map_append, List.map_singleton, Boot.worker_fresh]
    · rw [List.getElem?_append] at hb
      split at hb
      · exact hturns i b hb
      · next hi =>
        -- nobody has had a turn in this place
        obtain rfl := List.mem_singleton.mp (List.mem_of_getElem? hb)
        have hnone : Crowd.turnsOf i t = [] := by
          refine List.filter_eq_nil_iff.mpr fun x hx hplace => ?_
          have hgathered : History r w.reliable (Crowd.gathered r m []) t s := hhist
          have hlt := hgathered.converses.places x hx
          rw [hworkers, List.length_map, beq_iff_eq.mp hplace] at hlt
          exact hi hlt
        simp [hnone, Boot.fresh, Boot.turnsLeft]
  | @turn t s s' i q answer hhist hturn ih =>
    obtain ⟨boots, hworkers, hbooting, hturns⟩ := ih fun e he =>
      hboots e (hturn.step.errands_isPrefix.subset he)
    obtain ⟨before, b, b', behind, rfl, rfl, hstep, hworkers'⟩ := Boot.exists_step hworkers hturn
    refine ⟨before ++ b' :: behind, hworkers', hbooting.step hstep, fun j x hj => ?_⟩
    by_cases hij : before.length = j
    · subst hij
      obtain rfl : b' = x := by simpa using hj
      have hle := hturns before.length b (by simp)
      have hlt := hstep.turnsLeft_lt
      rw [Crowd.turnsOf_concat_self, List.length_append, List.length_singleton]
      omega
    · rw [Crowd.turnsOf_concat_of_ne hij]
      have hset : before ++ b' :: behind = (before ++ b :: behind).set before.length b' := by simp
      rw [hset, List.getElem?_set_ne hij] at hj
      exact hturns j x hj

/-- Tests that are all registered are passed over. -/
theorem run_remaining {tests : List SecurityTest} {registered : List String}
    (h : ∀ test ∈ tests, test.name ∈ m.securityTests.map (·.name)) :
    Program.run (serve d) (remaining registered tests) m = (.ok registered, m) := by
  induction tests with
  | nil => rw [remaining_nil, Program.run]
  | cons test rest ih =>
    obtain ⟨htest, hrest⟩ := List.forall_mem_cons.mp h
    cases hfind : m.securityTests.find? (·.name == test.name) with
    | none => exact absurd htest (Boot.find?_eq_none_iff.mp hfind)
    | some found =>
      have hanswer : serve d (.store (.findSecurityTest (.name test.name))) m =
          (.ok (some found), m) := hfind ▸ answer_findSecurityTest_name m test.name
      rw [remaining_cons, Program.run, hanswer]
      exact ih hrest

/-- Where all built-in tests are registered, a boot registers nothing. -/
theorem ensureDefaults_runIn (h : ∀ test ∈ builtinTests, test.name ∈ m.securityTests.map (·.name)) :
    ensureDefaults.runIn d m = (.ok [], m) := by
  rw [Action.runIn, ensureDefaults_eq, run_remaining h]

/-- Boots that have ended are known by what they have registered. -/
theorem eq_map_looking {boots : List Boot} {results : List (List String)}
    (h : boots.map Boot.worker =
      results.map fun names => ⟨.ensureDefaults, .done (.ok names)⟩) :
    boots = results.map fun names => .looking names [] := by
  induction boots generalizing results with
  | nil =>
    obtain rfl := List.map_eq_nil_iff.mp h.symm
    rfl
  | cons b rest ih =>
    obtain ⟨names, more, rfl, hb, hrest⟩ := List.map_eq_cons_iff.mp h.symm
    rw [ih hrest.symm, List.map_cons]
    congr 1
    cases b with
    | looking registered ahead =>
      cases ahead with
      | nil =>
        rw [Boot.worker, Boot.task, remaining_nil] at hb
        cases hb
        rfl
      | cons test ahead =>
        rw [Boot.worker, Boot.task, remaining_cons] at hb
        cases hb
    | inserting registered test ahead => cases hb

/-- The names in a store to which the missing tests have been added are all different. -/
theorem nodup_names_append_missingFrom (hm : (m.securityTests.map (·.name)).Nodup) :
    ((m.securityTests ++ missingFrom m).map (·.name)).Nodup := by
  rw [List.map_append, List.nodup_append]
  refine ⟨hm, nodup_names_builtinTests.sublist (List.filter_sublist.map _), ?_⟩
  rintro name hname _ hmissing rfl
  obtain ⟨test, htest, rfl⟩ := List.mem_map.mp hmissing
  simpa [hname] using (List.mem_filter.mp htest).2

/-- **However many boots there are and however they take turns, each built-in test is inserted once.**

Let the names in a store be different, let nobody but boots use it, and let no call fail of itself.
Then none of the boots takes more turns than two for each built-in test, and one that has not ended
well can take a turn.  At all times the store is what it was, with the first of the missing tests
behind.  When all boots have ended, these are all missing tests, each built-in name is registered once,
and what the boots have registered comes to the missing tests.  Whatever happens from then on, one more
boot registers nothing and leaves the store as it is. -/
theorem builtins_inserted_once (hm : (m.securityTests.map (·.name)).Nodup)
    (h : History r w.reliable (.idle m) t s) (hboots : ∀ e ∈ s.errands, e = .ensureDefaults) :
    (∀ (i : ℕ) (x : Worker), s.workers[i]? = some x →
      (Crowd.turnsOf i t).length ≤ 2 * builtinTests.length ∧
      ((∃ names, x = ⟨.ensureDefaults, .done (.ok names)⟩) ∨
        ∃ q answer s', Turn r w.reliable i q answer s s')) ∧
    (∃ added, added <+: missingFrom m ∧
      s.store = { m with securityTests := m.securityTests ++ added }) ∧
    ∀ results : List (List String), results ≠ [] →
      s.workers = results.map (fun names => ⟨.ensureDefaults, .done (.ok names)⟩) →
      s.store = { m with securityTests := m.securityTests ++ missingFrom m } ∧
      (∀ test ∈ builtinTests, (s.store.securityTests.map (·.name)).count test.name = 1) ∧
      (results.map (·.length)).sum = (missingFrom m).length ∧
      results.flatten.Perm ((missingFrom m).map (·.name)) ∧
      ∀ (d : Script) (later : List Store.Call),
        ensureDefaults.runIn d (s.store.after later) = (.ok [], s.store.after later) := by
  obtain ⟨boots, hworkers, hbooting, hturns⟩ := exists_booting h hboots
  refine ⟨fun i x hx => ?turns, ?store, fun results hne hresults => ?ended⟩
  case turns =>
    obtain ⟨b, hb, rfl⟩ : ∃ b, boots[i]? = some b ∧ b.worker = x := by
      rwa [hworkers, List.getElem?_map, Option.map_eq_some_iff] at hx
    refine ⟨(Nat.le_add_right _ _).trans (hturns i b hb), ?_⟩
    refine (Boot.ended_or_exists_turn hx).imp_left ?_
    rintro ⟨registered, rfl⟩
    exact ⟨registered, by rw [Boot.worker, Boot.task, remaining_nil]⟩
  case store =>
    obtain ⟨added, hstore, hadded, -⟩ := hbooting.store
    exact ⟨added, hadded, hstore⟩
  case ended =>
    obtain rfl := eq_map_looking (hworkers.symm.trans hresults)
    obtain ⟨names, hnames⟩ := List.exists_mem_of_ne_nil _ hne
    obtain ⟨hall, hstore, hperm⟩ := hbooting.store_eq (List.mem_map_of_mem hnames)
    have hflatten : results.flatten.Perm ((missingFrom m).map (·.name)) := by
      rwa [List.flatMap_map, show (fun names => (Boot.looking names []).registered) = id from rfl,
        List.flatMap_id] at hperm
    refine ⟨hstore, fun test htest => ?_, ?_, hflatten, fun d later => ?_⟩
    · refine List.count_eq_one_of_mem ?_ (hall test htest)
      rw [hstore]
      exact nodup_names_append_missingFrom hm
    · rw [← List.length_flatten, hflatten.length_eq, List.length_map]
    · have hkept := (Memory.keeps_after s.store later).securityTests
      exact ensureDefaults_runIn fun test htest => (hkept.map _).subset (hall test htest)

end Histories

/-! ### A sample -/

namespace Script

/-- Two boots begin with a store that has two of the tests.  Both find the next one missing and the
second is faster; later the first is. -/
def twoBoots : List Move :=
  [.request .ensureDefaults, .request .ensureDefaults, .turn 0, .turn 1, .turn 0, .turn 1, .turn 1,
    .turn 0] ++ (List.replicate 7 [.turn 0, .turn 1]).flatten

/-- What the two boots lead to. -/
theorem follow_twoBoots : ∃ s t,
    Crowd.follow sampleRunner (sample.schedule twoBoots) (.idle sampleStore) = some (s, t) ∧
      s.errands = [.ensureDefaults, .ensureDefaults] ∧
      s.workers = [["safety", "brakeman", "retirejs"], ["gosec"]].map
        (fun names => ⟨.ensureDefaults, .done (.ok names)⟩) :=
  ⟨_, _, rfl, rfl, rfl⟩

end Script

/-- In the sample the four missing tests are inserted by two boots, and stand in order. -/
theorem builtins_inserted_once_sample : ∃ t s,
    History Script.sampleRunner Surroundings.arbitrary.reliable (.idle Script.sampleStore) t s ∧
      s.store.securityTests.map (·.name) =
        ["enry", "bandit", "gosec", "safety", "brakeman", "retirejs"] ∧
      ∀ d, ensureDefaults.runIn d s.store = (.ok [], s.store) := by
  obtain ⟨s, t, hs, herrands, hresults⟩ := Script.follow_twoBoots
  have hhist := Crowd.history_of_follow (w := Surroundings.arbitrary.reliable) .start hs
    (fun cue hcue => Script.isAllowedBy_of_mem_schedule hcue)
    (Surroundings.allow_of_forall (fun _ _ _ => True.intro) t _)
  obtain ⟨-, -, hended⟩ := builtins_inserted_once (by decide) hhist (by simp [herrands])
  obtain ⟨hstore, -, -, -, hlater⟩ := hended _ (by decide) hresults
  refine ⟨t, s, hhist, ?_, fun d => hlater d []⟩
  rw [hstore]
  decide

end Service
end ScanService
