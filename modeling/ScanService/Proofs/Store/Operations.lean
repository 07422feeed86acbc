import ScanService.Proofs.Store.Answers

/-!
# What sequences of calls make of a store

Whatever a store in memory is asked, one call after the other: its records have keys of their own, a
call that fails changes nothing, a record that is inserted goes behind the others, and an update
changes the first record of those it is meant for.  So a record stays in its place, under its key.

## What is here

* `ChangesFirst`, `ChangesFirstJob` — the changes that updates make, by what stands around them.
* `Call.Makes` — what a call is to make of a store when it succeeds.
* `Memory.Keeps` — what no call ever takes away; a preorder, so it holds of sequences of calls.
* `collections_stay_in_order` — all of this, for every sequence of calls to an empty store.
-/

namespace ScanService
namespace Store

/-! ## Sequences of calls -/

namespace Memory

/-- What is left of a store after some calls. -/
def after (m : Memory) (calls : List Call) : Memory := calls.foldl (fun m c => (m.answer c).2) m

/-- All of some calls succeed, one after the other. -/
def Grants (m : Memory) : List Call → Prop
  | [] => True
  | c :: rest => (m.answer c).1.isOk = true ∧ (m.answer c).2.Grants rest

variable {m : Memory} {c : Call} {calls later : List Call}

@[simp] theorem after_nil : m.after [] = m := rfl

@[simp] theorem after_cons : m.after (c :: calls) = (m.answer c).2.after calls := rfl

@[simp] theorem after_append : m.after (calls ++ later) = (m.after calls).after later := by
  simp [after]

theorem grants_append :
    m.Grants (calls ++ later) ↔ m.Grants calls ∧ (m.after calls).Grants later := by
  induction calls generalizing m with
  | nil => simp [Grants]
  | cons c rest ih => simp [Grants, ih, and_assoc]

end Memory

/-! ## Changes of one record -/

variable {α β : Type} {p : α → Bool} {f : α → α} {xs ys : List α} {x : α}

/-- The first element with a property is changed, and nothing else. -/
def ChangesFirst (p : α → Bool) (f : α → α) (xs ys : List α) : Prop :=
  ∃ before x behind, xs = before ++ x :: behind ∧ (∀ y ∈ before, p y = false) ∧ p x = true ∧
    ys = before ++ f x :: behind

theorem updateFirst_append {before behind : List α} (hb : ∀ y ∈ before, p y = false)
    (hx : p x = true) :
    updateFirst p f (before ++ x :: behind) = some (before ++ f x :: behind) := by
  induction before with
  | nil => simp [updateFirst, hx]
  | cons y rest ih =>
    have hrest := ih fun z hz => hb z (List.mem_cons_of_mem _ hz)
    simp [updateFirst, hb y List.mem_cons_self, hrest]

theorem updateFirst_eq_some_iff : updateFirst p f xs = some ys ↔ ChangesFirst p f xs ys := by
  constructor
  · intro h
    induction xs generalizing ys with
    | nil => cases h
    | cons x rest ih =>
      rw [updateFirst] at h
      by_cases hx : p x = true
      · rw [if_pos hx, Option.some_inj] at h
        exact ⟨[], x, rest, rfl, by simp, hx, h.symm⟩
      · rw [if_neg hx, Option.map_eq_some_iff] at h
        obtain ⟨rest', hrest, rfl⟩ := h
        obtain ⟨before, y, behind, rfl, hb, hy, rfl⟩ := ih hrest
        exact ⟨x :: before, y, behind, rfl, by simpa [hx] using hb, hy, rfl⟩
  · rintro ⟨before, x, behind, rfl, hb, hx, rfl⟩
    exact updateFirst_append hb hx

/-- A change that spares some part of elements spares it in lists. -/
theorem ChangesFirst.map_eq (h : ChangesFirst p f xs ys) (key : α → β)
    (hf : ∀ x, key (f x) = key x) : ys.map key = xs.map key := by
  obtain ⟨before, x, behind, rfl, -, -, rfl⟩ := h
  simp [hf]

/-- The first job with an identifier is changed, among the analyses that meet a filter, and nothing
else. -/
def ChangesFirstJob (f : Filter) (id : String) (p : JobPatch) (as as' : List Analysis) : Prop :=
  ∃ before a behind jobs, as = before ++ a :: behind ∧
    (∀ b ∈ before, f.accepts b = true → ∀ j ∈ b.jobs, j.executionId ≠ some id) ∧
    f.accepts a = true ∧ ChangesFirst (fun j => j.executionId == some id) p.apply a.jobs jobs ∧
    as' = before ++ { a with jobs := jobs } :: behind

theorem updateJobIn_eq_some_iff {g : Filter} {id : String} {q : JobPatch}
    {as as' : List Analysis} :
    updateJobIn g id q as = some as' ↔ ChangesFirstJob g id q as as' := by
  constructor
  · intro h
    induction as generalizing as' with
    | nil => cases h
    | cons a rest ih =>
      rw [updateJobIn] at h
      split at h
      · next jobs hjobs =>
        split at hjobs
        · next ha =>
          rw [updateFirst_eq_some_iff] at hjobs
          exact ⟨[], a, rest, jobs, rfl, by simp, ha, hjobs, (Option.some_inj.mp h).symm⟩
        · cases hjobs
      · next hnone =>
        obtain ⟨rest', hrest, rfl⟩ := Option.map_eq_some_iff.mp h
        obtain ⟨before, b, behind, jobs, rfl, hb, haccepts, hjobs, rfl⟩ := ih hrest
        refine ⟨a :: before, b, behind, jobs, rfl, ?_, haccepts, hjobs, rfl⟩
        rintro c (_ | ⟨_, hc⟩) hcaccepts
        · rw [if_pos hcaccepts, updateFirst_eq_none_iff, List.any_eq_false] at hnone
          simpa using hnone
        · exact hb c hc hcaccepts
  · rintro ⟨before, a, behind, jobs, rfl, hb, haccepts, hjobs, rfl⟩
    rw [← updateFirst_eq_some_iff] at hjobs
    induction before with
    | nil => simp [updateJobIn, haccepts, hjobs]
    | cons b rest ih =>
      have hrest := ih fun c hc => hb c (List.mem_cons_of_mem _ hc)
      -- where the filter is met, no job has the identifier
      have hnone : (if g.accepts b = true then
          updateFirst (fun j => j.executionId == some id) q.apply b.jobs else none) = none := by
        split
        · next hbaccepts =>
          rw [updateFirst_eq_none_iff, List.any_eq_false]
          simpa using hb b List.mem_cons_self hbaccepts
        · rfl
      simp [updateJobIn, hnone, hrest]

/-! ## What calls are to do -/

/-- What a call is to make of a store when it succeeds. -/
def Call.Makes (m m' : Memory) : Call → Prop
  | .insertRepository r => m' = { m with repositories := m.repositories ++ [r] }
  | .insertSecurityTest t => m' = { m with securityTests := m.securityTests ++ [t] }
  | .insertAnalysis a => m' = { m with analyses := m.analyses ++ [a] }
  | .updateRepository f p => ∃ rs, ChangesFirst f.accepts p.apply m.repositories rs ∧
      m' = { m with repositories := rs }
  | .updateAnalysis f p => ∃ as, ChangesFirst f.accepts p.apply m.analyses as ∧
      m' = { m with analyses := as }
  | .pushJob f j => ∃ as,
      ChangesFirst f.accepts (fun a => { a with jobs := a.jobs ++ [j] }) m.analyses as ∧
      m' = { m with analyses := as }
  | .updateJob f p => ∃ id as, f.valueOf? .executionId = some (.text id) ∧
      ChangesFirstJob f id p m.analyses as ∧ m' = { m with analyses := as }
  | .findRepository _ | .findSecurityTest _ | .findSecurityTests _ | .findAnalysis _
  | .findAnalyses _ | .ping => m' = m

namespace Memory

variable {m m' m'' : Memory} {c : Call}

/-- A call that fails leaves the store as it is. -/
theorem answer_of_error {e : ServiceError} (h : (m.answer c).1 = .error e) :
    (m.answer c).2 = m :=
  Service.Surroundings.stores_error (w := .arbitrary) (c := c) (.inl (by rw [← h]))

/-- A call that succeeds makes of the store what it is to make. -/
theorem makes_of_answer (h : (m.answer c).1.isOk = true) : c.Makes m (m.answer c).2 := by
  cases c with
  | findRepository | findSecurityTest | findSecurityTests => rfl
  | findAnalysis | findAnalyses | ping => rfl
  | insertRepository | insertSecurityTest | insertAnalysis =>
    rw [answer] at h ⊢
    split
    · next hany => simp [hany, Except.isOk, Except.toBool] at h
    · rfl
  | updateRepository f p | updateAnalysis f p | pushJob f p =>
    rw [answer] at h ⊢
    split
    · next hupdate => exact ⟨_, updateFirst_eq_some_iff.mp hupdate, rfl⟩
    · next hnone => simp [hnone, Except.isOk, Except.toBool] at h
  | updateJob f p =>
    simp only [answer] at h ⊢
    split
    · next hnone => simp [hnone, Except.isOk, Except.toBool] at h
    · next id hid =>
      obtain ⟨value, hvalue, htext⟩ := Option.bind_eq_some_iff.mp hid
      obtain rfl : value = .text id := by
        cases value <;> simp_all [Value.text?]
      split
      · next as has => exact ⟨id, as, hvalue, updateJobIn_eq_some_iff.mp has, rfl⟩
      · next hnone => simp [hid, hnone, Except.isOk, Except.toBool] at h

/-! ## Keys -/

/-- No two records have one key. -/
structure KeysApart (m : Memory) : Prop where
  /-- Repositories differ by their URLs. -/
  repositories : (m.repositories.map (·.url)).Nodup
  /-- Security tests differ by their names. -/
  securityTests : (m.securityTests.map (·.name)).Nodup
  /-- Analyses differ by their identifiers. -/
  analyses : (m.analyses.map (·.rid)).Nodup

theorem keysApart_empty : empty.KeysApart := ⟨.nil, .nil, .nil⟩

/-- What is inserted has a key that is not taken. -/
theorem nodup_map_append {α κ : Type} [BEq κ] [LawfulBEq κ] {key : α → κ} {xs : List α} {x : α}
    (h : (xs.map key).Nodup) (hx : xs.any (fun y => key y == key x) = false) :
    ((xs ++ [x]).map key).Nodup := by
  rw [List.map_append, List.map_singleton, ← List.concat_eq_append]
  refine h.concat fun hmem => ?_
  obtain ⟨y, hy, he⟩ := List.mem_map.mp hmem
  simpa [he] using List.any_eq_false.mp hx y hy

/-- **A call keeps the keys apart**, whether or not it succeeds. -/
theorem keysApart_answer (hm : m.KeysApart) (c : Call) : (m.answer c).2.KeysApart := by
  obtain ⟨hrepositories, htests, hanalyses⟩ := hm
  cases hok : (m.answer c).1 with
  | error e =>
    rw [answer_of_error hok]
    exact ⟨hrepositories, htests, hanalyses⟩
  | ok result =>
    have hmakes := makes_of_answer (m := m) (c := c) (by rw [hok]; rfl)
    cases c with
    | insertRepository r =>
      rw [answer] at hok ⊢
      split at hok
      · cases hok
      · next hnew =>
        rw [if_neg hnew]
        exact ⟨nodup_map_append hrepositories (by simpa using hnew), htests, hanalyses⟩
    | insertSecurityTest t =>
      rw [answer] at hok ⊢
      split at hok
      · cases hok
      · next hnew =>
        rw [if_neg hnew]
        exact ⟨hrepositories, nodup_map_append htests (by simpa using hnew), hanalyses⟩
    | insertAnalysis a =>
      rw [answer] at hok ⊢
      split at hok
      · cases hok
      · next hnew =>
        rw [if_neg hnew]
        exact ⟨hrepositories, htests, nodup_map_append hanalyses (by simpa using hnew)⟩
    | updateRepository f p =>
      obtain ⟨rs, hrs, hm'⟩ := hmakes
      rw [hm']
      exact ⟨hrs.map_eq (·.url) (fun _ => rfl) ▸ hrepositories, htests, hanalyses⟩
    | updateAnalysis f p | pushJob f p =>
      obtain ⟨as, has, hm'⟩ := hmakes
      rw [hm']
      exact ⟨hrepositories, htests, has.map_eq (·.rid) (fun _ => rfl) ▸ hanalyses⟩
    | updateJob f p =>
      obtain ⟨id, as, -, ⟨before, a, behind, jobs, hbefore, -, -, -, rfl⟩, hm'⟩ := hmakes
      rw [hm']
      rw [hbefore] at hanalyses
      exact ⟨hrepositories, htests, by simpa using hanalyses⟩
    | _ => exact hmakes ▸ ⟨hrepositories, htests, hanalyses⟩

theorem keysApart_after (hm : m.KeysApart) (calls : List Call) : (m.after calls).KeysApart := by
  induction calls generalizing m with
  | nil => exact hm
  | cons c rest ih => exact ih (keysApart_answer hm c)

end Memory

/-! ## What stays -/

/-- Every element on the left stands in its place on the right, changed as a relation says. -/
def StaysAs (R : α → α → Prop) (xs ys : List α) : Prop :=
  ∀ (n : Nat) (x : α), xs[n]? = some x → ∃ y, ys[n]? = some y ∧ R x y

/-- An element stands behind those before its place and before the others. -/
theorem exists_append_of_getElem? {n : ℕ} (h : xs[n]? = some x) :
    ∃ before behind, xs = before ++ x :: behind ∧ before.length = n := by
  obtain ⟨hlt, hget⟩ := List.getElem?_eq_some_iff.mp h
  refine ⟨xs.take n, xs.drop (n + 1), ?_, List.length_take_of_le (Nat.le_of_lt hlt)⟩
  rw [← hget, List.getElem_cons_drop, List.take_append_drop]

section StaysAs

variable {R : α → α → Prop} {zs : List α}

theorem staysAs_refl (hR : ∀ x, R x x) (xs : List α) : StaysAs R xs xs :=
  fun _ x hx => ⟨x, hx, hR x⟩

theorem StaysAs.trans (hR : ∀ {x y z}, R x y → R y z → R x z) (h : StaysAs R xs ys)
    (h' : StaysAs R ys zs) : StaysAs R xs zs := by
  intro n x hx
  obtain ⟨y, hy, hxy⟩ := h n x hx
  obtain ⟨z, hz, hyz⟩ := h' n y hy
  exact ⟨z, hz, hR hxy hyz⟩

theorem staysAs_append (hR : ∀ x, R x x) (xs ys : List α) : StaysAs R xs (xs ++ ys) :=
  fun _ x hx => ⟨x, List.getElem?_append_left (List.getElem?_eq_some_iff.mp hx).1 ▸ hx, hR x⟩

/-- Where one element is exchanged, the others stay as they are. -/
theorem staysAs_exchange (hR : ∀ x, R x x) {before behind : List α} {y : α} (h : R x y) :
    StaysAs R (before ++ x :: behind) (before ++ y :: behind) := by
  intro n z hz
  by_cases hn : n = before.length
  · subst hn
    obtain rfl : x = z := by simpa using hz
    exact ⟨y, by simp, h⟩
  · refine ⟨z, ?_, hR z⟩
    rw [List.getElem?_append] at hz ⊢
    split
    · simpa [*] using hz
    · next hlt =>
      obtain ⟨k, hk⟩ : ∃ k, n - before.length = k + 1 := ⟨n - before.length - 1, by omega⟩
      simpa [hlt, hk] using hz

theorem ChangesFirst.staysAs (hR : ∀ x, R x x) (h : ChangesFirst p f xs ys)
    (hf : ∀ x, R x (f x)) : StaysAs R xs ys := by
  obtain ⟨before, x, behind, rfl, -, -, rfl⟩ := h
  exact staysAs_exchange hR (hf x)

end StaysAs

/-- It is still the repository with its URL. -/
def SameRepository (r r' : Repository) : Prop := r'.url = r.url

/-- It is still the job of its unit, and of its test. -/
def SameJob (j j' : Job) : Prop :=
  j'.executionId = j.executionId ∧ j'.securityTest = j.securityTest

/-- It is still the analysis with its identifier, and its jobs are in their places. -/
def SameAnalysis (a a' : Analysis) : Prop :=
  a'.rid = a.rid ∧ a'.url = a.url ∧ StaysAs SameJob a.jobs a'.jobs

section Same

variable {a b c : Analysis} {j k l : Job}

theorem sameRepository_refl (r : Repository) : SameRepository r r := rfl

theorem sameJob_refl (j : Job) : SameJob j j := ⟨rfl, rfl⟩

theorem SameJob.trans (h : SameJob j k) (h' : SameJob k l) : SameJob j l :=
  ⟨h'.1.trans h.1, h'.2.trans h.2⟩

theorem sameAnalysis_refl (a : Analysis) : SameAnalysis a a :=
  ⟨rfl, rfl, staysAs_refl sameJob_refl _⟩

theorem SameAnalysis.trans (h : SameAnalysis a b) (h' : SameAnalysis b c) : SameAnalysis a c :=
  ⟨h'.1.trans h.1, h'.2.1.trans h.2.1, h.2.2.trans SameJob.trans h'.2.2⟩

end Same

namespace Memory

/-- What no call takes away: the records, and the jobs in them, in their places and under their
keys. -/
structure Keeps (m m' : Memory) : Prop where
  /-- Repositories stay in their places. -/
  repositories : StaysAs SameRepository m.repositories m'.repositories
  /-- Security tests stay in their places as they are. -/
  securityTests : m.securityTests <+: m'.securityTests
  /-- Analyses stay in their places, with their jobs. -/
  analyses : StaysAs SameAnalysis m.analyses m'.analyses

variable {m m' m'' : Memory}

theorem keeps_refl (m : Memory) : m.Keeps m :=
  ⟨staysAs_refl sameRepository_refl _, List.prefix_rfl, staysAs_refl sameAnalysis_refl _⟩

theorem Keeps.trans (h : m.Keeps m') (h' : m'.Keeps m'') : m.Keeps m'' where
  repositories := h.repositories.trans (fun h h' => Eq.trans h' h) h'.repositories
  securityTests := h.securityTests.trans h'.securityTests
  analyses := h.analyses.trans SameAnalysis.trans h'.analyses

/-- **A call takes nothing away**, whether or not it succeeds. -/
theorem keeps_answer (m : Memory) (c : Call) : m.Keeps (m.answer c).2 := by
  cases hok : (m.answer c).1 with
  | error e =>
    rw [answer_of_error hok]
    exact keeps_refl m
  | ok result =>
    have hmakes := makes_of_answer (m := m) (c := c) (by rw [hok]; rfl)
    obtain ⟨hrepositories, htests, hanalyses⟩ := keeps_refl m
    cases c with
    | insertRepository r =>
      exact hmakes ▸ ⟨staysAs_append sameRepository_refl _ _, htests, hanalyses⟩
    | insertSecurityTest t =>
      exact hmakes ▸ ⟨hrepositories, List.prefix_append _ _, hanalyses⟩
    | insertAnalysis a =>
      exact hmakes ▸ ⟨hrepositories, htests, staysAs_append sameAnalysis_refl _ _⟩
    | updateRepository f p =>
      obtain ⟨rs, hrs, hm'⟩ := hmakes
      exact hm' ▸ ⟨hrs.staysAs sameRepository_refl fun _ => rfl, htests, hanalyses⟩
    | updateAnalysis f p =>
      obtain ⟨as, has, hm'⟩ := hmakes
      exact hm' ▸ ⟨hrepositories, htests,
        has.staysAs sameAnalysis_refl fun a => ⟨rfl, rfl, staysAs_refl sameJob_refl a.jobs⟩⟩
    | pushJob f j =>
      obtain ⟨as, has, hm'⟩ := hmakes
      exact hm' ▸ ⟨hrepositories, htests,
        has.staysAs sameAnalysis_refl fun _ => ⟨rfl, rfl, staysAs_append sameJob_refl _ _⟩⟩
    | updateJob f p =>
      obtain ⟨id, as, -, ⟨before, a, behind, jobs, hbefore, -, -, hjobs, rfl⟩, hm'⟩ := hmakes
      have hsame : SameAnalysis a { a with jobs := jobs } :=
        ⟨rfl, rfl, hjobs.staysAs sameJob_refl fun _ => ⟨rfl, rfl⟩⟩
      refine hm' ▸ ⟨hrepositories, htests, ?_⟩
      rw [hbefore]
      exact staysAs_exchange sameAnalysis_refl hsame
    | _ => exact hmakes ▸ keeps_refl m

theorem keeps_after (m : Memory) (calls : List Call) : m.Keeps (m.after calls) := by
  induction calls generalizing m with
  | nil => exact keeps_refl m
  | cons c rest ih => exact (keeps_answer m c).trans (ih _)

/-- A security test that was inserted stays behind those that were there before it. -/
theorem exists_securityTests_after {test : SecurityTest}
    (h : (m.answer (.insertSecurityTest test)).1.isOk = true) (later : List Call) :
    ∃ behind, (m.after (.insertSecurityTest test :: later)).securityTests =
      m.securityTests ++ test :: behind := by
  have hmakes := makes_of_answer h
  obtain ⟨behind, hbehind⟩ :=
    (keeps_after (m.answer (.insertSecurityTest test)).2 later).securityTests
  refine ⟨behind, ?_⟩
  rw [after_cons, ← hbehind, hmakes, List.append_assoc, List.singleton_append]

/-- **Whatever a store is asked, it stays in order.**  From the empty store, any calls leave records
with keys of their own.  A further call that fails changes nothing, and one that succeeds makes of
the store what it is to make, no more; no calls take anything away.  So a security test is found as
it was inserted, by all that look for it. -/
theorem collections_stay_in_order (calls : List Call) :
    (empty.after calls).KeysApart ∧
      (∀ c, (((empty.after calls).answer c).1.isOk = false →
          ((empty.after calls).answer c).2 = empty.after calls) ∧
        (((empty.after calls).answer c).1.isOk = true →
          c.Makes (empty.after calls) ((empty.after calls).answer c).2)) ∧
      (∀ later, (empty.after calls).Keeps (empty.after (calls ++ later))) ∧
      ∀ test, ((empty.after calls).answer (.insertSecurityTest test)).1.isOk = true →
        ∀ later f, f.accepts test = true →
          (∃ found, ((empty.after (calls ++ .insertSecurityTest test :: later)).answer
              (.findSecurityTests f)).1 = .ok found ∧ test ∈ found) ∧
          ((∀ other ∈ (empty.after calls).securityTests, f.accepts other = false) →
            ((empty.after (calls ++ .insertSecurityTest test :: later)).answer
              (.findSecurityTest f)).1 = .ok (some test)) := by
  refine ⟨keysApart_after keysApart_empty calls, fun c => ⟨fun hfails => ?_, makes_of_answer⟩,
    fun later => ?_, fun test hinserts later f hf => ?_⟩
  · cases hanswer : ((empty.after calls).answer c).1 with
    | error e => exact answer_of_error hanswer
    | ok result => simp [hanswer, Except.isOk, Except.toBool] at hfails
  · rw [after_append]
    exact keeps_after _ later
  · obtain ⟨behind, hbehind⟩ := exists_securityTests_after hinserts later
    rw [after_append]
    refine ⟨⟨_, rfl, ?_⟩, fun hfirst => ?_⟩
    · rw [hbehind, List.mem_filter]
      exact ⟨by simp, hf⟩
    · simp only [answer]
      rw [hbehind, List.find?_append, List.find?_eq_none.mpr fun other hother => by
        simp [hfirst other hother]]
      simp [hf]

/-- A test is found as it was registered first, whoever tries to register its name again. -/
theorem finds_first_registered :
    ((empty.after
      [.insertSecurityTest ⟨"gosec", "tools/gosec", "v2", "gosec ./...", "go", true, 60⟩,
      .insertSecurityTest ⟨"gosec", "tools/other", "v1", "true", "go", true, 60⟩]).answer
        (.findSecurityTest (.name "gosec"))).1 =
      .ok (some ⟨"gosec", "tools/gosec", "v2", "gosec ./...", "go", true, 60⟩) :=
  ((collections_stay_in_order []).2.2.2
    ⟨"gosec", "tools/gosec", "v2", "gosec ./...", "go", true, 60⟩ rfl
    [.insertSecurityTest ⟨"gosec", "tools/other", "v1", "true", "go", true, 60⟩] (.name "gosec")
    (by decide)).2 (by simp [empty])

end Memory
end Store
end ScanService
