import Mathlib.Data.List.Nodup
import ScanService.Proofs.Stages.Staging
import ScanService.Proofs.Store.Repositories

/-!
# What registrations attach

A repository that is registered has tests of different names, because the tests that are registered
have, and because a form's names are looked up once each.  This depends on what the store answers, so
`Task.Keeps` says it of all answers that a store of such tests may give.

## What is here

* `NamesApart` — tests of different names.
* `Task.Keeps` — a task that only ever inserts repositories with such tests.
* `Errand.keeps` — **every registration is one**, at its beginning and at any time (`Task.Keeps.ask`,
  `Task.Keeps.settles`).
* `Staging.Turn.repositories` — where the repositories come from that are stored after a turn.
-/

namespace ScanService

/-- Tests of different names. -/
def NamesApart (tests : List SecurityTest) : Prop := (tests.map (·.name)).Nodup

theorem NamesApart.filter {tests : List SecurityTest} (h : NamesApart tests)
    (p : SecurityTest → Bool) : NamesApart (tests.filter p) :=
  h.sublist (List.filter_sublist.map _)

namespace Service

/-- The detector is put in front of tests of other names. -/
theorem namesApart_detector {repository : Repository} {detector : Option SecurityTest}
    (hx : NamesApart repository.securityTests) (hl : lacksDetector repository = true)
    (hd : ∀ test, detector = some test → test.name = SecurityTest.detectorName) :
    NamesApart (detector.toList ++ repository.securityTests) := by
  cases detector with
  | none => exact hx
  | some test =>
    refine List.nodup_cons.mpr ⟨fun hmem => ?_, hx⟩
    obtain ⟨other, hother, he⟩ := List.mem_map.mp hmem
    have hany : repository.securityTests.any (·.name == SecurityTest.detectorName) = true :=
      List.any_eq_true.mpr ⟨other, hother, by simpa using he.trans (hd test rfl)⟩
    simp [lacksDetector, hany] at hl

/-! ## Tasks that keep names apart -/

/-- A repository is only inserted with tests of different names, and none is changed. -/
def Call.keepsNames : Call → Prop
  | .store (.insertRepository repository) => NamesApart repository.securityTests
  | .store (.updateRepository _ _) => False
  | _ => True

/-- What a store may answer whose tests have different names. -/
def Call.MayBe : (c : Call) → c.Answer → Prop
  | .store (.findSecurityTest f), answer => ∀ test, answer = .ok (some test) → f.accepts test = true
  | .store (.findSecurityTests _), answer => ∀ tests, answer = .ok tests → NamesApart tests
  | _, _ => True

/-- A task that keeps the tests of repositories apart by their names, as long as it gets such answers,
and ends with something that has a property. -/
def Task.Keeps {α : Type} (p : α → Prop) : Task α → Prop
  | .done a => p a
  | .ask c next => Call.keepsNames c ∧ ∀ answer, Call.MayBe c answer → Keeps p (next answer)

namespace Task

variable {α β : Type} {p : α → Prop} {q : β → Prop}

theorem Keeps.imp {t : Task α} (h : Keeps p t) {p' : α → Prop} (hp : ∀ a, p a → p' a) :
    Keeps p' t := by
  induction t with
  | done a => exact hp a h
  | ask c next ih => exact ⟨h.1, fun answer ha => ih answer (h.2 answer ha)⟩

theorem Keeps.bind {t : Task α} (h : Keeps p t) {f : α → Task β} (hf : ∀ a, p a → Keeps q (f a)) :
    Keeps q (Program.bind t f) := by
  induction t with
  | done a => exact hf a h
  | ask c next ih => exact ⟨h.1, fun answer ha => ih answer (h.2 answer ha)⟩

/-- Whoever asks about single tests alone inserts no repository. -/
theorem keeps_of_concernsTests {t : Task α} (h : t.OnlyAsks Call.concernsTests) :
    Keeps (fun _ => True) t := by
  induction t with
  | done a => exact True.intro
  | ask c next ih =>
    refine ⟨?_, fun answer _ => ih answer (h.2 answer)⟩
    have hc := h.1
    unfold Call.concernsTests at hc
    split at hc
    · exact True.intro
    · exact True.intro
    · exact hc.elim

/-- An action goes on with another one only if it does not fail. -/
theorem keeps_run_bind {m : Action α} {f : α → Action β}
    (hm : Keeps (fun result => ∀ a, result = .ok a → p a) m.run)
    (hf : ∀ a, p a → Keeps (fun result => ∀ b, result = .ok b → q b) (f a).run) :
    Keeps (fun result => ∀ b, result = .ok b → q b) (m >>= f).run := by
  refine Keeps.bind hm fun result hresult => ?_
  cases result with
  | ok a => exact hf a (hresult a rfl)
  | error e => exact nofun

theorem store_keeps {c : Store.Call} (hc : (Call.store c).keepsNames) {p : c.Result → Prop}
    (hp : ∀ answer, (Call.store c).MayBe answer → ∀ a, answer = .ok a → p a) :
    Keeps (fun result => ∀ a, result = .ok a → p a) (Action.store c).run := ⟨hc, hp⟩

/-- Between turns such a task stays one. -/
theorem Keeps.settles {r : Runner} {t t' : Task α} {s s' : Crowd} (h : Keeps p t)
    (ht : Crowd.Settles r t s t' s') : Keeps p t' := by
  induction ht with
  | settled => exact h
  | quiet hq _ ih =>
    refine ih (h.2 _ ?_)
    cases hq <;> exact True.intro

end Task

/-! ## Registrations -/

/-- The tests of different names that are looked up have these names. -/
theorem testsNamed_keeps {names : List String} (hn : names.Nodup) :
    Task.Keeps (fun result => ∀ tests, result = .ok tests →
      NamesApart tests ∧ ∀ test ∈ tests, test.name ∈ names) (testsNamed names).run := by
  induction names with
  | nil =>
    rintro tests ⟨⟩
    exact ⟨List.nodup_nil, nofun⟩
  | cons name rest ih =>
    rw [List.nodup_cons] at hn
    have hfound : Task.Keeps (fun result => ∀ found : Option SecurityTest, result = .ok found →
        ∀ test, found = some test → test.name = name)
        (Action.store (.findSecurityTest (.name name))).run := by
      refine Task.store_keeps (c := .findSecurityTest (.name name)) True.intro ?_
      rintro answer ha found rfl test rfl
      have haccepts := ha test rfl
      rw [Store.accepts_name] at haccepts
      simpa using haccepts
    refine Task.keeps_run_bind hfound fun found hfound => ?_
    refine Task.keeps_run_bind (ih hn.2) fun tests htests => ?_
    rintro all ⟨⟩
    cases found with
    | none => exact ⟨htests.1, fun test h => List.mem_cons_of_mem _ (htests.2 test h)⟩
    | some found =>
      have hname := hfound found rfl
      refine ⟨List.nodup_cons.mpr ⟨fun hmem => ?_, htests.1⟩, fun test h => ?_⟩
      · obtain ⟨test, htest, he⟩ := List.mem_map.mp hmem
        exact hn.1 ((he.trans hname) ▸ htests.2 test htest)
      · rcases List.mem_cons.mp h with rfl | h
        · rw [hname]
          exact List.mem_cons_self
        · exact List.mem_cons_of_mem _ (htests.2 test h)

theorem nodup_requestedNames (names : List String) : (requestedNames names).Nodup :=
  (nodup_distinct _).sublist (List.take_sublist _ _)

theorem testsToAttach_keeps {names : List String} (hn : names.Nodup) :
    Task.Keeps (fun result => ∀ tests, result = .ok tests → NamesApart tests)
      (testsToAttach names).run := by
  rw [testsToAttach]
  split
  · exact ⟨True.intro, fun answer ha => ha⟩
  · exact (testsNamed_keeps hn).imp fun result h tests he => (h tests he).1

theorem registerRepository_keeps (form : RepositoryForm) :
    Task.Keeps (fun result => ∀ repository, result = .ok repository → True)
      (registerRepository form).run := by
  have hcheck : Task.Keeps (fun result => ∀ u, result = .ok u → True)
      (checkForm form.violations).run := by
    rw [checkForm]
    split <;> exact fun _ _ => True.intro
  refine Task.keeps_run_bind hcheck fun _ _ => ?_
  cases hu : (Text.trim form.url).isEmpty with
  | true =>
    simp only [hu, if_true]
    exact fun _ _ => True.intro
  | false =>
    simp only [hu]
    refine Task.keeps_run_bind (testsToAttach_keeps (nodup_requestedNames _)) fun tests htests => ?_
    have hclock : Task.Keeps (fun result => ∀ now, result = .ok now → True)
        (Action.ofTask Task.readClock).run := ⟨True.intro, fun _ _ _ _ => True.intro⟩
    refine Task.keeps_run_bind hclock fun now _ => ?_
    have hinsert : Task.Keeps (fun result => ∀ u, result = .ok u → True)
        (Action.store (.insertRepository
          { url := Text.trim form.url, vm := form.vm, securityTests := tests, languages := [],
            createdAt := now, deletedAt := none })).run :=
      ⟨htests, fun _ _ _ _ => True.intro⟩
    exact Task.keeps_run_bind hinsert fun _ _ => fun _ _ => True.intro

/-- **Every registration keeps the tests of repositories apart by their names.** -/
theorem Errand.keeps (r : Runner) {e : Errand} (he : e.registers = true) :
    (e.task r).Keeps fun _ => True := by
  cases e with
  | registerRepository form => exact (registerRepository_keeps form).imp fun _ _ => True.intro
  | registerSecurityTest form =>
    exact Task.keeps_of_concernsTests (registerSecurityTest_onlyAsks form)
  | ensureDefaults => exact Task.keeps_of_concernsTests ensureDefaults_onlyAsks
  | analyse | status | run => cases he

/-! ## Where repositories come from -/

/-- A repository that is stored after a turn was stored before it, or a registration asked for it, or
a detector has changed it that had looked up all it wanted. -/
theorem Staging.Turn.repositories {r : Runner} {w : Surroundings} {c c' : Staging} {i : Nat} {q : Call}
    {answer : q.Answer} (h : Turn r w i q answer c c') {y : Repository}
    (hy : y ∈ c'.store.repositories) : y ∈ c.store.repositories ∨
      (∃ (e : Errand) (he : e.registers = true) (q' : Store.Call) (next : q'.Answer → Task e.Result)
        (h : Program.OnlyAsks Call.isPlain (.ask (I := activity) (.store q') next)),
        c.stages[i]? = some (.plain e _ he h) ∧
          (q' = .insertRepository y ∨ ∃ f p, q' = .updateRepository f p)) ∨
      ∃ ctx test id startedAt reading selected, ∃ z ∈ c.store.repositories,
        c.stages[i]? = some (.run ctx test (.follow id startedAt reading (.lookUp [] selected))) ∧
          z.url = ctx.repositoryUrl ∧
          y = { z with
            languages := (r.evaluate test reading.report).languages, securityTests := selected } := by
  cases h with
  | runBackend | enter => exact .inl hy
  | status hi ha =>
    rcases w.stores_repositories ha hy with hy | hq | ⟨f, p, hq, -⟩
    · exact .inl hy
    · cases hq
    · cases hq
  | admission hi ha hstep =>
    refine .inl ?_
    cases hstep with
    | failed _ e => rwa [w.stores_error ha] at hy
    | _ =>
      rcases w.stores_repositories ha hy with hy | hq | ⟨f, p, hq, -⟩
      · exact hy
      · cases hq
      · cases hq
  | @plain _ e rest rest' he h h' q' answer m hi hq ha hrest =>
    obtain ⟨next, s, s', rfl, -⟩ := hrest
    rcases w.stores_repositories ha hy with hy | rfl | ⟨f, p, rfl, -⟩
    · exact .inl hy
    · exact .inr (.inl ⟨e, he, _, next, h, hi, .inl rfl⟩)
    · exact .inr (.inl ⟨e, he, _, next, h, hi, .inr ⟨f, p, rfl⟩⟩)
  | runStore hi ha hstep =>
    rcases w.stores_repositories ha hy with hy | rfl | ⟨f, p, rfl, z, hz, haccepts, rfl⟩
    · exact .inl hy
    · cases hstep
    · cases hstep with
      | selectionRecorded answer =>
        rw [Store.accepts_url, beq_iff_eq] at haccepts
        exact .inr (.inr ⟨_, _, _, _, _, _, z, hz, hi, haccepts, rfl⟩)

end Service
end ScanService
