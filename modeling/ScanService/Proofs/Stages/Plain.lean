import ScanService.Proofs.Turns

/-!
# Tasks that only register

Registering repositories and security tests, the built-in ones among them, asks nothing but the
store and the clock, and never for a change of an analysis.  So these errands need no chart of their
own: for most purposes `Call.isPlain` is all that has to be known of them, and it holds of what is
left to do at any time (`settles_of_isPlain`).
-/

namespace ScanService

/-- Calls that change nothing about analyses. -/
def Store.Call.sparesAnalyses : Store.Call → Prop
  | .insertAnalysis _ | .updateAnalysis _ _ | .pushJob _ _ | .updateJob _ _ => False
  | _ => True

namespace Service

/-- Questions of tasks that neither run tests nor start analyses. -/
def Call.isPlain : Call → Prop
  | .store c => c.sparesAnalyses
  | .readClock => True
  | _ => False

/-- Questions about single security tests. -/
def Call.concernsTests : Call → Prop
  | .store (.findSecurityTest _) | .store (.insertSecurityTest _) => True
  | _ => False

/-- Questions of tasks that register something. -/
def Call.registers : Call → Prop
  | .store (.findSecurityTest _) | .store (.insertSecurityTest _) | .store (.findSecurityTests _)
  | .store (.insertRepository _) | .readClock => True
  | _ => False

/-- The same questions, but nothing has been detected in a repository that is registered. -/
def Call.registersUndetected : Call → Prop
  | .store (.insertRepository repository) => repository.languages = []
  | c => c.registers

theorem Call.registers_of_registersUndetected {c : Call} (h : c.registersUndetected) :
    c.registers := by
  unfold registersUndetected at h
  split at h
  · exact True.intro
  · exact h

theorem Call.registersUndetected_of_concernsTests {c : Call} (h : c.concernsTests) :
    c.registersUndetected := by
  unfold concernsTests at h
  split at h
  · exact True.intro
  · exact True.intro
  · exact h.elim

theorem Call.registers_of_concernsTests {c : Call} (h : c.concernsTests) : c.registers := by
  unfold concernsTests at h
  split at h
  · exact True.intro
  · exact True.intro
  · exact h.elim

theorem Call.isPlain_of_registers {c : Call} (h : c.registers) : c.isPlain := by
  unfold registers at h
  split at h
  · exact True.intro
  · exact True.intro
  · exact True.intro
  · exact True.intro
  · exact True.intro
  · exact h.elim

/-- An action goes on with another one only if it does not fail. -/
theorem onlyAsks_run_bind {α β : Type} {p : Call → Prop} {m : Action α} {f : α → Action β}
    (hm : m.run.OnlyAsks p) (hf : ∀ a, (f a).run.OnlyAsks p) : (m >>= f).run.OnlyAsks p := by
  refine Program.onlyAsks_bind (m := m.run) hm fun result => ?_
  cases result with
  | ok a => exact hf a
  | error e => exact True.intro

theorem store_onlyAsks {p : Call → Prop} {c : Store.Call} (h : p (.store c)) :
    (Action.store c).run.OnlyAsks p := ⟨h, fun _ => True.intro⟩

theorem ofTask_onlyAsks {α : Type} {p : Call → Prop} {t : Task α} (h : t.OnlyAsks p) :
    (Action.ofTask t).run.OnlyAsks p :=
  Program.onlyAsks_bind h fun _ => True.intro

theorem checkForm_onlyAsks (p : Call → Prop) (violations : List Violation) :
    (checkForm violations).run.OnlyAsks p := by
  rw [checkForm]
  split <;> exact True.intro

theorem ensureTest_onlyAsks (test : SecurityTest) :
    (ensureTest test).run.OnlyAsks Call.concernsTests := by
  refine onlyAsks_run_bind (store_onlyAsks (c := .findSecurityTest _) True.intro) fun found => ?_
  cases found with
  | some _ => exact True.intro
  | none =>
    refine onlyAsks_run_bind ⟨True.intro, fun _ => True.intro⟩ fun answer => ?_
    cases answer with
    | ok _ => exact True.intro
    | error e =>
      by_cases he : e.isConflict = true
      · simp only [he, if_true]
        exact True.intro
      · simp only [he]
        exact True.intro

theorem ensureTests_onlyAsks (tests : List SecurityTest) :
    (ensureTests tests).OnlyAsks Call.concernsTests := by
  induction tests with
  | nil => exact True.intro
  | cons test rest ih =>
    refine Program.onlyAsks_bind (ensureTest_onlyAsks test) fun ensured => ?_
    cases ensured with
    | error e => exact True.intro
    | ok names => exact Program.onlyAsks_bind ih fun more => True.intro

theorem testsNamed_onlyAsks (names : List String) :
    (testsNamed names).run.OnlyAsks Call.registersUndetected := by
  induction names with
  | nil => exact True.intro
  | cons name rest ih =>
    refine onlyAsks_run_bind (store_onlyAsks (c := .findSecurityTest _) True.intro) fun found => ?_
    exact onlyAsks_run_bind ih fun tests => True.intro

theorem testsToAttach_onlyAsks (names : List String) :
    (testsToAttach names).run.OnlyAsks Call.registersUndetected := by
  rw [testsToAttach]
  split
  · exact store_onlyAsks (c := .findSecurityTests _) True.intro
  · exact testsNamed_onlyAsks names

/-- A repository is registered before anything has been detected in it. -/
theorem registerRepository_onlyAsks_undetected (form : RepositoryForm) :
    (registerRepository form).run.OnlyAsks Call.registersUndetected := by
  refine onlyAsks_run_bind (checkForm_onlyAsks _ _) fun _ => ?_
  cases hu : (Text.trim form.url).isEmpty with
  | true =>
    simp only [hu, if_true]
    exact True.intro
  | false =>
    simp only [hu]
    refine onlyAsks_run_bind (testsToAttach_onlyAsks _) fun tests => ?_
    refine onlyAsks_run_bind (ofTask_onlyAsks ⟨True.intro, fun _ => True.intro⟩) fun now => ?_
    exact onlyAsks_run_bind (store_onlyAsks (c := .insertRepository _) rfl) fun _ => True.intro

theorem registerRepository_onlyAsks (form : RepositoryForm) :
    (registerRepository form).run.OnlyAsks Call.registers :=
  (registerRepository_onlyAsks_undetected form).imp fun _ => Call.registers_of_registersUndetected

theorem registerSecurityTest_onlyAsks (form : SecurityTestForm) :
    (registerSecurityTest form).run.OnlyAsks Call.concernsTests :=
  onlyAsks_run_bind (checkForm_onlyAsks _ _) fun _ =>
    onlyAsks_run_bind (store_onlyAsks (c := .insertSecurityTest _) True.intro) fun _ => True.intro

theorem ensureDefaults_onlyAsks : ensureDefaults.run.OnlyAsks Call.concernsTests := by
  rw [ensureDefaults]
  refine onlyAsks_run_bind (ofTask_onlyAsks (ensureTests_onlyAsks _)) fun ensured => ?_
  cases ensured.failure <;> exact True.intro

/-- Between two turns a task asks nothing else than before. -/
theorem OnlyAsks.settles {r : Runner} {α : Type} {p : Call → Prop} {s s' : Crowd} {t t' : Task α}
    (h : t.OnlyAsks p) (ht : Crowd.Settles r t s t' s') : t'.OnlyAsks p := by
  induction ht with
  | settled => exact h
  | quiet _ _ ih => exact ih (h.2 _)

/-- Between two turns a plain task only reads the clock. -/
theorem settles_of_isPlain {r : Runner} {α : Type} {s s' : Crowd} {t t' : Task α}
    (h : t.OnlyAsks Call.isPlain) (ht : Crowd.Settles r t s t' s') :
    t'.OnlyAsks Call.isPlain ∧ s' = s := by
  induction ht with
  | settled => exact ⟨h, rfl⟩
  | quiet hq _ ih =>
    cases hq with
    | readClock => exact ih (h.2 _)
    | readTimer | sleep | drawRid | launch | leaveGate => exact h.1.elim

end Service
end ScanService
