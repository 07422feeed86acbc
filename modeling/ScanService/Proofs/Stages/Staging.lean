import ScanService.Proofs.Stages.Admission
import ScanService.Proofs.Stages.Plain
import ScanService.Proofs.Stages.Run

/-!
# Stagings

A `Staging` is a crowd whose tasks are told apart by the stages that they have reached.  It takes
the same turns as the crowd: each turn of a crowd is a turn of any staging of it (`staged_turn`), so
that whatever holds along all histories of stagings holds along all histories of crowds.

## What is here

* `Stage`, `Stage.worker` — where a task stands, and the worker that stands there.
* `Staging.Turn` — **all that one turn can do**, one constructor for each kind of task and of
  question.
* `exists_staging` — every history of a crowd is the history of a staging of it.

Beside the crowd a staging keeps `recorded`, which says which runs have recorded an entry so far, in
the order of the entries.
-/

namespace ScanService
namespace Service

open Execution (UnitContext)

/-! ## Stages -/

/-- Errands that only register something. -/
def Errand.registers : Errand → Bool
  | registerRepository _ | registerSecurityTest _ | ensureDefaults => true
  | analyse _ | status _ | run _ _ => false

/-- Where a task stands. -/
inductive Stage where
  | run (ctx : UnitContext) (test : SecurityTest) (stage : RunStage)
  | admission (url : String) (stage : AdmissionStage)
  /-- Reads an analysis; what it is told, once it is. -/
  | status (rid : Uuid) (answer? : Option (Except ServiceError Analysis))
  /-- Registers something. -/
  | plain (e : Errand) (rest : Task e.Result) (he : e.registers = true)
    (h : rest.OnlyAsks Call.isPlain)

/-- What somebody is told who asks for an analysis. -/
def statusAnswer (rid : Uuid) :
    Except ServiceError (Option Analysis) → Except ServiceError Analysis
  | .ok (some a) => .ok a.snapshot
  | .ok none => .error (unknownAnalysis rid)
  | .error e => .error e

namespace Stage

/-- The worker that stands there. -/
def worker (r : Runner) : Stage → Worker
  | run ctx test stage => ⟨.run ctx test, stage.task r ctx test⟩
  | admission url stage => ⟨.analyse url, stage.task url⟩
  | status rid none => ⟨.status rid, (Service.status rid).run⟩
  | status rid (some answer) => ⟨.status rid, .done answer⟩
  | plain e rest _ _ => ⟨e, rest⟩

/-- Where an errand begins. -/
def begin (r : Runner) : Errand → Stage
  | .analyse url => .admission url .enter
  | .status rid => .status rid none
  | .registerRepository form =>
    .plain (.registerRepository form) _ rfl
      ((registerRepository_onlyAsks form).imp fun _ => Call.isPlain_of_registers)
  | .registerSecurityTest form =>
    .plain (.registerSecurityTest form) _ rfl
      ((registerSecurityTest_onlyAsks form).imp fun _ h =>
        Call.isPlain_of_registers (Call.registers_of_concernsTests h))
  | .ensureDefaults =>
    .plain .ensureDefaults _ rfl
      (ensureDefaults_onlyAsks.imp fun _ h =>
        Call.isPlain_of_registers (Call.registers_of_concernsTests h))
  | .run ctx test => .run ctx test (.first r test)

@[simp] theorem worker_begin (r : Runner) (e : Errand) :
    (begin r e).worker r = Worker.begin r e := by
  cases e <;> rfl

/-- Whoever is on the errand of a run is a run. -/
theorem eq_run_of_errand {r : Runner} {stage : Stage} {ctx : UnitContext} {test : SecurityTest}
    (h : (stage.worker r).errand = .run ctx test) : ∃ st, stage = .run ctx test st := by
  cases stage with
  | run ctx' test' st =>
    cases h
    exact ⟨st, rfl⟩
  | admission => cases h
  | status rid answer? => cases answer? <;> cases h
  | plain e rest he =>
    obtain rfl : e = .run ctx test := h
    cases he

end Stage

/-! ## Stagings -/

/-- A call to the backend is noted among the units alone. -/
theorem Crowd.noteUnit_eq (s : Crowd) (q : Execution.Call) (answer : q.Answer) :
    s.noteUnit q answer = { s with units := (s.noteUnit q answer).units } := by
  unfold noteUnit
  split <;> rfl

/-- The run that an event says has recorded an entry, by its analysis and its place. -/
def Crowd.Event.recorded? : Crowd.Event → Option (Uuid × Nat)
  | ⟨i, .store (.pushJob f _), .ok _⟩ =>
    match f.valueOf? .rid with
    | some (.uuid rid) => some (rid, i)
    | _ => none
  | _ => none

/-- A crowd by the stages of its tasks. -/
structure Staging where
  /-- The store. -/
  store : Store.Memory
  /-- Whether somebody is behind the gate of admission. -/
  gateTaken : Bool
  /-- The units created so far, by their analyses, latest first. -/
  units : List (Uuid × String)
  /-- Where the tasks stand. -/
  stages : List Stage
  /-- The analyses and places of the runs that have recorded an entry, in order. -/
  recorded : List (Uuid × Nat)

namespace Staging

/-- The crowd. -/
def crowd (r : Runner) (c : Staging) : Crowd :=
  ⟨c.store, c.gateTaken, c.units, c.stages.map (Stage.worker r)⟩

/-- A store that nobody uses yet. -/
def idle (store : Store.Memory) : Staging := ⟨store, false, [], [], []⟩

/-- A task goes on to another stage, having launched some runs. -/
def goOn (r : Runner) (i : Nat) (stage : Stage) (launched : List Errand) (c : Staging) : Staging :=
  { c with stages := c.stages.set i stage ++ launched.map (Stage.begin r) }

/-- The turn of the task in one place. -/
inductive Turn (r : Runner) (w : Surroundings) (i : Nat) :
    (q : Call) → q.Answer → Staging → Staging → Prop where
  /-- The store answers a run. -/
  | runStore {c : Staging} {ctx : UnitContext} {test : SecurityTest} {stage stage' : RunStage}
    {q : Store.Call} {answer : q.Answer} {m : Store.Memory} {tests : List SecurityTest}
    (hi : c.stages[i]? = some (.run ctx test stage)) (ha : w.Stores q c.store answer m)
    (h : stage.Step r ctx test c.store.securityTests (.store q) answer stage' tests) :
    Turn r w i (.store q) answer c
      { c.goOn r i (.run ctx test stage') (tests.map (.run ctx)) with
        store := m
        recorded := c.recorded ++ (Crowd.Event.recorded? ⟨i, .store q, answer⟩).toList }
  /-- The backend answers a run. -/
  | runBackend {c : Staging} {ctx : UnitContext} {test : SecurityTest} {stage stage' : RunStage}
    {q : Execution.Call} {answer : q.Answer}
    (hi : c.stages[i]? = some (.run ctx test stage)) (ha : w.backend c.units q answer)
    (h : stage.Step r ctx test c.store.securityTests (.backend q) answer stage' []) :
    Turn r w i (.backend q) answer c
      { c.goOn r i (.run ctx test stage') [] with
        units := ((c.crowd r).noteUnit q answer).units }
  /-- An admission passes the gate. -/
  | enter {c : Staging} {url : String} (hi : c.stages[i]? = some (.admission url .enter))
    (hg : c.gateTaken = false) :
    Turn r w i .enterGate () c
      { c.goOn r i (.admission url .findRepository) [] with gateTaken := true }
  /-- The store answers an admission. -/
  | admission {c : Staging} {url : String} {stage stage' : AdmissionStage} {q : Store.Call}
    {answer : q.Answer} {m : Store.Memory} {admitted : Option Analysis}
    (hi : c.stages[i]? = some (.admission url stage)) (ha : w.Stores q c.store answer m)
    (h : stage.Step url (.store q) answer stage' admitted) :
    Turn r w i (.store q) answer c
      { c.goOn r i (.admission url stage')
          (admitted.elim [] fun a => a.securityTests.map (.run ⟨a.rid, a.url⟩)) with
        store := m
        gateTaken := c.gateTaken && stage'.holdsGate }
  /-- The store answers a reader. -/
  | status {c : Staging} {rid : Uuid} {answer : Except ServiceError (Option Analysis)}
    {m : Store.Memory} (hi : c.stages[i]? = some (.status rid none))
    (ha : w.Stores (.findAnalysis (.rid rid)) c.store answer m) :
    Turn r w i (.store (.findAnalysis (.rid rid))) answer c
      { c.goOn r i (.status rid (some (statusAnswer rid answer))) [] with store := m }
  /-- The store answers a task that registers something. -/
  | plain {c : Staging} {e : Errand} {rest rest' : Task e.Result} {he : e.registers = true}
    {h : rest.OnlyAsks Call.isPlain} {h' : rest'.OnlyAsks Call.isPlain} {q : Store.Call}
    {answer : q.Answer} {m : Store.Memory} (hi : c.stages[i]? = some (.plain e rest he h))
    (hq : q.sparesAnalyses) (ha : w.Stores q c.store answer m)
    (hrest : ∃ (next : q.Answer → Task e.Result) (s s' : Crowd),
      rest = .ask (I := activity) (.store q) next ∧ Crowd.Settles r (next answer) s rest' s') :
    Turn r w i (.store q) answer c { c.goOn r i (.plain e rest' he h') [] with store := m }

/-- The turns that led from one staging to another, in order. -/
inductive History (r : Runner) (w : Surroundings) (start : Staging) :
    List Crowd.Event → Staging → Prop where
  | start : History r w start [] start
  | request {t : List Crowd.Event} {c : Staging} {e : Errand} (h : History r w start t c)
    (he : e.isRequest = true) :
    History r w start t { c with stages := c.stages ++ [.begin r e] }
  | turn {t : List Crowd.Event} {c c' : Staging} {i : Nat} {q : Call} {answer : q.Answer}
    (h : History r w start t c) (hc : Turn r w i q answer c c') :
    History r w start (t ++ [⟨i, q, answer⟩]) c'

/-! ## Every history of a crowd is the history of a staging -/

variable {r : Runner} {w : Surroundings} {c : Staging}

theorem getElem?_workers_crowd {i : Nat} {x : Worker} : (c.crowd r).workers[i]? = some x ↔
    ∃ stage, c.stages[i]? = some stage ∧ stage.worker r = x := by
  rw [crowd, List.getElem?_map, Option.map_eq_some_iff]

@[simp] theorem units_goOn (i : Nat) (stage : Stage) (launched : List Errand) :
    (c.goOn r i stage launched).units = c.units := rfl

@[simp] theorem recorded_goOn (i : Nat) (stage : Stage) (launched : List Errand) :
    (c.goOn r i stage launched).recorded = c.recorded := rfl

/-- Who stands where when a task has gone on: whoever has begun stands behind the others. -/
theorem stages_goOn_cases {i j : Nat} {stage x : Stage} {launched : List Errand}
    (h : (c.goOn r i stage launched).stages[j]? = some x) :
    (j = i ∧ x = stage) ∨ (j ≠ i ∧ c.stages[j]? = some x) ∨
      (c.stages.length ≤ j ∧ ∃ e ∈ launched, x = .begin r e) := by
  rw [goOn, List.getElem?_append, List.length_set] at h
  split at h
  · next hlt =>
    by_cases hj : j = i
    · subst hj
      rw [List.getElem?_set_self hlt, Option.some.injEq] at h
      exact .inl ⟨rfl, h.symm⟩
    · rw [List.getElem?_set_ne (Ne.symm hj)] at h
      exact .inr (.inl ⟨hj, h⟩)
  · next hlt =>
    obtain ⟨e, he, rfl⟩ := List.mem_map.mp (List.mem_of_getElem? h)
    exact .inr (.inr ⟨Nat.not_lt.mp hlt, e, he, rfl⟩)

theorem stages_goOn {i j : Nat} {stage x : Stage} {launched : List Errand}
    (h : (c.goOn r i stage launched).stages[j]? = some x) :
    (j = i ∧ x = stage) ∨ (j ≠ i ∧ c.stages[j]? = some x) ∨ ∃ e ∈ launched, x = .begin r e :=
  (stages_goOn_cases h).imp_right (Or.imp_right And.right)

theorem getElem?_goOn_self {i : Nat} {old : Stage} (hi : c.stages[i]? = some old) (stage : Stage)
    (launched : List Errand) : (c.goOn r i stage launched).stages[i]? = some stage := by
  have hlt : i < c.stages.length := (List.getElem?_eq_some_iff.mp hi).1
  rw [goOn, List.getElem?_append_left (by simpa using hlt), List.getElem?_set_self hlt]

theorem getElem?_goOn_of_ne {i j : Nat} {x : Stage} (hj : c.stages[j]? = some x) (hne : j ≠ i)
    (stage : Stage) (launched : List Errand) :
    (c.goOn r i stage launched).stages[j]? = some x := by
  have hlt : j < c.stages.length := (List.getElem?_eq_some_iff.mp hj).1
  rw [goOn, List.getElem?_append_left (by simpa using hlt), List.getElem?_set_ne hne.symm, hj]

/-- Whoever is no run stands where it stood when a task has gone on and launched runs. -/
theorem stages_goOn_of_ne_run {i j : Nat} {stage x : Stage} {launched : List Errand}
    (hl : ∀ e ∈ launched, e.isRequest = false) (hx : ∀ ctx test st, x ≠ .run ctx test st)
    (h : (c.goOn r i stage launched).stages[j]? = some x) :
    (j = i ∧ x = stage) ∨ (j ≠ i ∧ c.stages[j]? = some x) := by
  rcases stages_goOn h with h | h | ⟨e, he, rfl⟩
  · exact .inl h
  · exact .inr h
  · have hrun := hl e he
    cases e with
    | run ctx test => exact absurd rfl (hx ctx test _)
    | _ => cases hrun

/-- Clients do not ask for what runs launch. -/
theorem isRequest_of_mem_runs {ctx : UnitContext} {tests : List SecurityTest} {e : Errand}
    (he : e ∈ tests.map (.run ctx)) : e.isRequest = false := by
  obtain ⟨test, -, rfl⟩ := List.mem_map.mp he
  rfl

/-- Nor do they ask for what admissions launch. -/
theorem isRequest_of_mem_admitted {admitted : Option Analysis} {e : Errand}
    (he : e ∈ admitted.elim [] fun a => a.securityTests.map (.run ⟨a.rid, a.url⟩)) :
    e.isRequest = false := by
  cases admitted with
  | none => cases he
  | some a => exact isRequest_of_mem_runs he

/-- A task that goes on in the staging goes on in the crowd. -/
theorem workers_goOn {i : Nat} {old stage : Stage} (hi : c.stages[i]? = some old)
    (launched : List Errand) :
    (c.goOn r i stage launched).stages.map (Stage.worker r) =
      (c.stages.map (Stage.worker r) ++ launched.map (Worker.begin r)).set i (stage.worker r) := by
  have hlt : i < (c.stages.map (Stage.worker r)).length := by
    rw [List.length_map]
    exact (List.getElem?_eq_some_iff.mp hi).1
  have hbegin : Stage.worker r ∘ Stage.begin r = Worker.begin r := funext (Stage.worker_begin r)
  rw [goOn, List.map_append, List.map_map, hbegin, List.map_set, List.set_append_left _ _ hlt]

/-- What a run does in a turn of the crowd, it does in the staging. -/
theorem staged_run {ctx : UnitContext} {test : SecurityTest} {stage : RunStage} {i : Nat}
    {q : Call} {next : q.Answer → Task Unit} {answer : q.Answer} {s₁ s₂ : Crowd} {t : Task Unit}
    (hi : c.stages[i]? = some (.run ctx test stage))
    (hst : stage.task r ctx test = .ask (I := activity) q next)
    (ha : Crowd.Answers w (c.crowd r) q answer s₁) (ht : Crowd.Settles r (next answer) s₁ t s₂) :
    ∃ c', Turn r w i q answer c c' ∧ c'.crowd r = s₂.resume i ⟨.run ctx test, t⟩ := by
  have hq : Call.takesTurn q = true := by cases ha <;> rfl
  obtain ⟨stage', tests, h, rfl, rfl⟩ :=
    RunStage.step_of_settles c.store.securityTests hst hq ht
  cases ha with
  | store ha =>
    refine ⟨_, .runStore hi ha h, ?_⟩
    simp only [crowd, Crowd.launchAll, Crowd.resume, workers_goOn hi, List.map_map]
    rfl
  | @backend q answer ha =>
    obtain rfl : tests = [] := by cases h <;> rfl
    refine ⟨_, .runBackend hi ha h, ?_⟩
    rw [Crowd.launchAll_nil, Crowd.noteUnit_eq]
    simp only [crowd, Crowd.resume, workers_goOn hi, List.map_nil, List.append_nil]
    rfl
  | gate hg => cases h

/-- What an admission does in a turn of the crowd, it does in the staging. -/
theorem staged_admission {url : String} {stage : AdmissionStage} {i : Nat} {q : Call}
    {next : q.Answer → Task (Except ServiceError Uuid)} {answer : q.Answer} {s₁ s₂ : Crowd}
    {t : Task (Except ServiceError Uuid)} (hi : c.stages[i]? = some (.admission url stage))
    (hst : stage.task url = .ask (I := activity) q next)
    (ha : Crowd.Answers w (c.crowd r) q answer s₁) (ht : Crowd.Settles r (next answer) s₁ t s₂) :
    ∃ c', Turn r w i q answer c c' ∧ c'.crowd r = s₂.resume i ⟨.analyse url, t⟩ := by
  obtain ⟨stage', admitted, h, rfl, rfl⟩ := AdmissionStage.step_of_settles hst ht
  cases ha with
  | store ha =>
    refine ⟨_, .admission hi ha h, ?_⟩
    have hworker : (Stage.admission url stage').worker r = ⟨.analyse url, stage'.task url⟩ := rfl
    cases admitted <;> cases hg : stage'.holdsGate <;>
      simp [crowd, Crowd.launchAll, Crowd.resume, workers_goOn hi, AdmissionStage.settled, hg,
        hworker, Function.comp_def]
  | backend ha => cases h
  | gate hg =>
    cases h
    refine ⟨_, .enter hi hg, ?_⟩
    simp only [crowd, Crowd.resume, workers_goOn hi, List.map_nil, List.append_nil]
    rfl

/-- Whoever asks for an analysis is done once the store has answered. -/
theorem status_run (rid : Uuid) :
    (Service.status rid).run = .ask (I := activity) (.store (.findAnalysis (.rid rid)))
      fun answer => .done (statusAnswer rid answer) := by
  refine congrArg (Program.ask (I := activity) (.store _)) (funext fun answer => ?_)
  cases answer with
  | ok found => cases found <;> rfl
  | error e => rfl

theorem staged_status {rid : Uuid} {i : Nat} {answer : Except ServiceError (Option Analysis)}
    {s₁ s₂ : Crowd} {t : Task (Except ServiceError Analysis)}
    (hi : c.stages[i]? = some (.status rid none))
    (ha : Crowd.Answers w (c.crowd r) (.store (.findAnalysis (.rid rid))) answer s₁)
    (ht : Crowd.Settles r (.done (statusAnswer rid answer)) s₁ t s₂) :
    ∃ c', Turn r w i (.store (.findAnalysis (.rid rid))) answer c c' ∧
      c'.crowd r = s₂.resume i ⟨.status rid, t⟩ := by
  obtain ⟨rfl, rfl⟩ := Crowd.settles_done_iff.mp ht
  cases ha with
  | store ha =>
    refine ⟨_, .status hi ha, ?_⟩
    simp only [crowd, Crowd.resume, workers_goOn hi, List.map_nil, List.append_nil]
    rfl

/-- **Each turn of the crowd is a turn of the staging.** -/
theorem staged_turn {i : Nat} {q : Call} {answer : q.Answer} {s' : Crowd}
    (h : Crowd.Turn r w i q answer (c.crowd r) s') :
    ∃ c', Turn r w i q answer c c' ∧ c'.crowd r = s' := by
  obtain ⟨hworker, ha, ht⟩ := h
  obtain ⟨stage, hi, hstage⟩ := getElem?_workers_crowd.mp hworker
  cases stage with
  | run ctx test stage =>
    obtain ⟨rfl, hst⟩ := Worker.mk.inj hstage
    exact staged_run hi (eq_of_heq hst) ha ht
  | admission url stage =>
    obtain ⟨rfl, hst⟩ := Worker.mk.inj hstage
    exact staged_admission hi (eq_of_heq hst) ha ht
  | status rid answer? =>
    cases answer? with
    | some answer =>
      obtain ⟨rfl, hst⟩ := Worker.mk.inj hstage
      cases hst
    | none =>
      obtain ⟨rfl, hst⟩ := Worker.mk.inj hstage
      rw [status_run] at hst
      cases hst
      exact staged_status hi ha ht
  | plain e rest he h =>
    obtain ⟨rfl, hst⟩ := Worker.mk.inj hstage
    obtain rfl := eq_of_heq hst
    cases ha with
    | backend | gate => exact h.1.elim
    | @store q answer m ha =>
      obtain ⟨h', rfl⟩ := settles_of_isPlain (h.2 _) ht
      have hturn : Turn r w i (.store q) answer c
          { c.goOn r i (.plain e _ he h') [] with store := m } :=
        .plain hi h.1 ha ⟨_, _, _, rfl, ht⟩
      refine ⟨_, hturn, ?_⟩
      simp only [crowd, Crowd.resume, workers_goOn hi, List.map_nil, List.append_nil]
      rfl

/-- A client that comes to the staging comes to the crowd. -/
theorem crowd_request (c : Staging) (e : Errand) :
    ({ c with stages := c.stages ++ [.begin r e] } : Staging).crowd r = (c.crowd r).begin r e := by
  rw [crowd, Crowd.begin, List.map_append, List.map_singleton, Stage.worker_begin]
  rfl

/-- **Every history of a crowd is the history of a staging of it.** -/
theorem exists_staging {t : List Crowd.Event} {s : Crowd}
    (h : Crowd.History r w (c.crowd r) t s) : ∃ c', History r w c t c' ∧ c'.crowd r = s := by
  induction h with
  | start => exact ⟨c, .start, rfl⟩
  | @request t s e _ he ih =>
    obtain ⟨c', hc', rfl⟩ := ih
    exact ⟨_, .request hc' he, crowd_request c' e⟩
  | turn _ ht ih =>
    obtain ⟨c', hc', rfl⟩ := ih
    obtain ⟨c'', hturn, hs⟩ := staged_turn ht
    exact ⟨c'', .turn hc' hturn, hs⟩

/-! ## Where runs come from -/

/-- Who stands where when a client has come. -/
theorem stages_request {e : Errand} {j : Nat} {x : Stage}
    (h : (c.stages ++ [.begin r e])[j]? = some x) : c.stages[j]? = some x ∨ x = .begin r e := by
  rw [List.getElem?_append] at h
  split at h
  · exact .inl h
  · exact .inr (List.mem_singleton.mp (List.mem_of_getElem? h))

/-- Clients do not begin runs. -/
theorem run_of_request {e : Errand} (he : e.isRequest = true) {j : Nat} {ctx : UnitContext}
    {test : SecurityTest} {stage : RunStage}
    (h : (c.stages ++ [.begin r e])[j]? = some (.run ctx test stage)) :
    c.stages[j]? = some (.run ctx test stage) := by
  rcases stages_request h with h | h
  · exact h
  · cases e with
    | run => cases he
    | _ => cases h

/-- A run that stands somewhere after a turn stood there before, or it was launched by a run for the
same analysis or by the admission of the analysis. -/
theorem Turn.origin {c' : Staging} {i j : Nat} {q : Call} {answer : q.Answer}
    {ctx : UnitContext} {test : SecurityTest} {stage' : RunStage}
    (h : Turn r w i q answer c c') (hj : c'.stages[j]? = some (.run ctx test stage')) :
    (∃ stage, c.stages[j]? = some (.run ctx test stage)) ∨
      (∃ test' stage, c.stages[i]? = some (.run ctx test' stage)) ∨
      ∃ url repository tests rid now,
        c.stages[i]? = some (.admission url (.insert repository tests rid now)) ∧
          ctx = ⟨rid, repository.url⟩ ∧
          w.Stores (.insertAnalysis (.admitted rid repository.url tests now)) c.store (.ok ())
            c'.store := by
  cases h with
  | runStore hi ha h =>
    rcases stages_goOn hj with ⟨rfl, hx⟩ | ⟨-, hj⟩ | ⟨e, he, hx⟩
    · cases hx
      exact .inl ⟨_, hi⟩
    · exact .inl ⟨_, hj⟩
    · obtain ⟨test', -, rfl⟩ := List.mem_map.mp he
      cases hx
      exact .inr (.inl ⟨_, _, hi⟩)
  | runBackend hi ha h =>
    rcases stages_goOn hj with ⟨rfl, hx⟩ | ⟨-, hj⟩ | ⟨e, he, -⟩
    · cases hx
      exact .inl ⟨_, hi⟩
    · exact .inl ⟨_, hj⟩
    · cases he
  | admission hi ha h =>
    rcases stages_goOn hj with ⟨-, hx⟩ | ⟨-, hj⟩ | ⟨e, he, hx⟩
    · cases hx
    · exact .inl ⟨_, hj⟩
    · cases h with
      | inserted =>
        obtain ⟨test', -, rfl⟩ := List.mem_map.mp he
        cases hx
        exact .inr (.inr ⟨_, _, _, _, _, hi, rfl, ha⟩)
      | failed | unknown | found | foundRunning | finalized | detectorFound => cases he
  | enter hi | status hi | plain hi =>
    rcases stages_goOn hj with ⟨-, hx⟩ | ⟨-, hj⟩ | ⟨e, he, -⟩
    · cases hx
    · exact .inl ⟨_, hj⟩
    · cases he

/-- What can be reached from a store that nobody uses yet can be staged. -/
theorem exists_staging_of_reachable {m : Store.Memory} {s : Crowd}
    (h : Crowd.Reachable r w (.idle m) s) : ∃ t c, History r w (.idle m) t c ∧ c.crowd r = s := by
  obtain ⟨t, ht⟩ := Crowd.reachable_iff_exists_history.mp h
  obtain ⟨c, hc⟩ := exists_staging (c := .idle m) ht
  exact ⟨t, c, hc⟩

end Staging
end Service
end ScanService
