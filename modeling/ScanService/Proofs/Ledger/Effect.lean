import ScanService.Proofs.Ledger.Balance

/-!
# What a turn does to analyses

Of all turns only four kinds matter to the analyses that are stored and to their accounts: a run may
do what an `Account.Move` says about its own analysis, and an admission may store an analysis as
ended or insert a new one.  `Turn.effect` is the one place where the charts of runs and of
admissions are gone through to see this.
-/

namespace ScanService
namespace Service

open Execution (UnitContext)
open Store (AnalysisPatch editAnalysis)

/-- The store refuses an entry, or a change of one. -/
def Call.Loses : (q : Call) → q.Answer → Prop
  | .store (.pushJob _ _), .error _ | .store (.updateJob _ _), .error _ => True
  | _, _ => False

namespace Staging

variable {r : Runner} {w : Surroundings} {c c' : Staging}

/-- What the turn of the task in one place does to the analyses and to their accounts; whether an
entry is lost is up to the store. -/
inductive Effect (r : Runner) (lost : Prop) (i : Nat) (c c' : Staging) : Prop where
  /-- Nothing. -/
  | aside (ha : c'.store.analyses = c.store.analyses)
    (hk : ∀ rid, c'.account r rid = c.account r rid)
  /-- A run that has not ended changes its own analysis. -/
  | run {ctx : UnitContext} {test : SecurityTest} {stage : RunStage} {f : Analysis → Analysis}
    (hi : c.stages[i]? = some (.run ctx test stage)) (hlive : stage.isEnded = false)
    (hm : Account.Move lost i (c.account r ctx.rid) (c'.account r ctx.rid) f)
    (ha : c'.store.analyses = editAnalysis ctx.rid f c.store.analyses)
    (hk : ∀ rid, rid ≠ ctx.rid → c'.account r rid = c.account r rid)
  /-- An admission stores an analysis as ended. -/
  | finalize {url : String} {repository : Repository} {a : Analysis} {rest : List Analysis}
    (hi : c.stages[i]? = some (.admission url (.finalize repository a rest)))
    (ha : c'.store.analyses = editAnalysis a.rid (finalization a).apply c.store.analyses)
    (hk : ∀ rid, c'.account r rid = c.account r rid)
  /-- An admission inserts an analysis and launches its runs. -/
  | insert {url : String} {repository : Repository} {tests : List SecurityTest} {rid : Uuid}
    {now : Timestamp} {runs : List (Nat × SecurityTest)}
    (hi : c.stages[i]? = some (.admission url (.insert repository tests rid now)))
    (hnew : rid ∉ c.store.analyses.map Analysis.rid)
    (ha : c'.store.analyses = c.store.analyses ++ [.admitted rid repository.url tests now])
    (hown : c'.account r rid = { c.account r rid with runs := (c.account r rid).runs ++ runs })
    (hruns : runs.map (·.2) = tests)
    (hk : ∀ rid', rid' ≠ rid → c'.account r rid' = c.account r rid')

/-! ## Turns of runs -/

variable {i : Nat} {ctx : UnitContext} {test : SecurityTest} {stage stage' : RunStage}

theorem testFor?_run (rid : Uuid) (ctx : UnitContext) (test : SecurityTest)
    (stage stage' : RunStage) :
    (Stage.run ctx test stage').testFor? rid = (Stage.run ctx test stage).testFor? rid := rfl

theorem known_of_run (hi : c.stages[i]? = some (.run ctx test stage)) :
    (c.account r ctx.rid).known i = stage.entry? r test := by
  simp only [account, hi, Option.bind_some, Stage.entryFor?, if_true]

/-- The accounts of other analyses, when a run has gone on. -/
theorem account_goOn_of_rid_ne (hi : c.stages[i]? = some (.run ctx test stage))
    (tests : List SecurityTest) {rid : Uuid} (hne : rid ≠ ctx.rid) :
    (c.goOn r i (.run ctx test stage') (tests.map (.run ctx))).account r rid =
      c.account r rid := by
  have htest := testFor?_run rid ctx test stage stage'
  have hentry : (Stage.run ctx test stage').entryFor? r rid =
      (Stage.run ctx test stage).entryFor? r rid := by
    rw [Stage.entryFor?, Stage.entryFor?, if_neg hne.symm, if_neg hne.symm]
  rw [account_goOn_of_eq hi htest hentry, runsFrom_launched_of_ne hne.symm, List.append_nil]

/-- A run that goes on and moves the account of its own analysis has no other effect. -/
theorem effect_of_move {lost : Prop} (recorded : Option (Uuid × Nat)) {tests : List SecurityTest}
    {m : Store.Memory} {f : Analysis → Analysis} {k : Account}
    (hi : c.stages[i]? = some (.run ctx test stage)) (hlive : stage.isEnded = false)
    (hm : Account.Move lost i (c.account r ctx.rid) k f)
    (ha : m.analyses = editAnalysis ctx.rid f c.store.analyses)
    (hruns : k.runs = (c.account r ctx.rid).runs ++
      runsFrom ctx.rid c.stages.length ((tests.map (.run ctx)).map (Stage.begin r)))
    (hknown : k.known = Function.update (c.account r ctx.rid).known i (stage'.entry? r test))
    (howners : k.owners = (c.account r ctx.rid).owners ++ recorded.toList.map (·.2))
    (hrec : ∀ x ∈ recorded, x.1 = ctx.rid) :
    Effect r lost i c { c.goOn r i (.run ctx test stage') (tests.map (.run ctx)) with
      store := m, recorded := c.recorded ++ recorded.toList } := by
  have hacc := account_record (r := r) (c.goOn r i (.run ctx test stage') (tests.map (.run ctx))) m
    recorded.toList
  refine .run hi hlive ?_ ha fun rid hne => (hacc rid).trans ?_
  · have hfilter : recorded.toList.filter (·.1 == ctx.rid) = recorded.toList :=
      List.filter_eq_self.mpr fun x hx => by simpa using hrec x (Option.mem_toList.mp hx)
    have hk := hacc ctx.rid
    rw [hfilter, account_goOn hi (testFor?_run _ ctx test stage stage'), Stage.entryFor?,
      if_pos rfl, ← hruns, ← hknown, ← howners] at hk
    exact hk.symm ▸ hm
  · have hfilter : recorded.toList.filter (·.1 == rid) = [] :=
      List.filter_eq_nil_iff.mpr fun x hx => by
        simpa [hrec x (Option.mem_toList.mp hx)] using hne.symm
    rw [hfilter, account_goOn_of_rid_ne hi tests hne, List.map_nil, List.append_nil]

/-- An event that is about no entry records none. -/
theorem recorded?_of_sparesAnalyses {q : Store.Call} {answer : q.Answer} (hq : q.sparesAnalyses) :
    Crowd.Event.recorded? ⟨i, .store q, answer⟩ = none := by
  cases q <;> first | rfl | exact hq.elim

/-- **What a run does in a turn is a move of the account of its own analysis.** -/
theorem effect_runStore {q : Store.Call} {answer : q.Answer} {m : Store.Memory}
    {tests : List SecurityTest} (hn : (c.store.analyses.map Analysis.rid).Nodup)
    (hi : c.stages[i]? = some (.run ctx test stage)) (hlive : stage.isEnded = false)
    (ha : w.Stores q c.store answer m)
    (h : RunStage.Change r ctx test stage (.store q) answer stage' tests) :
    Effect r (Call.Loses (.store q) answer) i c
      { c.goOn r i (.run ctx test stage') (tests.map (.run ctx)) with
        store := m
        recorded := c.recorded ++ (Crowd.Event.recorded? ⟨i, .store q, answer⟩).toList } := by
  have hknown := known_of_run (r := r) hi
  have hsame : stage'.entry? r test = stage.entry? r test → (c.account r ctx.rid).known =
      Function.update (c.account r ctx.rid).known i (stage'.entry? r test) := by
    intro h
    rw [h, ← hknown, Function.update_eq_self]
  cases h with
  | aside hq hentry =>
    have hq : q.sparesAnalyses := hq q rfl
    rw [recorded?_of_sparesAnalyses hq]
    refine effect_of_move none hi hlive .aside ?_ (by simp [runsFrom]) (hsame hentry) (by simp)
      nofun
    rw [Store.editAnalysis_id, w.stores_of_sparesAnalyses hq ha]
  | @record _ job answer hfresh hentry hentry' =>
    rw [hentry] at hknown
    cases answer with
    | ok u =>
      refine effect_of_move (some (ctx.rid, i)) hi hlive (.record hknown hfresh)
        (w.stores_pushJob hn ha) (by simp [runsFrom, Account.learn]) (by rw [hentry']; rfl) rfl ?_
      rintro x ⟨⟩
      rfl
    | error e =>
      refine effect_of_move none hi hlive (.lose True.intro hknown) ?_
        (by simp [runsFrom, Account.learn]) (by rw [hentry']; rfl) (by simp [Account.learn]) nofun
      rw [Store.editAnalysis_id, w.stores_error ha]
  | @change _ job id p answer hid hentry hentry' =>
    rw [hentry] at hknown
    have hrec : Crowd.Event.recorded? ⟨i, .store (.updateJob (.job ctx.rid id) p), answer⟩ = none :=
      rfl
    rw [hrec]
    cases answer with
    | ok u =>
      exact effect_of_move none hi hlive (.change hknown hid) (w.stores_updateJob hn ha)
        (by simp [runsFrom, Account.learn]) (by rw [hentry']; rfl) (by simp [Account.learn]) nofun
    | error e =>
      refine effect_of_move none hi hlive (.miss True.intro hknown) ?_
        (by simp [runsFrom, Account.learn]) (by rw [hentry']; rfl) (by simp [Account.learn]) nofun
      rw [Store.editAnalysis_id, w.stores_error ha]
  | @follow _ appended _ answer hentry hl =>
    cases answer with
    | ok u =>
      obtain rfl : tests = appended := hl
      have htests : (runsFrom ctx.rid c.stages.length
          ((tests.map (.run ctx)).map (Stage.begin r))).map (·.2) = tests := by
        rw [map_runsFrom_launched, if_pos rfl]
      refine effect_of_move none hi hlive (.follow (runsFrom ctx.rid c.stages.length _)) ?_ rfl
        (hsame hentry) (by simp) nofun
      rw [htests]
      exact w.stores_updateAnalysis hn ha
    | error e =>
      obtain rfl : tests = [] := hl
      refine effect_of_move none hi hlive .aside ?_ (by simp [runsFrom]) (hsame hentry) (by simp)
        nofun
      rw [Store.editAnalysis_id, w.stores_error ha]

/-! ## Turns of others -/

/-- Whoever has nothing to do with any analysis, before and after, has no effect. -/
theorem effect_of_eq {lost : Prop} {old stage : Stage} {c' : Staging} (hi : c.stages[i]? = some old)
    (hc : c'.stages = (c.goOn r i stage []).stages) (hrec : c'.recorded = c.recorded)
    (ha : c'.store.analyses = c.store.analyses)
    (ht : ∀ rid, stage.testFor? rid = old.testFor? rid)
    (he : ∀ rid, stage.entryFor? r rid = old.entryFor? r rid) : Effect r lost i c c' := by
  refine .aside ha fun rid => ?_
  rw [← account_goOn_nil_of_eq hi (ht rid) (he rid)]
  simp only [account, hc, hrec, recorded_goOn]

/-- An admission adds nothing to an account but the runs it launches. -/
theorem account_goOn_admission {url : String} {stage stage' : AdmissionStage} {rid : Uuid}
    (hi : c.stages[i]? = some (.admission url stage)) (launched : List Errand) :
    (c.goOn r i (.admission url stage') launched).account r rid =
      { c.account r rid with
        runs := (c.account r rid).runs ++
          runsFrom rid c.stages.length (launched.map (Stage.begin r)) } := by
  refine account_goOn_of_eq hi ?_ ?_ launched <;> rfl

/-- An admission stores an analysis as ended, inserts one, or has no effect. -/
theorem effect_admission {lost : Prop} {url : String} {stage stage' : AdmissionStage}
    {q : Store.Call} {answer : q.Answer} {m : Store.Memory} {admitted : Option Analysis}
    (hn : (c.store.analyses.map Analysis.rid).Nodup)
    (hi : c.stages[i]? = some (.admission url stage)) (ha : w.Stores q c.store answer m)
    (h : stage.Step url (.store q) answer stage' admitted) :
    Effect r lost i c
      { c.goOn r i (.admission url stage')
          (admitted.elim [] fun a => a.securityTests.map (.run ⟨a.rid, a.url⟩)) with
        store := m
        gateTaken := c.gateTaken && stage'.holdsGate } := by
  cases h with
  | failed _ e =>
    refine effect_of_eq hi rfl rfl ?_ (fun _ => rfl) fun _ => rfl
    rw [w.stores_error ha]
  | unknown | found | foundRunning | detectorFound =>
    refine effect_of_eq hi rfl rfl ?_ (fun _ => rfl) fun _ => rfl
    refine w.stores_of_sparesAnalyses ?_ ha
    exact True.intro
  | finalized h =>
    exact .finalize hi (w.stores_updateAnalysis hn ha) fun rid =>
      account_goOn_nil_of_eq hi rfl rfl
  | @inserted repository tests rid now =>
    obtain ⟨hm, hnew⟩ := w.stores_insertAnalysis ha
    have hruns : (runsFrom rid c.stages.length
        ((tests.map (.run ⟨rid, repository.url⟩)).map (Stage.begin r))).map (·.2) = _ :=
      map_runsFrom_launched r ⟨rid, repository.url⟩ tests
    rw [if_pos rfl] at hruns
    refine .insert hi hnew hm (account_goOn_admission hi _) hruns fun rid' hne => ?_
    refine (account_goOn_admission hi _).trans ?_
    have hnone : runsFrom rid' c.stages.length
        ((tests.map (.run ⟨rid, repository.url⟩)).map (Stage.begin r)) = [] :=
      runsFrom_launched_of_ne hne.symm tests
    exact Account.ext ((congrArg _ hnone).trans (List.append_nil _)) rfl rfl

/-- **What a turn does to the analyses that are stored and to their accounts.** -/
theorem Turn.effect {q : Call} {answer : q.Answer} (h : Turn r w i q answer c c')
    (hn : (c.store.analyses.map Analysis.rid).Nodup) : Effect r (q.Loses answer) i c c' := by
  cases h with
  | runStore hi ha h => exact effect_runStore hn hi h.isEnded ha h.change
  | runBackend hi ha h =>
    cases h.change with
    | aside hq hentry =>
      exact effect_of_eq hi rfl rfl rfl (fun _ => rfl) fun rid => by
        simp only [Stage.entryFor?, hentry]
  | enter hi hg => exact effect_of_eq hi rfl rfl rfl (fun _ => rfl) fun _ => rfl
  | admission hi ha h => exact effect_admission hn hi ha h
  | status hi ha =>
    refine effect_of_eq hi rfl rfl ?_ (fun _ => rfl) fun _ => rfl
    refine w.stores_of_sparesAnalyses ?_ ha
    exact True.intro
  | plain hi hq ha =>
    exact effect_of_eq hi rfl rfl (w.stores_of_sparesAnalyses hq ha) (fun _ => rfl) fun _ => rfl

end Staging
end Service
end ScanService
