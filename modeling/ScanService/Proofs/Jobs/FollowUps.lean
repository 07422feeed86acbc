import ScanService.Proofs.Admission.Exclusion
import ScanService.Proofs.Jobs.Newcomers
import ScanService.Proofs.Ledger.Founded
import ScanService.Proofs.Schedule

/-!
# Tests that follow are run

A detector's run first has the tests that follow appended to its analysis and then launches them, and
between these two nobody else has a turn.  So the tests of an analysis grow in a turn by just what is
launched in it.  What is appended is new when it is chosen, and it is still new when it is appended
unless another detector of the same analysis has come between; as long as there is only one, tests of
different names stay so.

## What is here

* `Turn.gains` — **what a run has appended in a turn is what it launches.**
* `Crowd.HistoryWhile` — a history in which each turn is taken while something holds.
* `AppendsNew.turn` — what a detector is about to append stays new while it is the only one.
* `follow_ups_appended_are_run` — all this of crowds.
-/

namespace ScanService

/-- An analysis has become another one, which has some more tests if it is the one meant. -/
def Analysis.Gains (rid : Uuid) (tests : List SecurityTest) (a a' : Analysis) : Prop :=
  a'.rid = a.rid ∧ a'.securityTests = a.securityTests ++ if a.rid = rid then tests else []

namespace Service

open Execution (UnitContext)
open Store (editAnalysis)

/-- The tests that a call has had appended. -/
def Call.appended : (q : Call) → q.Answer → List SecurityTest
  | .store (.updateAnalysis _ p), .ok _ => p.append
  | _, _ => []

variable {r : Runner} {w : Surroundings} {m : Store.Memory} {errands : List Errand} {rid : Uuid}
  {i : Nat} {q : Call} {answer : q.Answer}

/-! ## What is appended is launched -/

/-- A change that gives an analysis some tests. -/
theorem forall₂_gains_of_edit {tests : List SecurityTest} {f : Analysis → Analysis}
    {as as' : List Analysis} (h : as' = editAnalysis rid f as) (hrid : ∀ a, (f a).rid = a.rid)
    (htests : ∀ a, (f a).securityTests = a.securityTests ++ tests) :
    List.Forall₂ (Analysis.Gains rid tests) as as' := by
  rw [h, editAnalysis, List.forall₂_map_right_iff]
  refine List.forall₂_same.mpr fun a _ => ?_
  by_cases ha : a.rid = rid
  · rw [if_pos ha, Analysis.Gains, if_pos ha]
    exact ⟨hrid a, htests a⟩
  · rw [if_neg ha, Analysis.Gains, if_neg ha]
    exact ⟨rfl, (List.append_nil _).symm⟩

/-- Analyses that stay as they are gain nothing. -/
theorem forall₂_gains_nil (as : List Analysis) : List.Forall₂ (Analysis.Gains rid []) as as :=
  forall₂_gains_of_edit Store.editAnalysis_id.symm (fun _ => rfl) fun _ => (List.append_nil _).symm

variable {c c' : Staging} {ctx : UnitContext} {test : SecurityTest} {stage stage' : RunStage}

/-- A step of a run that is answered by the store launches what the call has appended. -/
theorem RunStage.Change.gains {q : Store.Call} {answer : q.Answer} {launched : List SecurityTest}
    {m' : Store.Memory} (h : Change r ctx test stage (.store q) answer stage' launched)
    (hn : (m.analyses.map Analysis.rid).Nodup) (ha : w.Stores q m answer m') :
    launched = (Call.store q).appended answer ∧
      List.Forall₂ (Analysis.Gains ctx.rid launched) m.analyses m'.analyses := by
  cases answer with
  | error e =>
    have hnone : (Call.store q).appended (.error e) = [] := by cases q <;> rfl
    obtain rfl : launched = [] := by cases h <;> first | rfl | assumption
    rw [w.stores_error ha]
    exact ⟨hnone.symm, forall₂_gains_nil _⟩
  | ok u =>
    cases h with
    | aside hq =>
      have hq : q.sparesAnalyses := hq q rfl
      have hnone : (Call.store q).appended (.ok u) = [] := by
        cases q <;> first | rfl | exact hq.elim
      rw [w.stores_of_sparesAnalyses hq ha]
      exact ⟨hnone.symm, forall₂_gains_nil _⟩
    | record =>
      exact ⟨rfl, forall₂_gains_of_edit (w.stores_pushJob hn ha) (fun _ => rfl) fun _ =>
        (List.append_nil _).symm⟩
    | change =>
      exact ⟨rfl, forall₂_gains_of_edit (w.stores_updateJob hn ha) (fun _ => rfl) fun _ =>
        (List.append_nil _).symm⟩
    | follow _ hl =>
      rw [hl]
      exact ⟨rfl, forall₂_gains_of_edit (w.stores_updateAnalysis hn ha) (fun _ => rfl) fun _ => rfl⟩

/-- **What a run has appended in a turn is what it launches:** the tests of its own analysis grow by
just that, and those of no other. -/
theorem Staging.Turn.gains (h : Turn r w i q answer c c')
    (hn : (c.store.analyses.map Analysis.rid).Nodup)
    (hi : c.stages[i]? = some (.run ctx test stage)) :
    (c'.crowd r).errands = (c.crowd r).errands ++ (q.appended answer).map (.run ctx) ∧
      List.Forall₂ (Analysis.Gains ctx.rid (q.appended answer)) c.store.analyses
        c'.store.analyses := by
  cases h with
  | @runStore _ _ _ _ stage' q answer m launched hi' ha h =>
    cases hi'.symm.trans hi
    obtain ⟨rfl, hgains⟩ := h.change.gains hn ha
    exact ⟨errands_goOn hi (.run ctx test stage') rfl _, hgains⟩
  | @runBackend _ _ _ _ stage' q answer hi' =>
    cases hi'.symm.trans hi
    exact ⟨errands_goOn hi (.run ctx test stage') rfl [], forall₂_gains_nil _⟩
  | enter hi' | admission hi' | status hi' | plain hi' => cases hi'.symm.trans hi

/-! ## What is appended has been chosen -/

/-- What a detector has said since it passed goes on, in whatever way it can go on, to a conversation
about follow-up tests. -/
def RunStage.GoesOn (r : Runner) (u : List (Program.Exchange activity)) (ctx : UnitContext)
    (test : SecurityTest) (st : RunStage) : Prop :=
  ∀ (id : String) (startedAt : Timestamp) (reading : Reading) (stage : FollowStage),
    st = .follow id startedAt reading stage → ∃ before v, u = before ++ v ∧
      ∀ v', (stage.task ctx (r.evaluate test reading.report).languages).Trace v' () →
        (enqueueFollowUps ctx (r.evaluate test reading.report).languages).Trace (v ++ v') ()

theorem RunStage.Step.goesOn {u : List (Program.Exchange activity)} {known tests : List SecurityTest}
    (h : stage.Step r ctx test known q answer stage' tests) (hst : stage.GoesOn r u ctx test) :
    stage'.GoesOn r (u ++ [⟨q, answer⟩]) ctx test := by
  rintro id startedAt reading stage₁ rfl
  -- it is enough that what it had left to do before goes on with this exchange
  have hask : ∀ stage₀, stage = .follow id startedAt reading stage₀ →
      (∀ v', (stage₁.task ctx (r.evaluate test reading.report).languages).Trace v' () →
        (stage₀.task ctx (r.evaluate test reading.report).languages).Trace (⟨q, answer⟩ :: v') ()) →
      ∃ before v, u ++ [⟨q, answer⟩] = before ++ v ∧
        ∀ v', (stage₁.task ctx (r.evaluate test reading.report).languages).Trace v' () →
          (enqueueFollowUps ctx (r.evaluate test reading.report).languages).Trace (v ++ v') () := by
    intro stage₀ he hask
    obtain ⟨before, v, rfl, hgoes⟩ := hst _ _ _ _ he
    refine ⟨before, v ++ [⟨q, answer⟩], List.append_assoc _ _ _, fun v' h => ?_⟩
    rw [List.append_assoc]
    exact hgoes _ (hask v' h)
  cases h with
  | detected report hd => exact ⟨_, [], (List.append_nil _).symm, fun v' h => h⟩
  | lookedUp =>
    refine hask _ rfl fun v' h => ?_
    rw [FollowStage.task, bind_defaultsForAll_cons]
    simp only [← List.append_assoc]
    exact .ask h
  | selectionRecorded =>
    refine hask _ rfl fun v' h => ?_
    rw [FollowStage.lookUp_nil_task]
    exact .ask h
  | scheduledRead htests =>
    refine hask _ rfl fun v' h => ?_
    rw [FollowStage.task, bind_scheduledNames]
    exact .ask (htests ▸ h)

/-- **What a run has appended it has chosen,** in turns of its own, after it had read a report. -/
theorem Staging.Turn.chooses {t : List Crowd.Event} (h : Turn r w i q answer c c')
    (hhist : History r w (gathered r m errands) t c)
    (hi : c.stages[i]? = some (.run ctx test stage)) (hne : q.appended answer ≠ []) :
    ∃ before languages choice, Crowd.said i t = before ++ choice ∧
      Chooses ctx languages choice (q.appended answer) := by
  have hgoes : stage.GoesOn r (Crowd.said i t) ctx test :=
    run_of_turns (P := fun u ctx test stage => stage.GoesOn r u ctx test)
      (fun _ _ _ _ _ _ he => by cases he) (fun hstep hu => hstep.goesOn hu) hhist hi
  cases h with
  | @runStore _ _ _ _ _ _ _ _ tests hi' ha h =>
    cases hi'.symm.trans hi
    cases h with
    | @testsRecorded _ _ reading =>
      obtain ⟨before, v, hsaid, hgoes⟩ := hgoes _ _ _ _ rfl
      -- had they been refused, the conversation would have been over
      have hrefused : (FollowStage.task ctx (r.evaluate test reading.report).languages
          (.recordTests tests)).Trace [⟨.store (.updateAnalysis (.rid ctx.rid) { append := tests }),
            .error (.timeout "")⟩] () := by
        cases tests with
        | nil => exact absurd rfl hne
        | cons => exact .ask (.done ())
      exact ⟨before, _, v, hsaid, .of_trace_refused (hgoes _ hrefused)⟩
    | _ => exact absurd rfl hne
  | runBackend => exact absurd rfl hne
  | enter hi' | admission hi' | status hi' | plain hi' => cases hi'.symm.trans hi

/-! ## While there is one detector -/

/-- A worker is the run of a detector for an analysis, and has not ended. -/
def Worker.DetectsFor (rid : Uuid) (x : Worker) : Prop :=
  x.isLive = true ∧ ∃ ctx test,
    x.errand = .run ctx test ∧ ctx.rid = rid ∧ test.name = SecurityTest.detectorName

/-- No two tasks are detectors' runs for an analysis that have not ended. -/
def Crowd.HasOneDetector (rid : Uuid) (s : Crowd) : Prop :=
  ∀ (i j : Nat) (x y : Worker), s.workers[i]? = some x → s.workers[j]? = some y →
    x.DetectsFor rid → y.DetectsFor rid → i = j

namespace Crowd

variable {P : Crowd → Prop} {start s s' : Crowd} {t : List Event}

/-- The turns that led from one crowd to another, each taken while something was true. -/
inductive HistoryWhile (r : Runner) (w : Surroundings) (P : Crowd → Prop) (start : Crowd) :
    List Event → Crowd → Prop where
  | start : HistoryWhile r w P start [] start
  | request {t : List Event} {s : Crowd} {e : Errand} (h : HistoryWhile r w P start t s)
    (he : e.isRequest = true) : HistoryWhile r w P start t (s.begin r e)
  | turn {t : List Event} {s s' : Crowd} {i : Nat} {q : Call} {answer : q.Answer}
    (h : HistoryWhile r w P start t s) (hP : P s) (ht : Turn r w i q answer s s') :
    HistoryWhile r w P start (t ++ [⟨i, q, answer⟩]) s'

/-- What is true of all crowds that have begun no more than in the end is true at each turn. -/
theorem History.while (h : History r w start t s)
    (hP : ∀ s₁ : Crowd, s₁.errands <+: s.errands → P s₁) : HistoryWhile r w P start t s := by
  induction h with
  | start => exact .start
  | request _ he ih =>
    exact .request (ih fun s₁ h₁ => hP s₁ (h₁.trans ((List.prefix_append _ _).map _))) he
  | turn _ ht ih =>
    have hle := ht.step.errands_isPrefix
    exact .turn (ih fun s₁ h₁ => hP s₁ (h₁.trans hle)) (hP _ hle) ht

theorem HistoryWhile.history (h : HistoryWhile r w P start t s) : History r w start t s := by
  induction h with
  | start => exact .start
  | request _ he ih => exact .request ih he
  | turn _ _ ht ih => exact .turn ih ht

/-- Whoever has begun keeps its place. -/
theorem getElem?_errands_of_isPrefix (h : s.errands <+: s'.errands) {e : Errand}
    (hi : s.errands[i]? = some e) : s'.errands[i]? = some e := by
  obtain ⟨hlt, he⟩ := List.getElem?_eq_some_iff.mp hi
  exact (List.prefix_iff_getElem?.mp h i hlt).trans (congrArg some he)

/-- In some turns no run has failed to read an analysis. -/
def CouldRead (rid : Uuid) (t : List Event) (s : Crowd) : Prop :=
  ∀ x ∈ t, ∀ ctx test, s.errands[x.place]? = some (.run ctx test) →
    ∀ e, (⟨x.call, x.answer⟩ : Program.Exchange activity) ≠
      ⟨.store (.findAnalysis (.rid rid)), .error e⟩

theorem CouldRead.mono {t' : List Event} (h : CouldRead rid t' s') (ht : t ⊆ t')
    (hs : s.errands <+: s'.errands) : CouldRead rid t s :=
  fun x hx ctx test hi => h x (ht hx) ctx test (getElem?_errands_of_isPrefix hs hi)

/-- A store that does not fail of itself can be read. -/
theorem History.couldRead (h : History r w.reliable start t s) (s' : Crowd) :
    CouldRead rid t s' := by
  induction h with
  | start => exact fun x hx => by cases hx
  | request _ _ ih => exact ih
  | turn _ ht ih =>
    intro x hx ctx test hi e he
    rcases List.mem_append.mp hx with hx | hx
    · exact ih x hx ctx test hi e he
    · cases List.mem_singleton.mp hx
      cases he
      obtain ⟨-, ha, -⟩ := ht
      cases ha with
      | store ha => exact w.stores_findAnalysis_ne_error ha e rfl

/-- There is one detector where only one has ever begun. -/
theorem hasOneDetector_of_errands {k : Nat} (h : ∀ (i : Nat) (ctx : UnitContext)
    (test : SecurityTest), s'.errands[i]? = some (.run ctx test) → ctx.rid = rid →
      test.name = SecurityTest.detectorName → i = k) (hs : s.errands <+: s'.errands) :
    s.HasOneDetector rid := by
  have hplace : ∀ (i : Nat) (x : Worker), s.workers[i]? = some x → x.DetectsFor rid → i = k := by
    rintro i x hi ⟨-, ctx, test, he, hrid, hname⟩
    have hi : s.errands[i]? = some (.run ctx test) := by
      rw [errands, List.getElem?_map, hi, Option.map_some, he]
    exact h i ctx test (getElem?_errands_of_isPrefix hs hi) hrid hname
  intro i j x y hi hj hx hy
  rw [hplace i x hi hx, hplace j y hj hy]

end Crowd

namespace Staging

variable {c c' : Staging} {t t₀ : List Crowd.Event} {s : Crowd}

/-- Whoever is about to append tests is a detector's run that has not ended. -/
theorem detectsFor_of_recordTests (h : History r w (gathered r m errands) t c) {ctx : UnitContext}
    {test : SecurityTest} {id : String} {startedAt : Timestamp} {reading : Reading}
    {tests : List SecurityTest}
    (hi : c.stages[i]? = some (.run ctx test (.follow id startedAt reading (.recordTests tests)))) :
    ((Stage.run ctx test (.follow id startedAt reading (.recordTests tests))).worker r).DetectsFor
      ctx.rid :=
  ⟨by rw [Stage.isLive_worker_run]; rfl, ctx, test, rfl, rfl, (keepsToFollowUps_of_gathered h hi).1⟩

/-- What the detectors for an analysis are about to append is new. -/
def AppendsNew (rid : Uuid) (c : Staging) : Prop :=
  ∀ (i : Nat) (ctx : UnitContext) (test : SecurityTest) (id : String) (startedAt : Timestamp)
    (reading : Reading) (tests : List SecurityTest),
    c.stages[i]? = some (.run ctx test (.follow id startedAt reading (.recordTests tests))) →
      ctx.rid = rid → AreNew c.store rid tests

/-- A stored analysis has tests of different names. -/
def HasDistinct (rid : Uuid) (c : Staging) : Prop :=
  (∃ a ∈ c.store.analyses, a.rid = rid) ∧
    ∀ a ∈ c.store.analyses, a.rid = rid → a.pendingNames.Nodup

theorem appendsNew_gathered : (gathered r m errands).AppendsNew rid := by
  intro i ctx test id startedAt reading tests hi
  cases (eq_first_of_gathered hi).2

theorem AppendsNew.request (hc : c.AppendsNew rid) {e : Errand} (he : e.isRequest = true) :
    ({ c with stages := c.stages ++ [.begin r e] } : Staging).AppendsNew rid := by
  intro i ctx test id startedAt reading tests hi
  exact hc i ctx test id startedAt reading tests (run_of_request he hi)

/-- **What a detector is about to append stays new** while it is the only one, if it could read its
analysis. -/
theorem AppendsNew.turn (hnew : c.AppendsNew rid) (hc : c.Founded r)
    (hhist : History r w (gathered r m errands) t c) (hone : (c.crowd r).HasOneDetector rid)
    (h : Turn r w i q answer c c')
    (hread : Crowd.CouldRead rid [⟨i, q, answer⟩] (c.crowd r)) : c'.AppendsNew rid := by
  rintro j ctx test id startedAt reading tests hj rfl
  rcases h.cases_run hj with ⟨rfl, stage, launched, hi, hstep⟩ | ⟨hne, hj⟩ | ⟨-, hfirst⟩
  · -- the scheduled tests have just been read
    cases h with
    | runStore hi' ha =>
      cases hi'.symm.trans hi
      cases hstep with
      | @scheduledRead _ _ _ selected _ answer hfollow =>
        rw [hfollow]
        cases answer with
        | error e =>
          exact absurd rfl (hread _ List.mem_cons_self ctx test (errands_of_run hi) e)
        | ok found =>
          obtain rfl := (w.stores_findAnalysis ha).2
          exact areNew_followUps ha nofun hc.rids selected
    | runBackend => cases hstep
    | enter hi' | admission hi' | status hi' | plain hi' => cases hi'.symm.trans hi
  · -- the only detector waits for its turn
    refine areNew_of_turn h hc.rids (List.mem_map.mpr (hc.exists_of_run hj))
      (hnew j ctx test id startedAt reading tests hj rfl) ?_
    intro ctx' test' id' startedAt' reading' tests' hi hctx
    have hi' := detectsFor_of_recordTests hhist hi
    rw [hctx] at hi'
    exact hne (hone j i _ _ (getElem?_workers_crowd.mpr ⟨_, hj, rfl⟩)
      (getElem?_workers_crowd.mpr ⟨_, hi, rfl⟩) (detectsFor_of_recordTests hhist hj) hi')
  · cases hfirst

/-- Tests of different names stay so. -/
theorem HasDistinct.turn (hd : c.HasDistinct rid) (hn : (c.store.analyses.map Analysis.rid).Nodup)
    (hnew : c.AppendsNew rid) (h : Turn r w i q answer c c') : c'.HasDistinct rid := by
  obtain ⟨⟨a, ha, hrid⟩, hd⟩ := hd
  obtain ⟨b, hb, hbrid, -⟩ := (h.effect hn).persists ha
  refine ⟨⟨b, hb, hbrid.trans hrid⟩, fun a' ha' hrid' => ?_⟩
  rcases h.scheduled hn ha' with ⟨ha₀, hrid₀, -, ht⟩ | ⟨hi, ha₀, hctx, hrid₀, -, ht⟩ |
    ⟨-, hfresh, rfl⟩
  · rw [Analysis.pendingNames, ht]
    exact hd _ ha₀ (hrid₀.trans hrid')
  · rw [Analysis.pendingNames, ht]
    have hrid₀ := hrid₀.trans hrid'
    exact (hnew _ _ _ _ _ _ _ hi (hctx.symm.trans hrid₀)).nodup_append ha₀ hrid₀ (hd _ ha₀ hrid₀)
  · refine absurd (List.mem_map.mpr ⟨a, ha, hrid.trans ?_⟩) hfresh
    exact hrid'.symm

/-- A crowd with one detector can be staged so that what it is about to append is new. -/
theorem exists_staging_while (hs : (gathered r m errands).Founded r)
    (hc : History r w (gathered r m errands) t₀ c) (hnew : c.AppendsNew rid)
    (h : Crowd.HistoryWhile r w (Crowd.HasOneDetector rid) (c.crowd r) t s)
    (hread : Crowd.CouldRead rid t s) :
    ∃ c', History r w (gathered r m errands) (t₀ ++ t) c' ∧ c'.crowd r = s ∧ c'.AppendsNew rid ∧
      (c.HasDistinct rid → c'.HasDistinct rid) := by
  induction h with
  | start => exact ⟨c, (List.append_nil t₀).symm ▸ hc, rfl, hnew, id⟩
  | @request t s e _ he ih =>
    obtain ⟨c', hc', rfl, hnew', hd⟩ :=
      ih (hread.mono (List.Subset.refl t) ((List.prefix_append _ _).map _))
    exact ⟨_, .request hc' he, crowd_request c' e, hnew'.request he, hd⟩
  | turn _ hone ht ih =>
    have hle := ht.step.errands_isPrefix
    obtain ⟨c', hc', rfl, hnew', hd⟩ := ih (hread.mono (List.subset_append_left _ _) hle)
    obtain ⟨c'', hturn, hs'⟩ := staged_turn ht
    have hfounded := hs.history hc'
    have hnew'' := hnew'.turn hfounded hc' hone hturn
      (hread.mono (List.subset_append_right _ _) hle)
    refine ⟨c'', ?_, hs', hnew'', fun h => (hd h).turn hfounded.rids hnew' hturn⟩
    rw [← List.append_assoc]
    exact .turn hc' hturn

end Staging

/-! ## Crowds -/

/-- Whoever reads an analysis is told of a stored one. -/
theorem Crowd.Turn.mem_of_read {s s' : Crowd} {a : Analysis} (h : Turn r w i q answer s s')
    (hread : (⟨q, answer⟩ : Program.Exchange activity) =
      ⟨.store (.findAnalysis (.rid rid)), .ok (some a)⟩) : a ∈ s.store.analyses ∧ a.rid = rid := by
  cases hread
  obtain ⟨-, ha, -⟩ := h
  cases ha with
  | store ha =>
    have hfound := (w.stores_findAnalysis ha).1.symm
    exact ⟨List.mem_of_find?_eq_some hfound, by simpa using List.find?_some hfound⟩

/-- **The tests that are appended are those that are run.**  Tasks begin around any store and take
their turns in any order with any others that come, whatever the backend answers and whichever calls
to the store fail.

* In every conversation about follow-up tests they are first chosen: those among the selected ones
  are to follow which are at the first occurrence of their name, this being neither the detector's
  nor that of a test that was to run when the analysis was read.  If there are any, they are then to
  be appended, and if they have been, each is launched, in order.
* In each turn of a run the tests of its analysis grow by what has been appended, just that is
  launched, in order, and no other analysis has its tests changed; what has been appended was chosen
  in the turns before; and an analysis is read as it is stored.
* The tests of an analysis go on having different names as long as no two detectors' runs for it go
  on at a time, and none fails to read it. -/
theorem follow_ups_appended_are_run (hm : m.Hosts errands) :
    (∀ ctx languages u, (enqueueFollowUps ctx languages).Trace u () → ∃ choice rest tests,
      u = choice ++ rest ∧ Chooses ctx languages choice tests ∧ Enqueues ctx tests rest) ∧
    (∀ {t : List Crowd.Event} {s s' : Crowd} {i : Nat} {q : Call} {answer : q.Answer}
        {ctx : UnitContext} {test : SecurityTest},
      Crowd.History r w (.gathered r m errands) t s → Crowd.Turn r w i q answer s s' →
      s.errands[i]? = some (.run ctx test) →
        s'.errands = s.errands ++ (q.appended answer).map (.run ctx) ∧
        List.Forall₂ (Analysis.Gains ctx.rid (q.appended answer)) s.store.analyses
          s'.store.analyses ∧
        (q.appended answer ≠ [] → ∃ before languages choice, Crowd.said i t = before ++ choice ∧
          Chooses ctx languages choice (q.appended answer)) ∧
        ∀ a, (⟨q, answer⟩ : Program.Exchange activity) =
          ⟨.store (.findAnalysis (.rid ctx.rid)), .ok (some a)⟩ →
            a ∈ s.store.analyses ∧ a.rid = ctx.rid) ∧
    (∀ {t t' : List Crowd.Event} {s s' : Crowd} {rid : Uuid},
      Crowd.HistoryWhile r w (Crowd.HasOneDetector rid) (.gathered r m errands) t s →
      Crowd.HistoryWhile r w (Crowd.HasOneDetector rid) s t' s' →
      Crowd.CouldRead rid (t ++ t') s' →
      ∀ a ∈ s.store.analyses, a.rid = rid → a.pendingNames.Nodup →
        ∀ a' ∈ s'.store.analyses, a'.rid = rid → a'.pendingNames.Nodup) := by
  have hfounded : (Staging.gathered r m errands).Founded r := Staging.founded_gathered hm
  rw [← Staging.crowd_gathered]
  refine ⟨fun ctx languages u h => exists_of_trace_enqueueFollowUps h, ?_, ?_⟩
  · intro t s s' i q answer ctx test h hturn hi
    obtain ⟨c, hhist, rfl⟩ := Staging.exists_staging h
    obtain ⟨c', hturn', rfl⟩ := Staging.staged_turn hturn
    obtain ⟨stage, hi⟩ := Staging.exists_run_of_errands hi
    obtain ⟨hlaunched, hgains⟩ := hturn'.gains (hfounded.history hhist).rids hi
    exact ⟨hlaunched, hgains, hturn'.chooses hhist hi, fun a => hturn.mem_of_read⟩
  · intro t t' s s' rid h h' hread a ha hrid hd
    have hle := h'.history.reachable.errands_isPrefix
    obtain ⟨c, hhist, rfl, hnew, -⟩ := Staging.exists_staging_while hfounded .start
      Staging.appendsNew_gathered h (hread.mono (List.subset_append_left _ _) hle)
    obtain ⟨c', -, rfl, -, hdistinct⟩ := Staging.exists_staging_while hfounded hhist hnew h'
      (hread.mono (List.subset_append_right _ _) (List.prefix_refl _))
    refine (hdistinct ⟨⟨a, ha, hrid⟩, fun b hb hbrid => ?_⟩).2
    rwa [Store.eq_of_rid_eq (hfounded.history hhist).rids hb ha (hbrid.trans hrid.symm)]

namespace Script

/-- A store with an analysis of which only the detector is to run. -/
def detectorStore : Store.Memory :=
  { sampleStore with
    analyses := [.admitted .zero sampleRepository.url [sampleDetector] sampleRepository.createdAt] }

/-- Its run. -/
def detectorRun : List Errand := [.run ⟨.zero, sampleRepository.url⟩ sampleDetector]

theorem hosts_detectorRun : detectorStore.Hosts detectorRun where
  rids := by decide
  runs ctx test h := by
    cases List.mem_singleton.mp h
    exact List.mem_cons_self

end Script

/-- In the sample the detector appends the test for the language that it finds, and launches it. -/
theorem follow_ups_appended_are_run_sample : ∃ s t,
    Crowd.follow Script.sampleRunner (Script.sample.schedule (List.replicate 12 (.turn 0)))
      (.gathered Script.sampleRunner Script.detectorStore Script.detectorRun) = some (s, t) ∧
    s.errands =
      Script.detectorRun ++ [.run ⟨.zero, Script.sampleRepository.url⟩ Script.sampleTest] ∧
    ∃ a ∈ s.store.analyses, a.securityTests = [Script.sampleDetector, Script.sampleTest] ∧
      a.pendingNames.Nodup := by
  obtain ⟨s, t, a, hs, herrands, hstored, hrid, htests⟩ : ∃ s t a,
      Crowd.follow Script.sampleRunner (Script.sample.schedule (List.replicate 12 (.turn 0)))
        (.gathered Script.sampleRunner Script.detectorStore Script.detectorRun) = some (s, t) ∧
      s.errands =
        Script.detectorRun ++ [.run ⟨.zero, Script.sampleRepository.url⟩ Script.sampleTest] ∧
      s.store.analyses = [a] ∧ a.rid = .zero ∧
      a.securityTests = [Script.sampleDetector, Script.sampleTest] :=
    ⟨_, _, _, rfl, rfl, rfl, rfl, rfl⟩
  have hhist : Crowd.History Script.sampleRunner Surroundings.arbitrary.reliable _ t s :=
    Crowd.history_of_follow .start hs (fun _ => Script.isAllowedBy_of_mem_schedule)
      (Surroundings.allow_of_forall (fun _ _ _ => True.intro) t _)
  have hone : ∀ s₁ : Crowd, s₁.errands <+: s.errands → s₁.HasOneDetector .zero := by
    refine fun s₁ => Crowd.hasOneDetector_of_errands (k := 0) fun i ctx test hi _ hname => ?_
    rw [herrands] at hi
    rcases i with _ | _ | i
    · rfl
    · cases hi
      exact absurd hname (by decide)
    · cases hi
  have ha : a ∈ s.store.analyses := hstored ▸ List.mem_cons_self
  exact ⟨s, t, hs, herrands, a, ha, htests,
    (follow_ups_appended_are_run Script.hosts_detectorRun).2.2 .start (hhist.while hone)
      (hhist.couldRead s) _ List.mem_cons_self rfl (by decide) a ha hrid⟩

end Service
end ScanService
