import ScanService.Proofs.Admission.Orderly
import ScanService.Proofs.Replay

/-!
# A finished answer is final

Whoever asks for an analysis is told of it as it is when the store answers, with its end worked out
from its jobs.  Once the answer is that the analysis has ended, no turn changes what the next reader
is told: its runs have ended, and when an admission stores the end later on, it stores what readers
are told already.
-/

namespace ScanService
namespace Service
namespace Staging

variable {r : Runner} {w : Surroundings} {c c' : Staging} {rid : Uuid} {a : Analysis}

/-- What a reader is told of an analysis. -/
def Tells (c : Staging) (rid : Uuid) (a : Analysis) : Prop :=
  ∃ b ∈ c.store.analyses, b.rid = rid ∧ b.snapshot = a

theorem told?_crowd_iff (hn : (c.store.analyses.map Analysis.rid).Nodup) :
    (c.crowd r).told? rid = some a ↔ c.Tells rid a := by
  rw [Crowd.told?, Option.map_eq_some_iff]
  refine exists_congr fun b => ?_
  rw [crowd, Store.find?_rid_eq_some_iff hn, and_assoc]

theorem Tells.unique {b : Analysis} (h : c.Tells rid a)
    (hn : (c.store.analyses.map Analysis.rid).Nodup) (h' : c.Tells rid b) : a = b := by
  obtain ⟨x, hx, hrid, rfl⟩ := h
  obtain ⟨y, hy, hrid', rfl⟩ := h'
  rw [Store.eq_of_rid_eq hn hx hy (hrid.trans hrid'.symm)]

/-- **No turn changes what a reader is told of an analysis that has ended.** -/
theorem Orderly.tells_of_turn (hc : c.Orderly r) {i : Nat} {q : Call} {answer : q.Answer}
    (h : Turn r w i q answer c c') (ht : c.Tells rid a) (ha : a.status = .finished) :
    c'.Tells rid a := by
  obtain ⟨b, hb, rfl, rfl⟩ := ht
  have hcomplete := (hc.stored.earned b hb).isComplete ha
  cases h.effect hc.kept.rids with
  | aside hm => exact ⟨b, hm ▸ hb, rfl, rfl⟩
  | @run ctx test stage f hi hlive hmove hm =>
    have hne := hc.kept.rid_ne_of_run hi hlive hb hcomplete
    exact ⟨b, hm ▸ Store.mem_editAnalysis.mpr ⟨b, hb, if_neg hne⟩, rfl, rfl⟩
  | @finalize url repository x rest hi hm =>
    obtain ⟨-, hended, hawaits⟩ := hc.informed i _ _ hi
    obtain ⟨hmem, hrunning, -⟩ := hawaits.mem_of_head hended
    refine ⟨_, hm ▸ Store.mem_editAnalysis.mpr ⟨b, hb, rfl⟩, ?_⟩
    by_cases hrid : b.rid = x.rid
    · -- what is stored is what readers were told already
      obtain rfl := Store.eq_of_rid_eq hc.kept.rids hb hmem hrid
      rw [if_pos rfl, Analysis.finalization_apply hrunning hcomplete]
      exact ⟨rfl, b.snapshot_snapshot⟩
    · rw [if_neg hrid]
      exact ⟨rfl, rfl⟩
  | insert hi _ hm => exact ⟨b, hm ▸ List.mem_append_left _ hb, rfl, rfl⟩

/-! ## Answers that were given -/

/-- A reader in one place has been told of an analysis. -/
abbrev ToldAt (c : Staging) (i : Nat) (rid : Uuid) (a : Analysis) : Prop :=
  c.stages[i]? = some (.status rid (some (.ok a)))

/-- A reader that stands somewhere when another task has gone on stood there before. -/
theorem toldAt_of_goOn {i j : Nat} {stage : Stage} {launched : List Errand}
    (hstage : stage ≠ .status rid (some (.ok a))) (hl : ∀ e ∈ launched, e.isRequest = false)
    (h : (c.goOn r i stage launched).stages[j]? = some (.status rid (some (.ok a)))) :
    c.ToldAt j rid a := by
  rcases stages_goOn_of_ne_run hl (fun _ _ _ h => by cases h) h with ⟨-, hx⟩ | ⟨-, h⟩
  · exact absurd hx.symm hstage
  · exact h

/-- Whoever is told of an analysis in a turn is told what a reader is told then. -/
theorem Turn.toldAt {i j : Nat} {q : Call} {answer : q.Answer} (h : Turn r w i q answer c c')
    (hn : (c.store.analyses.map Analysis.rid).Nodup) (hj : c'.ToldAt j rid a) :
    c.ToldAt j rid a ∨ c.Tells rid a := by
  cases h with
  | runStore hi =>
    exact .inl (toldAt_of_goOn (fun h => by cases h) (fun _ => isRequest_of_mem_runs) hj)
  | runBackend hi | enter hi | plain hi =>
    exact .inl (toldAt_of_goOn (fun h => by cases h) (fun _ he => by cases he) hj)
  | admission hi =>
    exact .inl (toldAt_of_goOn (fun h => by cases h) (fun _ => isRequest_of_mem_admitted) hj)
  | @status _ rid' answer m hi ha =>
    rcases stages_goOn hj with ⟨rfl, hx⟩ | ⟨-, h⟩ | ⟨e, he, -⟩
    · cases answer with
      | error e => cases hx
      | ok found =>
        cases found with
        | none => cases hx
        | some b =>
          cases hx
          have hfound := (w.stores_findAnalysis ha).1.symm
          obtain ⟨hb, hrid⟩ := (Store.find?_rid_eq_some_iff hn).mp hfound
          exact .inr ⟨b, hb, hrid, rfl⟩
    · exact .inl h
    · cases he

theorem toldAt_of_request {e : Errand} {j : Nat}
    (h : ({ c with stages := c.stages ++ [.begin r e] } : Staging).ToldAt j rid a) :
    c.ToldAt j rid a := by
  rcases stages_request h with h | h
  · exact h
  · cases e <;> cases h

/-- Once readers are told that an analysis has ended, they go on being told the same, and so is
everybody who is told from then on. -/
theorem Orderly.tells_of_history (hc : c.Orderly r) {t : List Crowd.Event} (h : History r w c t c')
    (ht : c.Tells rid a) (ha : a.status = .finished) :
    c'.Tells rid a ∧ ∀ j b, c'.ToldAt j rid b → c.ToldAt j rid b ∨ b = a := by
  induction h with
  | start => exact ⟨ht, fun j b hj => .inl hj⟩
  | request _ he ih => exact ⟨ih.1, fun j b hj => ih.2 j b (toldAt_of_request hj)⟩
  | @turn t c₁ c₂ i q answer hhist hturn ih =>
    have hc₁ : c₁.Orderly r := hc.history hhist
    refine ⟨hc₁.tells_of_turn hturn ih.1 ha, fun j b hj => ?_⟩
    rcases hturn.toldAt hc₁.kept.rids hj with hj | htells
    · exact ih.2 j b hj
    · exact .inr (htells.unique hc₁.kept.rids ih.1)

/-- Whoever has been told that an analysis has ended has been told what readers are told now. -/
theorem tells_of_toldAt {m : Store.Memory} (hm : m.analyses = []) {t : List Crowd.Event}
    (h : History r w (idle m) t c) {j : Nat} (hj : c.ToldAt j rid a) (ha : a.status = .finished) :
    c.Tells rid a := by
  induction h with
  | start => simp [ToldAt, idle] at hj
  | request _ he ih => exact ih (toldAt_of_request hj)
  | turn hhist hturn ih =>
    have hc := (orderly_idle hm).history hhist
    rcases hturn.toldAt hc.kept.rids hj with hj | htells
    · exact hc.tells_of_turn hturn (ih hj) ha
    · exact hc.tells_of_turn hturn htells ha

end Staging

/-! ## Crowds -/

/-- Whoever asked for an analysis and has been told of it is a reader that has been told. -/
theorem Stage.eq_status_of_worker {r : Runner} {stage : Stage} {rid : Uuid} {a : Analysis}
    (h : stage.worker r = ⟨.status rid, .done (.ok a)⟩) : stage = .status rid (some (.ok a)) := by
  cases stage with
  | run | admission => cases (Worker.mk.inj h).1
  | status rid' answer? =>
    cases answer? with
    | none =>
      obtain ⟨he, hrest⟩ := Worker.mk.inj h
      cases he
      rw [Staging.status_run] at hrest
      cases hrest
    | some answer =>
      obtain ⟨he, hrest⟩ := Worker.mk.inj h
      cases he
      cases hrest
      rfl
  | plain e rest he =>
    obtain rfl := (Worker.mk.inj h).1
    cases he

variable {r : Runner} {w : Surroundings} {m : Store.Memory} {s₁ s₂ : Crowd}

/-- **A finished answer is final.**  Once somebody who asked for an analysis has been told that it
has ended, everybody who asks for it is told the very same record from then on, whatever turns are
taken; no job entry is added or changed, and no test is appended. -/
theorem finished_answer_is_final (hm : m.analyses = []) (h₁ : Crowd.Reachable r w (.idle m) s₁)
    {i : Nat} {rid : Uuid} {a : Analysis}
    (hi : s₁.workers[i]? = some ⟨.status rid, .done (.ok a)⟩) (ha : a.status = .finished)
    (h₂ : Crowd.Reachable r w s₁ s₂) :
    s₂.told? rid = some a ∧
      (∀ (j : Nat) (b : Analysis), s₂.workers[j]? = some ⟨.status rid, .done (.ok b)⟩ →
        (∀ x, s₁.workers[j]? = some x → x.isLive = true) → b = a) ∧
      ∀ b ∈ s₂.store.analyses, b.rid = rid →
        b.snapshot = a ∧ b.securityTests = a.securityTests ∧ b.jobs = a.jobs := by
  obtain ⟨t, c, hhist, rfl⟩ := Staging.exists_staging_of_reachable h₁
  obtain ⟨t', ht'⟩ := Crowd.reachable_iff_exists_history.mp h₂
  obtain ⟨c', hhist', rfl⟩ := Staging.exists_staging ht'
  have hc := (Staging.orderly_idle (r := r) hm).history hhist
  have hc' := hc.history hhist'
  obtain ⟨stage, hstage, hworker⟩ := Staging.getElem?_workers_crowd.mp hi
  obtain rfl := Stage.eq_status_of_worker hworker
  have htells := Staging.tells_of_toldAt hm hhist hstage ha
  obtain ⟨htells', hlater⟩ := hc.tells_of_history hhist' htells ha
  refine ⟨(Staging.told?_crowd_iff hc'.kept.rids).mpr htells', fun j b hj hlive => ?_,
    fun b hb hrid => ?_⟩
  · obtain ⟨stage', hstage', hworker'⟩ := Staging.getElem?_workers_crowd.mp hj
    obtain rfl := Stage.eq_status_of_worker hworker'
    rcases hlater j b hstage' with hbefore | hba
    · -- this reader had been told before
      have hdone := hlive _ (Staging.getElem?_workers_crowd.mpr ⟨_, hbefore, rfl⟩)
      cases hdone
    · exact hba
  · obtain ⟨b', hb', hrid', rfl⟩ := htells'
    obtain rfl := Store.eq_of_rid_eq hc'.kept.rids hb hb' (hrid.trans hrid'.symm)
    exact ⟨rfl, rfl, rfl⟩

/-- Two readers ask for the analysis of the sample when it has ended, one after the other, and are
told the same. -/
theorem finished_answer_is_final_sample : ∃ s s' a,
    Crowd.replay Script.sampleRunner .sample (Script.admission ++ Script.completion)
        (.idle Script.sampleStore) = some s ∧
      s.workers[3]? = some ⟨.status .zero, .done (.ok a)⟩ ∧ a.status = .finished ∧
      Crowd.replay Script.sampleRunner .sample [.request (.status .zero), .turn 4] s = some s' ∧
      s'.workers[4]? = some ⟨.status .zero, .done (.ok a)⟩ := by
  obtain ⟨s, s', a, b, hs, hi, ha, hs', hj, hnew⟩ : ∃ s s' a b,
      Crowd.replay Script.sampleRunner .sample (Script.admission ++ Script.completion)
          (.idle Script.sampleStore) = some s ∧
        s.workers[3]? = some ⟨.status .zero, .done (.ok a)⟩ ∧ a.status = .finished ∧
        Crowd.replay Script.sampleRunner .sample [.request (.status .zero), .turn 4] s = some s' ∧
        s'.workers[4]? = some ⟨.status .zero, .done (.ok b)⟩ ∧ s.workers[4]? = none :=
    ⟨_, _, _, _, rfl, rfl, rfl, rfl, rfl, rfl⟩
  have hreach := Crowd.reachable_of_replay (w := .arbitrary) (fun _ _ _ _ => True.intro) hs
  have hreach' := Crowd.reachable_of_replay (w := .arbitrary) (fun _ _ _ _ => True.intro) hs'
  obtain rfl : b = a := by
    refine (finished_answer_is_final rfl hreach hi ha hreach').2.1 4 b hj fun x hx => ?_
    rw [hnew] at hx
    cases hx
  exact ⟨s, s', b, hs, hi, ha, hs', hj⟩

end Service
end ScanService
