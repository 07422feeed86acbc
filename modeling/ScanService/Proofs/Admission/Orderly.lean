import ScanService.Proofs.Admission.Ends
import ScanService.Proofs.Admission.Gate
import ScanService.Proofs.Ledger.Kept

/-!
# Admissions in good order

An admission decides from a list of running analyses that it has read some turns ago.  `Awaits` says
why the list is still good enough: of the analyses in it, whichever was complete then has not
changed since, and no analysis of the repository is running that is not in it.  Together with the
gate this makes `Orderly` an invariant, which says that no two analyses of one repository are stored
as running and that a stored end is always what readers were told before.

## What is here

* `Orderly.history` — **every history is orderly**, whatever the backend answers and whichever calls
  to the store fail.
-/

namespace ScanService
namespace Service

open Execution (UnitContext)
open Store (AnalysisPatch editAnalysis)

/-! ## What an admission knows -/

/-- Some analyses that were stored as running when an admission looked are all of its repository
that still are; the complete ones have not changed since. -/
structure Awaits (url : String) (awaited as : List Analysis) : Prop where
  nodup : (awaited.map Analysis.rid).Nodup
  covers : ∀ b ∈ as, b.url = url → b.status = .running → b.rid ∈ awaited.map Analysis.rid
  current : ∀ a ∈ awaited, a.status = .running ∧
    ∃ b ∈ as, b.rid = a.rid ∧ b.status = .running ∧ (a.isComplete = true → b = a)

namespace AdmissionStage

/-- What an admission behind the gate knows. -/
def Informed (url : String) (as : List Analysis) : AdmissionStage → Prop
  | findRunning repository => repository.url = url
  | finalize repository a rest =>
    repository.url = url ∧ a.aggregate.status ≠ .running ∧ Awaits url (a :: rest) as
  | findDetector repository | insert repository _ _ _ => repository.url = url ∧ Awaits url [] as
  | enter | findRepository | ended _ => True

variable {url : String} {as as' : List Analysis} {repository : Repository}

/-- Whatever an admission goes on to, it is informed. -/
theorem Proceeds.informed {awaited : List Analysis} {stage : AdmissionStage}
    (h : Proceeds url repository awaited stage) (hurl : repository.url = url)
    (hw : Awaits url awaited as) : stage.Informed url as := by
  cases h with
  | conflict => exact True.intro
  | finalize h => exact ⟨hurl, h, hw⟩
  | detect | insert => exact ⟨hurl, hw⟩

theorem Informed.imp {stage : AdmissionStage} (h : stage.Informed url as)
    (hw : ∀ awaited, Awaits url awaited as → Awaits url awaited as') : stage.Informed url as' := by
  cases stage with
  | finalize repository a rest => exact ⟨h.1, h.2.1, hw _ h.2.2⟩
  | findDetector | insert => exact ⟨h.1, hw _ h.2⟩
  | findRunning => exact h
  | enter | findRepository | ended => exact True.intro

end AdmissionStage

namespace Awaits

variable {url : String} {as : List Analysis} {awaited : List Analysis}

/-- What an admission has just read. -/
theorem of_filter (hn : (as.map Analysis.rid).Nodup) :
    Awaits url (as.filter fun a => a.url == url && a.status == .running) as where
  nodup := hn.sublist (List.filter_sublist.map _)
  covers b hb hurl hrunning :=
    List.mem_map_of_mem (List.mem_filter.mpr ⟨hb, by simp [hurl, hrunning]⟩)
  current a ha := by
    obtain ⟨ha, h⟩ := List.mem_filter.mp ha
    simp only [Bool.and_eq_true, beq_iff_eq] at h
    exact ⟨h.2, a, ha, rfl, h.2, fun _ => rfl⟩

/-- A change of an analysis that is not complete does no harm. -/
theorem edit {rid : Uuid} {f : Analysis → Analysis} (h : Awaits url awaited as)
    (hrid : ∀ a, (f a).rid = a.rid) (hurl : ∀ a, (f a).url = a.url)
    (hstatus : ∀ a, (f a).status = a.status)
    (hc : ∀ a ∈ as, a.rid = rid → a.isComplete = false) :
    Awaits url awaited (editAnalysis rid f as) where
  nodup := h.nodup
  covers b' hb' := by
    obtain ⟨b, hb, rfl⟩ := Store.mem_editAnalysis.mp hb'
    split
    · rw [hurl, hstatus, hrid]
      exact h.covers b hb
    · exact h.covers b hb
  current a ha := by
    obtain ⟨hrunning, b, hb, hbrid, hbrunning, hsame⟩ := h.current a ha
    refine ⟨hrunning, _, Store.mem_editAnalysis.mpr ⟨b, hb, rfl⟩, ?_⟩
    by_cases he : b.rid = rid
    · rw [if_pos he]
      refine ⟨(hrid b).trans hbrid, (hstatus b).trans hbrunning, fun hcomplete => ?_⟩
      -- a complete analysis would not have changed, and this one is not complete
      have hb' := hc b hb he
      rw [hsame hcomplete, hcomplete] at hb'
      cases hb'
    · rw [if_neg he]
      exact ⟨hbrid, hbrunning, hsame⟩

/-- When the first of the awaited analyses is stored as ended, the others are still awaited. -/
theorem finalized {a : Analysis} (h : Awaits url (a :: awaited) as)
    (ha : a.aggregate.status ≠ .running) :
    Awaits url awaited (editAnalysis a.rid (finalization a).apply as) where
  nodup := (List.nodup_cons.mp h.nodup).2
  covers b' hb' hurl hrunning := by
    obtain ⟨b, hb, rfl⟩ := Store.mem_editAnalysis.mp hb'
    by_cases he : b.rid = a.rid
    · rw [if_pos he] at hrunning
      exact absurd hrunning ha
    · rw [if_neg he] at hurl hrunning ⊢
      rcases List.mem_cons.mp (h.covers b hb hurl hrunning) with hrid | hmem
      · exact absurd hrid he
      · exact hmem
  current a' ha' := by
    obtain ⟨hrunning, b, hb, hrid, hbrunning, hsame⟩ := h.current a' (List.mem_cons_of_mem _ ha')
    have hne : b.rid ≠ a.rid := by
      rw [hrid]
      intro he
      exact (List.nodup_cons.mp h.nodup).1 (he ▸ List.mem_map_of_mem ha')
    exact ⟨hrunning, b, Store.mem_editAnalysis.mpr ⟨b, hb, if_neg hne⟩, hrid, hbrunning, hsame⟩

/-- Nobody else stores the end of an awaited analysis, so it is stored as it was read. -/
theorem mem_of_head {a : Analysis} (h : Awaits url (a :: awaited) as)
    (ha : a.aggregate.status ≠ .running) :
    a ∈ as ∧ a.status = .running ∧ a.isComplete = true := by
  obtain ⟨hrunning, b, hb, -, -, hsame⟩ := h.current a List.mem_cons_self
  have hcomplete : a.isComplete = true := by
    refine Analysis.isComplete_of_aggregate hrunning ?_
    cases hs : a.aggregate.status with
    | running => exact absurd hs ha
    | finished => rfl
  exact ⟨hsame hcomplete ▸ hb, hrunning, hcomplete⟩

end Awaits

/-! ## Records in good order -/

/-- No two analyses of one repository are stored as running, and every end that is stored is one
that readers were told before. -/
structure WellStored (as : List Analysis) : Prop where
  earned : ∀ a ∈ as, a.EndIsEarned
  one : ∀ a ∈ as, ∀ b ∈ as, a.status = .running → b.status = .running → a.url = b.url → a = b

namespace WellStored

variable {as : List Analysis} {rid : Uuid}

/-- A change of an analysis that is not complete does no harm. -/
theorem edit {f : Analysis → Analysis} (h : WellStored as) (hurl : ∀ a, (f a).url = a.url)
    (hstatus : ∀ a, (f a).status = a.status)
    (hc : ∀ a ∈ as, a.rid = rid → a.isComplete = false) : WellStored (editAnalysis rid f as) where
  earned b' hb' := by
    obtain ⟨b, hb, rfl⟩ := Store.mem_editAnalysis.mp hb'
    by_cases he : b.rid = rid
    · rw [if_pos he]
      refine Analysis.endIsEarned_of_running ((hstatus b).trans ?_)
      cases hs : b.status with
      | running => rfl
      | finished =>
        have hcomplete := (h.earned b hb).isComplete (by rw [Analysis.aggregate, hs])
        rw [hc b hb he] at hcomplete
        cases hcomplete
    · rw [if_neg he]
      exact h.earned b hb
  one a' ha' b' hb' hra hrb he := by
    obtain ⟨a, ha, rfl⟩ := Store.mem_editAnalysis.mp ha'
    obtain ⟨b, hb, rfl⟩ := Store.mem_editAnalysis.mp hb'
    have hkeeps : ∀ a : Analysis, (if a.rid = rid then f a else a).status = a.status ∧
        (if a.rid = rid then f a else a).url = a.url := by
      intro a
      split
      · exact ⟨hstatus a, hurl a⟩
      · exact ⟨rfl, rfl⟩
    rw [(hkeeps a).1] at hra
    rw [(hkeeps b).1] at hrb
    rw [(hkeeps a).2, (hkeeps b).2] at he
    rw [h.one a ha b hb hra hrb he]

/-- Storing the end of a complete analysis does no harm. -/
theorem finalized {a : Analysis} (h : WellStored as) (hn : (as.map Analysis.rid).Nodup)
    (ha : a ∈ as) (hr : a.status = .running) (hc : a.isComplete = true) :
    WellStored (editAnalysis a.rid (finalization a).apply as) := by
  have hedit : ∀ b ∈ as, (if b.rid = a.rid then (finalization a).apply b else b) =
      if b = a then a.snapshot else b := by
    intro b hb
    by_cases he : b.rid = a.rid
    · obtain rfl := Store.eq_of_rid_eq hn hb ha he
      rw [if_pos rfl, if_pos rfl, Analysis.finalization_apply hr hc]
    · rw [if_neg he, if_neg fun h => he (congrArg Analysis.rid h)]
  have hearned := h.earned a ha
  have hended : a.snapshot.status = .finished := by
    rw [Analysis.status_snapshot, hearned.aggregate_eq hc]
  refine ⟨fun b' hb' => ?_, fun a' ha' b' hb' hra hrb he => ?_⟩
  · obtain ⟨b, hb, rfl⟩ := Store.mem_editAnalysis.mp hb'
    rw [hedit b hb]
    split
    · exact hearned.snapshot hc
    · exact h.earned b hb
  · -- those that are running still have not been changed
    have hold : ∀ b' ∈ editAnalysis a.rid (finalization a).apply as, b'.status = .running →
        b' ∈ as := by
      intro b' hb' hrunning
      obtain ⟨b, hb, rfl⟩ := Store.mem_editAnalysis.mp hb'
      rw [hedit b hb] at hrunning ⊢
      split at hrunning
      · rw [hended] at hrunning
        cases hrunning
      · next hne =>
        rw [if_neg hne]
        exact hb
    exact h.one a' (hold a' ha' hra) b' (hold b' hb' hrb) hra hrb he

/-- Inserting an analysis does no harm when no other one of its repository is running. -/
theorem insert {url : String} {tests : List SecurityTest} {now : Timestamp} (h : WellStored as)
    (hfree : ∀ b ∈ as, b.url = url → b.status ≠ .running) :
    WellStored (as ++ [.admitted rid url tests now]) where
  earned a ha := by
    rcases List.mem_append.mp ha with ha | ha
    · exact h.earned a ha
    · rw [List.mem_singleton.mp ha]
      exact Analysis.endIsEarned_of_running rfl
  one a ha b hb hra hrb he := by
    rcases List.mem_append.mp ha with ha | ha <;> rcases List.mem_append.mp hb with hb | hb
    · exact h.one a ha b hb hra hrb he
    · rw [List.mem_singleton.mp hb] at he
      exact absurd hra (hfree a ha he)
    · rw [List.mem_singleton.mp ha] at he
      exact absurd hrb (hfree b hb he.symm)
    · rw [List.mem_singleton.mp ha, List.mem_singleton.mp hb]

end WellStored

/-! ## Steps of admissions -/

/-- An admission that is informed leaves the records in good order, and stays informed. -/
theorem AdmissionStage.Step.wellStored {w : Surroundings} {m m' : Store.Memory} {url : String}
    {stage stage' : AdmissionStage} {q : Store.Call} {answer : q.Answer}
    {admitted : Option Analysis} (h : stage.Step url (.store q) answer stage' admitted)
    (ha : w.Stores q m answer m') (hn : (m.analyses.map Analysis.rid).Nodup)
    (hm : WellStored m.analyses) (hi : stage.Informed url m.analyses) :
    WellStored m'.analyses ∧ stage'.Informed url m'.analyses := by
  cases h with
  | failed _ e =>
    rw [w.stores_error ha]
    exact ⟨hm, True.intro⟩
  | unknown =>
    rw [w.stores_of_sparesAnalyses (c := .findRepository _) True.intro ha]
    exact ⟨hm, True.intro⟩
  | found repository =>
    obtain ⟨hurl, rfl⟩ := w.stores_findRepository ha
    exact ⟨hm, hurl⟩
  | foundRunning h =>
    obtain ⟨rfl, rfl⟩ := w.stores_runningFor ha
    exact ⟨hm, h.informed hi (.of_filter hn)⟩
  | finalized h =>
    obtain ⟨hurl, hended, hawaits⟩ := hi
    obtain ⟨hmem, hrunning, hcomplete⟩ := hawaits.mem_of_head hended
    rw [w.stores_updateAnalysis hn ha]
    exact ⟨hm.finalized hn hmem hrunning hcomplete, h.informed hurl (hawaits.finalized hended)⟩
  | detectorFound =>
    rw [w.stores_of_sparesAnalyses (c := .findSecurityTest _) True.intro ha]
    exact ⟨hm, hi⟩
  | inserted =>
    obtain ⟨hurl, hawaits⟩ := hi
    rw [(w.stores_insertAnalysis ha).1]
    refine ⟨hm.insert fun b hb hburl hrunning => ?_, True.intro⟩
    cases hawaits.covers b hb (hburl.trans hurl) hrunning

/-! ## Orderly stagings -/

namespace Staging

variable {r : Runner} {w : Surroundings} {c c' : Staging} {i : Nat}

/-- The books are kept, at most one admission is behind the gate, the records are in good order and
admissions are informed. -/
structure Orderly (r : Runner) (c : Staging) : Prop where
  kept : c.Kept r
  gated : c.Gated
  stored : WellStored c.store.analyses
  informed : ∀ i url stage, c.AdmissionAt i url stage → stage.Informed url c.store.analyses

theorem orderly_idle {m : Store.Memory} (hm : m.analyses = []) : (idle m).Orderly r where
  kept := kept_idle hm
  gated := gated_idle m
  stored := ⟨by simp [idle, hm], by simp [idle, hm]⟩
  informed i url stage hi := by simp [AdmissionAt, idle] at hi

theorem Orderly.request {e : Errand} (hc : c.Orderly r) (he : e.isRequest = true) :
    ({ c with stages := c.stages ++ [.begin r e] } : Staging).Orderly r where
  kept := hc.kept.request he
  gated := hc.gated.request
  stored := hc.stored
  informed i url stage hi := by
    rcases stages_request hi with hi | hi
    · exact hc.informed i url stage hi
    · cases e <;> cases hi
      exact True.intro

/-- Admissions that are not behind the gate need not know anything. -/
theorem informed_of_not_holdsGate {url : String} {as : List Analysis} {stage : AdmissionStage}
    (h : stage.holdsGate = false) : stage.Informed url as := by
  cases stage <;> first | exact True.intro | cases h

theorem Orderly.turn {q : Call} {answer : q.Answer} (hc : c.Orderly r)
    (h : Turn r w i q answer c c') : c'.Orderly r := by
  have hpassage := h.passage
  have hgated := hc.gated.passage hpassage
  have hkept := hc.kept.turn h
  cases hpassage with
  | aside hi hs hg =>
    cases h.effect hc.kept.rids with
    | aside ha =>
      exact ⟨hkept, hgated, ha ▸ hc.stored,
        fun j url stage hj => ha ▸ hc.informed j url stage (hs j url stage hj)⟩
    | @run ctx test stage f hrun hlive hmove ha =>
      have hopen : ∀ a ∈ c.store.analyses, a.rid = ctx.rid → a.isComplete = false :=
        fun a hmem hrid => hc.kept.not_isComplete_of_run hrun hlive hmem hrid
      refine ⟨hkept, hgated, ?_, fun j url stage hj => ?_⟩
      · rw [ha]
        exact hc.stored.edit hmove.url_apply hmove.status_apply hopen
      · rw [ha]
        exact (hc.informed j url stage (hs j url stage hj)).imp fun awaited hw =>
          hw.edit hmove.rid_apply hmove.url_apply hmove.status_apply hopen
    | finalize hfin => exact absurd hfin (hi _ _)
    | insert hins => exact absurd hins (hi _ _)
  | enter hi hs hfree hg hm =>
    refine ⟨hkept, hgated, hm ▸ hc.stored, fun j url stage hj => ?_⟩
    rw [hm]
    rcases hs j url stage hj with ⟨-, -, rfl⟩ | ⟨-, hj⟩
    · exact True.intro
    · exact hc.informed j url stage hj
  | @proceed url stage stage' q answer admitted hi hs h ha hg =>
    have hi' := hc.informed i url stage hi
    obtain ⟨hstored, hinformed⟩ := h.wellStored ha hc.kept.rids hc.stored hi'
    refine ⟨hkept, hgated, hstored, fun j url' stage'' hj => ?_⟩
    rcases hs j url' stage'' hj with ⟨rfl, rfl, rfl⟩ | ⟨hne, hj⟩
    · exact hinformed
    · -- nobody else is behind the gate
      refine informed_of_not_holdsGate (Bool.not_eq_true _ ▸ fun hholds => hne ?_)
      exact hc.gated.alone j i url' url stage'' stage hj hi hholds (holdsGate_of_step h)

/-- **Every history is orderly.** -/
theorem Orderly.history {start : Staging} {t : List Crowd.Event} (hs : start.Orderly r)
    (h : History r w start t c) : c.Orderly r := by
  induction h with
  | start => exact hs
  | request _ he ih => exact ih.request he
  | turn _ hturn ih => exact ih.turn hturn

end Staging
end Service
end ScanService
