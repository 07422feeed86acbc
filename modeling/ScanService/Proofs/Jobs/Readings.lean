import ScanService.Proofs.Ledger.Units
import ScanService.Proofs.Stages.Launches

/-!
# Readings and the turns in which they were made

What a stage remembers of a report that has been read is what was read in some turn, and what is
read in a turn is remembered ever after.  `Crowd.HasRead` says of crowds what the stages remember,
so that it can be put without any mention of stages.

## What is here

* `Crowd.HasRead` — a run has read the report of a unit, on the way to a crowd.
* `exists_staging_recalls` — what is remembered has been read.
* `Crowd.HasRead.exists_staging` — what has been read is remembered.
-/

namespace ScanService
namespace Service

open Execution (UnitContext)

/-- On the way from one crowd to another a run of a test for an analysis has read the report of a
unit; `s₁` is the crowd just before. -/
def Crowd.HasRead (r : Runner) (w : Surroundings) (start : Crowd) (rid : Uuid) (test : SecurityTest)
    (id report : String) (s₁ s : Crowd) : Prop :=
  ∃ (i : Nat) (ctx : UnitContext) (s₂ : Crowd), ctx.rid = rid ∧
    s₁.errands[i]? = some (.run ctx test) ∧ Crowd.Reachable r w start s₁ ∧
    Crowd.Turn r w i (.backend (.readOutput id)) (.ok report) s₁ s₂ ∧ Crowd.Reachable r w s₂ s

/-! ## Readings of a stage -/

namespace RunStage

variable {r : Runner} {ctx : UnitContext} {test : SecurityTest} {known : List SecurityTest}
  {st st' : RunStage} {tests : List SecurityTest} {reading : Reading}

theorem reading?_ended (id : String) (startedAt : Option Timestamp) (ending : Ending)
    (now : Timestamp) :
    (ended id startedAt ending now).reading? = (recordEnd id startedAt ending now).reading? := by
  cases ending <;> rfl

/-- What has been read is remembered, and so is the unit. -/
theorem Step.keeps_reading {c : Call} {answer : c.Answer}
    (h : st.Step r ctx test known c answer st' tests) (hr : st.reading? = some reading) :
    st'.reading? = some reading ∧ st'.unit? = st.unit? := by
  cases h with
  | endRecorded answer => exact ⟨(reading?_ended _ _ _ _).trans hr, rfl⟩
  | lookedUp | selectionRecorded | scheduledRead | nothingToFollow | testsRecorded | testsRefused =>
    exact ⟨hr, rfl⟩
  | _ => cases hr

/-- Whoever reads a report remembers it from then on. -/
theorem Step.reads {id report : String}
    (h : st.Step r ctx test known (.backend (.readOutput id)) (.ok report) st' tests) :
    st'.reading? = some ⟨report, known⟩ ∧ st'.unit? = some id := by
  cases h with
  | image hc => exact hc.elim
  | detected | read => exact ⟨rfl, rfl⟩

/-- What is remembered has been remembered before, or it has just been read. -/
theorem Step.reading?_origin {c : Call} {answer : c.Answer} (i : Nat)
    (h : st.Step r ctx test known c answer st' tests) (hr : st'.reading? = some reading) :
    (st.reading? = some reading ∧ st'.unit? = st.unit?) ∨ ∃ id, st'.unit? = some id ∧
      reading.known = known ∧ (⟨i, c, answer⟩ : Crowd.Event) =
        ⟨i, .backend (.readOutput id), .ok reading.report⟩ := by
  cases h with
  | detected | read =>
    cases hr
    exact .inr ⟨_, rfl, rfl, rfl⟩
  | endRecorded answer => exact .inl ⟨(reading?_ended _ _ _ _).symm.trans hr, rfl⟩
  | lookedUp | selectionRecorded | scheduledRead | nothingToFollow | testsRecorded | testsRefused =>
    exact .inl ⟨hr, rfl⟩
  | _ => cases hr

end RunStage

/-! ## Readings of a staging -/

namespace Staging

variable {r : Runner} {w : Surroundings} {c c' : Staging} {i j : Nat} {ctx : UnitContext}
  {test : SecurityTest} {stage : RunStage} {reading : Reading}

/-- A run stays where it is, or takes a step. -/
theorem Turn.run_goes_on {q : Call} {answer : q.Answer} (h : Turn r w i q answer c c')
    (hj : c.stages[j]? = some (.run ctx test stage)) :
    ∃ stage', c'.stages[j]? = some (.run ctx test stage') ∧
      (j = i ∧ (∃ tests, stage.Step r ctx test c.store.securityTests q answer stage' tests) ∨
        j ≠ i ∧ stage' = stage) := by
  by_cases hne : j = i
  · subst hne
    cases h with
    | runStore hi ha h | runBackend hi ha h =>
      cases hi.symm.trans hj
      exact ⟨_, getElem?_goOn_self hj _ _, .inl ⟨rfl, _, h⟩⟩
    | enter hi | admission hi | status hi | plain hi => cases hi.symm.trans hj
  · refine ⟨stage, ?_, .inr ⟨hne, rfl⟩⟩
    cases h <;> exact getElem?_goOn_of_ne hj hne _ _

/-- What has been read is remembered ever after. -/
theorem exists_run_of_history {t : List Crowd.Event} (h : History r w c t c')
    (hj : c.stages[j]? = some (.run ctx test stage)) (hr : stage.reading? = some reading) :
    ∃ stage', c'.stages[j]? = some (.run ctx test stage') ∧ stage'.reading? = some reading ∧
      stage'.unit? = stage.unit? := by
  induction h with
  | start => exact ⟨stage, hj, hr, rfl⟩
  | request _ _ ih =>
    obtain ⟨stage', hj', h⟩ := ih
    refine ⟨stage', ?_, h⟩
    rw [List.getElem?_append_left (List.getElem?_eq_some_iff.mp hj').1, hj']
  | turn _ hturn ih =>
    obtain ⟨stage₁, hj₁, hr₁, hu₁⟩ := ih
    obtain ⟨stage₂, hj₂, ⟨-, tests, hstep⟩ | ⟨-, rfl⟩⟩ := hturn.run_goes_on hj₁
    · obtain ⟨hr₂, hu₂⟩ := hstep.keeps_reading hr₁
      exact ⟨stage₂, hj₂, hr₂, hu₂.trans hu₁⟩
    · exact ⟨_, hj₂, hr₁, hu₁⟩

theorem History.trans {c'' : Staging} {t t' : List Crowd.Event} (h : History r w c t c')
    (h' : History r w c' t' c'') : History r w c (t ++ t') c'' := by
  induction h' with
  | start => rwa [List.append_nil]
  | request _ he ih => exact .request ih he
  | turn _ hturn ih =>
    rw [← List.append_assoc]
    exact .turn ih hturn

end Staging

/-! ## Readings of a crowd -/

variable {r : Runner} {w : Surroundings} {m : Store.Memory} {s : Crowd}

/-- **What has been read is remembered.** -/
theorem Crowd.HasRead.exists_staging {rid : Uuid} {test : SecurityTest} {id report : String}
    {s₁ : Crowd} (h : Crowd.HasRead r w (.idle m) rid test id report s₁ s) :
    ∃ (t : List Crowd.Event) (c : Staging) (i : Nat) (ctx : UnitContext) (stage : RunStage),
      Staging.History r w (.idle m) t c ∧ c.crowd r = s ∧ ctx.rid = rid ∧
      c.stages[i]? = some (.run ctx test stage) ∧
      stage.reading? = some ⟨report, s₁.store.securityTests⟩ ∧ stage.unit? = some id := by
  obtain ⟨i, ctx, s₂, hrid, he, h₁, hturn, h₂⟩ := h
  obtain ⟨t₁, c₁, hhist₁, rfl⟩ := Staging.exists_staging_of_reachable h₁
  obtain ⟨c₂, hstaged, rfl⟩ := Staging.staged_turn hturn
  obtain ⟨t₂, ht₂⟩ := Crowd.reachable_iff_exists_history.mp h₂
  obtain ⟨c, hhist₂, rfl⟩ := Staging.exists_staging ht₂
  obtain ⟨stage₁, hi₁⟩ := Staging.exists_run_of_errands he
  obtain ⟨stage₂, hi₂, ⟨-, tests, hstep⟩ | ⟨hne, -⟩⟩ := hstaged.run_goes_on hi₁
  · obtain ⟨hread, hunit⟩ := hstep.reads
    obtain ⟨stage, hi, hread, hunit'⟩ := Staging.exists_run_of_history hhist₂ hi₂ hread
    exact ⟨_, c, i, ctx, stage, (hhist₁.turn hstaged).trans hhist₂, rfl, hrid, hi, hread,
      hunit'.trans hunit⟩
  · exact absurd rfl hne

/-- Whatever the stages of a staging remember has been read on the way to its crowd. -/
def Staging.Recalls (r : Runner) (w : Surroundings) (m : Store.Memory) (c : Staging) : Prop :=
  ∀ (i : Nat) (ctx : UnitContext) (test : SecurityTest) (stage : RunStage) (reading : Reading),
    c.stages[i]? = some (.run ctx test stage) → stage.reading? = some reading →
      ∃ id s₁, Crowd.HasRead r w (.idle m) ctx.rid test id reading.report s₁ (c.crowd r) ∧
        stage.unit? = some id ∧ reading.known = s₁.store.securityTests

/-- **What is remembered has been read.** -/
theorem exists_staging_recalls {t : List Crowd.Event} (h : Crowd.History r w (.idle m) t s) :
    ∃ c, Staging.History r w (.idle m) t c ∧ c.crowd r = s ∧ c.Recalls r w m := by
  -- what has been read on the way to a crowd has been read on the way to those after it
  have hlater : ∀ {rid test id report} {s₁ s s' : Crowd}, Crowd.Step r w s s' →
      Crowd.HasRead r w (.idle m) rid test id report s₁ s →
        Crowd.HasRead r w (.idle m) rid test id report s₁ s' := by
    rintro rid test id report s₁ s s' hstep ⟨i, ctx, s₂, hrid, he, h₁, hturn, h₂⟩
    exact ⟨i, ctx, s₂, hrid, he, h₁, hturn, .step h₂ hstep⟩
  induction h with
  | start => exact ⟨.idle m, .start, rfl, fun i ctx test stage reading hi => by cases hi⟩
  | @request t s e _ he ih =>
    obtain ⟨c, hhist, rfl, hc⟩ := ih
    have hcrowd : ({ c with stages := c.stages ++ [.begin r e] } : Staging).crowd r =
        (c.crowd r).begin r e := by
      rw [Staging.crowd, Crowd.begin, List.map_append, List.map_singleton, Stage.worker_begin]
      rfl
    refine ⟨_, .request hhist he, hcrowd, fun i ctx test stage reading hi hread => ?_⟩
    have hi := Staging.run_of_request he hi
    obtain ⟨id, s₁, hread, hunit⟩ := hc i ctx test stage reading hi hread
    exact ⟨id, s₁, hcrowd ▸ hlater (.request he) hread, hunit⟩
  | @turn t s s' i q answer hcrowd hturn ih =>
    obtain ⟨c, hhist, rfl, hc⟩ := ih
    obtain ⟨c', hstaged, rfl⟩ := Staging.staged_turn hturn
    refine ⟨c', hhist.turn hstaged, rfl, fun j ctx test stage reading hj hread => ?_⟩
    rcases hstaged.cases_run hj with ⟨rfl, stage₀, tests, hi, hstep⟩ | ⟨-, hj⟩ | ⟨-, rfl⟩
    · rcases hstep.reading?_origin j hread with ⟨hread₀, hunit₀⟩ | ⟨id, hunit, hknown, he⟩
      · obtain ⟨id, s₁, hread, hunit, hknown⟩ := hc j ctx test stage₀ reading hi hread₀
        exact ⟨id, s₁, hlater hturn.step hread, hunit₀.trans hunit, hknown⟩
      · cases he
        exact ⟨id, _, ⟨j, ctx, _, rfl, Staging.errands_of_run hi, hcrowd.reachable, hturn, .refl⟩,
          hunit, hknown⟩
    · obtain ⟨id, s₁, hread, hunit⟩ := hc j ctx test stage reading hj hread
      exact ⟨id, s₁, hlater hturn.step hread, hunit⟩
    · cases hread

end Service
end ScanService
