import ScanService.Proofs.Ledger.Balance
import ScanService.Proofs.Stages.Gathered

/-!
# Units of runs

A run gets at most one unit, and keeps it.  The units that were created are noted, so as long as the
backend gives no analysis an identifier twice, no two runs of an analysis have units of one
identifier (`distinct_account`).
-/

namespace ScanService
namespace Service

open Execution (UnitContext)

/-- The analysis and the identifier of a unit, when one has been created. -/
def Call.created? : (q : Call) → q.Answer → Option (Uuid × String)
  | .backend (.createUnit ctx _ _), .ok id => some (ctx.rid, id)
  | _, _ => none

theorem Crowd.units_noteUnit (s : Crowd) (q : Execution.Call) (answer : q.Answer) :
    (s.noteUnit q answer).units = (Call.created? (.backend q) answer).toList ++ s.units := by
  cases q with
  | createUnit ctx image command => cases answer <;> rfl
  | _ => rfl

/-- A unit that has been created is a new one of its analysis. -/
theorem Surroundings.created_of_withFreshUnits {w : Surroundings} {units : List (Uuid × String)}
    {q : Execution.Call} {answer : q.Answer} (h : w.withFreshUnits.backend units q answer)
    {u : Uuid × String} (hu : Call.created? (.backend q) answer = some u) : u ∉ units := by
  cases q with
  | createUnit ctx image command =>
    cases answer with
    | ok id =>
      cases hu
      exact h.2
    | error e => cases hu
  | _ => cases hu

/-! ## The unit of a run -/

namespace RunStage

variable {r : Runner} {ctx : UnitContext} {test : SecurityTest}

/-- The unit of a run, once it has been created. -/
def unit? : RunStage → Option String
  | prepare _ _ | recordFailure _ _ | noUnit _ _ => none
  | recordUnit id | startUnit id | recordStart id _ | awaitUnit id _ | readReport id _
  | follow id _ _ _ | recordEnd id _ _ _ | ended id _ _ _ => some id

/-- The job of a run is in its unit. -/
theorem unit?_of_entry? {st : RunStage} {job : Job} (h : st.entry? r test = some job) :
    st.unit? = job.executionId := by
  cases st <;> cases h <;> first | rfl | exact (executionId_knownJob _ _ _).symm

/-- A run keeps its unit, or has got one just now. -/
theorem Step.unit? {known : List SecurityTest} {st st' : RunStage} {c : Call} {answer : c.Answer}
    {tests : List SecurityTest} (h : st.Step r ctx test known c answer st' tests) :
    st'.unit? = st.unit? ∨ ∃ id, st'.unit? = some id ∧ (⟨c, answer⟩ : Program.Exchange activity) =
      ⟨.backend (.createUnit ctx test.imageRef (r.command test)), .ok id⟩ := by
  cases h with
  | unitCreated id => exact .inr ⟨id, rfl, rfl⟩
  | _ => exact .inl rfl

end RunStage

/-- The analysis and the unit of a run. -/
def Stage.unit? : Stage → Option (Uuid × String)
  | run ctx _ stage => stage.unit?.map fun id => (ctx.rid, id)
  | _ => none

theorem Stage.unit?_begin (r : Runner) (e : Errand) : (Stage.begin r e).unit? = none := by
  cases e <;> rfl

/-! ## Units of different runs -/

namespace Staging

variable {r : Runner} {w : Surroundings} {c c' : Staging} {i : Nat}

/-- The unit of the run in one place. -/
def unitAt? (c : Staging) (i : Nat) : Option (Uuid × String) := c.stages[i]?.bind Stage.unit?

/-- The units of runs are noted, and no two runs have the same one. -/
structure UnitsApart (c : Staging) : Prop where
  noted : ∀ i u, c.unitAt? i = some u → u ∈ c.units
  apart : ∀ i i' u, c.unitAt? i = some u → c.unitAt? i' = some u → i = i'

theorem unitAt?_goOn {j : Nat} {stage : Stage} {launched : List Errand} {u : Uuid × String}
    (h : (c.goOn r i stage launched).unitAt? j = some u) :
    (j = i ∧ stage.unit? = some u) ∨ c.unitAt? j = some u := by
  obtain ⟨x, hx, hu⟩ := Option.bind_eq_some_iff.mp h
  rcases stages_goOn hx with ⟨rfl, rfl⟩ | ⟨-, hj⟩ | ⟨e, -, rfl⟩
  · exact .inl ⟨rfl, hu⟩
  · exact .inr (Option.bind_eq_some_iff.mpr ⟨x, hj, hu⟩)
  · rw [Stage.unit?_begin] at hu
    cases hu

/-- Whoever has a unit after a turn had it before, or it has been created in this turn. -/
theorem Turn.unitAt? {q : Call} {answer : q.Answer} (h : Turn r w i q answer c c') {j : Nat}
    {u : Uuid × String} (hj : c'.unitAt? j = some u) :
    c.unitAt? j = some u ∨ (j = i ∧ q.created? answer = some u) := by
  -- a run that goes on has the unit that it had, or a new one
  have hrun : ∀ {ctx : UnitContext} {test : SecurityTest} {stage stage' : RunStage}
      {tests : List SecurityTest} {launched : List Errand},
      c.stages[i]? = some (.run ctx test stage) →
      stage.Step r ctx test c.store.securityTests q answer stage' tests →
      (c.goOn r i (.run ctx test stage') launched).unitAt? j = some u →
        c.unitAt? j = some u ∨ (j = i ∧ q.created? answer = some u) := by
    intro ctx test stage stage' tests launched hi hstep hj
    rcases unitAt?_goOn hj with ⟨rfl, hu⟩ | hj
    · rcases hstep.unit? with hsame | ⟨id, hid, he⟩
      · refine .inl (Option.bind_eq_some_iff.mpr ⟨_, hi, ?_⟩)
        rwa [Stage.unit?, ← hsame]
      · rw [Stage.unit?, hid] at hu
        cases he
        exact .inr ⟨rfl, hu⟩
    · exact .inl hj
  cases h with
  | runStore hi ha h => exact hrun hi h hj
  | runBackend hi ha h => exact hrun hi h hj
  | enter | admission | status | plain =>
    rcases unitAt?_goOn hj with ⟨-, hu⟩ | hj
    · cases hu
    · exact .inl hj

theorem Turn.units {q : Call} {answer : q.Answer} (h : Turn r w i q answer c c') :
    c'.units = (q.created? answer).toList ++ c.units := by
  cases h with
  | runBackend hi ha h => exact Crowd.units_noteUnit _ _ _
  | _ => rfl

theorem Turn.created_not_mem {q : Call} {answer : q.Answer}
    (h : Turn r w.withFreshUnits i q answer c c') {u : Uuid × String}
    (hu : q.created? answer = some u) : u ∉ c.units := by
  cases h with
  | runBackend hi ha h => exact w.created_of_withFreshUnits ha hu
  | _ => cases hu

/-- **As long as units are new, those of different runs are different.** -/
theorem UnitsApart.turn {q : Call} {answer : q.Answer} (hc : c.UnitsApart)
    (h : Turn r w.withFreshUnits i q answer c c') : c'.UnitsApart := by
  have hold : ∀ j u, q.created? answer = some u → c.unitAt? j ≠ some u := fun j u hu hj =>
    h.created_not_mem hu (hc.noted j u hj)
  refine ⟨fun j u hj => ?_, fun j j' u hj hj' => ?_⟩
  · rw [h.units]
    rcases h.unitAt? hj with hj | ⟨-, hu⟩
    · exact List.mem_append_right _ (hc.noted j u hj)
    · exact List.mem_append_left _ (Option.mem_toList.mpr hu)
  · rcases h.unitAt? hj with hj | ⟨rfl, hu⟩ <;> rcases h.unitAt? hj' with hj' | ⟨rfl, hu'⟩
    · exact hc.apart j j' u hj hj'
    · exact absurd hj (hold j u hu')
    · exact absurd hj' (hold j' u hu)
    · rfl

theorem UnitsApart.request {e : Errand} (hc : c.UnitsApart) :
    ({ c with stages := c.stages ++ [.begin r e] } : Staging).UnitsApart := by
  have hold : ∀ j u, ({ c with stages := c.stages ++ [.begin r e] } : Staging).unitAt? j = some u →
      c.unitAt? j = some u := by
    intro j u hj
    obtain ⟨x, hx, hu⟩ := Option.bind_eq_some_iff.mp hj
    rcases stages_request hx with hx | rfl
    · exact Option.bind_eq_some_iff.mpr ⟨x, hx, hu⟩
    · rw [Stage.unit?_begin] at hu
      cases hu
  exact ⟨fun j u hj => hc.noted j u (hold j u hj),
    fun j j' u hj hj' => hc.apart j j' u (hold j u hj) (hold j' u hj')⟩

theorem unitsApart_history {m : Store.Memory} {t : List Crowd.Event}
    (h : History r w.withFreshUnits (idle m) t c) : c.UnitsApart := by
  induction h with
  | start => exact ⟨fun i u hi => (by cases hi), fun i i' u hi => (by cases hi)⟩
  | request _ he ih => exact ih.request
  | turn _ hturn ih => exact ih.turn hturn

/-- A run that has a unit has created it. -/
theorem created_of_unit? {m : Store.Memory} {errands : List Errand} {t : List Crowd.Event}
    (h : History r w (gathered r m errands) t c) {ctx : UnitContext} {test : SecurityTest}
    {stage : RunStage} (hi : c.stages[i]? = some (.run ctx test stage)) {id : String}
    (hid : stage.unit? = some id) :
    ⟨i, .backend (.createUnit ctx test.imageRef (r.command test)), .ok id⟩ ∈ t := by
  refine Crowd.mem_said.mp (run_of_turns (P := fun u ctx test stage => ∀ id, stage.unit? = some id →
    ⟨.backend (.createUnit ctx test.imageRef (r.command test)), .ok id⟩ ∈ u) ?_ ?_ h hi id hid)
  · exact fun ctx test id hid => (by cases hid)
  · intro u ctx test st st' known q answer tests hstep hst id hid
    rcases hstep.unit? with hsame | ⟨id', hid', he⟩
    · exact List.mem_append_left _ (hst id (hsame ▸ hid))
    · obtain rfl : id' = id := Option.some.inj (hid'.symm.trans hid)
      exact List.mem_append_right _ (List.mem_singleton.mpr he.symm)

/-- No two runs of an analysis take their jobs to have units of one identifier. -/
theorem UnitsApart.distinct_account (hc : c.UnitsApart) (rid : Uuid) :
    (c.account r rid).Distinct := by
  have hunit : ∀ i job id, (c.account r rid).known i = some job → job.executionId = some id →
      c.unitAt? i = some (rid, id) := by
    intro i job id hk hid
    obtain ⟨ctx, stage, hrid, hi, hentry⟩ := exists_run_of_known hk
    refine Option.bind_eq_some_iff.mpr ⟨_, hi, ?_⟩
    rw [Stage.unit?, RunStage.unit?_of_entry? hentry, hid, hrid, Option.map_some]
  intro i i' job job' hk hk' hsome he
  obtain ⟨id, hid⟩ := Option.ne_none_iff_exists'.mp hsome
  exact hc.apart i i' (rid, id) (hunit i job id hk hid) (hunit i' job' id hk' (he ▸ hid))

end Staging
end Service
end ScanService
