import ScanService.Proofs.Ledger.Kept
import ScanService.Proofs.Stages.Launches

/-!
# Tests that follow

When a detector has passed it selects tests, reads which are scheduled, and has those appended and
launched that are new.  Which these are is said here without the program's own recursion
(`newcomers`), and so is all that is said to the store and to the crowd about them.

## What is here

* `followUps_eq_newcomers` — **the tests that follow are those of a new name, each at its first
  occurrence, and never the detector.**
* `exists_of_trace_enqueueFollowUps` — **every conversation about follow-up tests:** `Chooses` says
  how they are chosen, and `Enqueues` what is done then.
* `AreNew` — tests that can be appended without a name occurring twice; `Staging.areNew_of_turn` —
  they stay so while nobody else appends any.
-/

namespace ScanService
namespace Service

open Execution (UnitContext)

/-! ## Which tests follow -/

/-- The tests among those selected that are at the first occurrence of their name there, which is
neither the detector's nor scheduled. -/
def newcomers (scheduled : List String) (selected : List SecurityTest) : List SecurityTest :=
  (selected.zipIdx.filter fun x => x.1.name ≠ SecurityTest.detectorName ∧ x.1.name ∉ scheduled ∧
    x.1.name ∉ (selected.take x.2).map (·.name)).map (·.1)

/-- Behind a test its name counts as scheduled. -/
theorem newcomers_cons (scheduled : List String) (test : SecurityTest)
    (rest : List SecurityTest) : newcomers scheduled (test :: rest) =
      (if test.name ≠ SecurityTest.detectorName ∧ test.name ∉ scheduled then [test] else []) ++
        newcomers (test.name :: scheduled) rest := by
  have hrest : ∀ x : SecurityTest × Nat, (x.1.name ≠ SecurityTest.detectorName ∧
      x.1.name ∉ scheduled ∧ x.1.name ∉ ((test :: rest).take (x.2 + 1)).map (·.name)) ↔
      (x.1.name ≠ SecurityTest.detectorName ∧ x.1.name ∉ test.name :: scheduled ∧
        x.1.name ∉ (rest.take x.2).map (·.name)) := by
    intro x
    rw [List.take_succ_cons, List.map_cons, List.mem_cons, List.mem_cons]
    tauto
  have htail : newcomers (test.name :: scheduled) rest =
      ((rest.zipIdx.map (Prod.map id (· + 1))).filter fun x =>
        x.1.name ≠ SecurityTest.detectorName ∧ x.1.name ∉ scheduled ∧
          x.1.name ∉ ((test :: rest).take x.2).map (·.name)).map (·.1) := by
    rw [List.filter_map, List.map_map, newcomers]
    refine congrArg (List.map _) (List.filter_congr fun x _ => ?_)
    exact decide_eq_decide.mpr (hrest x).symm
  rw [newcomers, List.zipIdx_cons', List.filter_cons, htail]
  by_cases h : test.name ≠ SecurityTest.detectorName ∧ test.name ∉ scheduled
  · simp [h]
  · simp [h]

/-- Whether a name that nobody asks for counts as scheduled makes no difference. -/
theorem newcomers_cons_scheduled {scheduled : List String} {name : String}
    (h : name = SecurityTest.detectorName ∨ name ∈ scheduled) (selected : List SecurityTest) :
    newcomers (name :: scheduled) selected = newcomers scheduled selected := by
  refine congrArg (List.map _) (List.filter_congr fun x _ => decide_eq_decide.mpr ?_)
  rw [List.mem_cons]
  constructor
  · rintro ⟨hd, hs, hfirst⟩
    exact ⟨hd, fun hmem => hs (.inr hmem), hfirst⟩
  · rintro ⟨hd, hs, hfirst⟩
    refine ⟨hd, ?_, hfirst⟩
    rintro (rfl | hmem)
    · exact h.elim hd hs
    · exact hs hmem

/-- **The tests that follow are those of a new name**, each at its first occurrence, and never the
detector. -/
theorem followUps_eq_newcomers (scheduled : List String) (selected : List SecurityTest) :
    followUps scheduled selected = newcomers scheduled selected := by
  induction selected generalizing scheduled with
  | nil => rfl
  | cons test rest ih =>
    rw [newcomers_cons, followUps, List.filter_cons]
    by_cases hd : test.name = SecurityTest.detectorName
    · rw [if_neg (by simp [hd]), if_neg (by simp [hd]), newcomers_cons_scheduled (.inl hd), ← ih]
      rfl
    · rw [if_pos (by simpa using hd), firstBy]
      by_cases hs : test.name ∈ scheduled
      · rw [if_pos hs, if_neg (by simp [hs]), newcomers_cons_scheduled (.inr hs), ← ih]
        rfl
      · rw [if_neg hs, if_pos ⟨hd, hs⟩, ← ih]
        rfl

/-! ## What is said about them -/

variable {ctx : UnitContext} {languages : List String} {tests : List SecurityTest}
  {u : List (Program.Exchange activity)}

/-- What is said about tests that are to follow: if there are any they are to be appended, and if they
have been each is launched, in order. -/
inductive Enqueues (ctx : UnitContext) (tests : List SecurityTest) :
    List (Program.Exchange activity) → Prop where
  /-- There are none. -/
  | nothing (h : tests = []) : Enqueues ctx tests []
  /-- They are not appended. -/
  | refused (h : tests ≠ []) (e : ServiceError) : Enqueues ctx tests
    [⟨.store (.updateAnalysis (.rid ctx.rid) { append := tests }), .error e⟩]
  /-- They are appended and launched. -/
  | enqueued (h : tests ≠ []) : Enqueues ctx tests
    (⟨.store (.updateAnalysis (.rid ctx.rid) { append := tests }), .ok ()⟩ ::
      tests.map fun test => ⟨.launch ctx test, ()⟩)

/-- Launching some tests says no more than that. -/
theorem trace_launches (h : (Program.forEach (Task.launch ctx) tests).Trace u ()) :
    u = tests.map fun test => ⟨.launch ctx test, ()⟩ := by
  induction tests generalizing u with
  | nil => exact (Program.trace_done_iff.mp h).1
  | cons test rest ih =>
    obtain ⟨_, v, rfl, hv⟩ := Program.trace_ask_iff.mp h
    rw [List.map_cons, ih hv]

theorem enqueues_of_trace (h : (recordTests ctx tests).Trace u ()) : Enqueues ctx tests u := by
  cases tests with
  | nil =>
    obtain ⟨rfl, -⟩ := Program.trace_done_iff.mp h
    exact .nothing rfl
  | cons first rest =>
    obtain ⟨answer, v, rfl, hv⟩ := Program.trace_ask_iff.mp h
    cases answer with
    | ok _ =>
      rw [trace_launches hv]
      exact .enqueued (List.cons_ne_nil _ _)
    | error e =>
      obtain ⟨rfl, -⟩ := Program.trace_done_iff.mp hv
      exact .refused (List.cons_ne_nil _ _) e

/-- What is said to choose the tests that follow: some are selected for the languages, which is
recorded for the repository, and then the scheduled ones are read.  When these cannot be read, none
counts as scheduled. -/
inductive Chooses (ctx : UnitContext) (languages : List String) :
    List (Program.Exchange activity) → List SecurityTest → Prop where
  | intro {look : List (Program.Exchange activity)} {selected : List SecurityTest}
    (h : (selectTests languages).Trace look selected) (recorded : Except ServiceError Unit)
    (read : Except ServiceError (Option Analysis)) : Chooses ctx languages
      (look ++ [⟨.store (.updateRepository (.url ctx.repositoryUrl)
          { languages := some languages, securityTests := some selected }), recorded⟩,
        ⟨.store (.findAnalysis (.rid ctx.rid)), read⟩])
      (newcomers ((read.toOption.join.map Analysis.pendingNames).getD []) selected)

/-- **Every conversation about follow-up tests:** they are chosen, and then they are enqueued. -/
theorem exists_of_trace_enqueueFollowUps (h : (enqueueFollowUps ctx languages).Trace u ()) :
    ∃ choice rest tests,
      u = choice ++ rest ∧ Chooses ctx languages choice tests ∧ Enqueues ctx tests rest := by
  obtain ⟨look, v, selected, rfl, hlook, hv⟩ := Program.trace_bind (m := selectTests languages).mp h
  obtain ⟨recorded, v', rfl, hv'⟩ := Program.trace_ask_iff.mp hv
  replace hv' : ((scheduledNames ctx.rid).bind fun scheduled =>
    recordTests ctx (followUps scheduled selected)).Trace v' () := hv'
  rw [RunStage.bind_scheduledNames] at hv'
  obtain ⟨read, rest, rfl, hrest⟩ := Program.trace_ask_iff.mp hv'
  rw [followUps_eq_newcomers] at hrest
  refine ⟨_, rest, _, ?_, .intro hlook recorded read, enqueues_of_trace hrest⟩
  rw [List.append_assoc]
  rfl

/-- What was said before some tests were refused was said to choose them. -/
theorem Chooses.of_trace_refused {e : ServiceError}
    (h : (enqueueFollowUps ctx languages).Trace
      (u ++ [⟨.store (.updateAnalysis (.rid ctx.rid) { append := tests }), .error e⟩]) ()) :
    Chooses ctx languages u tests := by
  obtain ⟨choice, rest, tests', hu, hchoice, hrest⟩ := exists_of_trace_enqueueFollowUps h
  cases hrest with
  | nothing =>
    cases hchoice with
    | @intro look selected =>
      rw [List.append_nil, List.append_cons look] at hu
      cases (List.append_inj' hu rfl).2
  | refused =>
    obtain ⟨rfl, he⟩ := List.append_inj' hu rfl
    cases he
    exact hchoice
  | enqueued hne =>
    obtain ⟨init, last, rfl⟩ := (List.eq_nil_or_concat tests').resolve_left hne
    rw [List.concat_eq_append, List.map_append, List.append_cons choice, ← List.append_assoc] at hu
    cases (List.append_inj' hu rfl).2

/-! ## Tests that can be appended -/

variable {m m' : Store.Memory} {rid : Uuid} {w : Surroundings}

/-- Tests have different names, none of which is that of a test that is to run for an analysis. -/
def AreNew (m : Store.Memory) (rid : Uuid) (tests : List SecurityTest) : Prop :=
  (tests.map (·.name)).Nodup ∧
    ∀ a ∈ m.analyses, a.rid = rid → ∀ test ∈ tests, test.name ∉ a.pendingNames

/-- The tests that follow are new when the scheduled ones have just been read. -/
theorem areNew_followUps {answer : Except ServiceError (Option Analysis)}
    (ha : w.Stores (.findAnalysis (.rid rid)) m answer m')
    (hread : ∀ e, answer ≠ .error e) (hn : (m.analyses.map Analysis.rid).Nodup)
    (selected : List SecurityTest) :
    AreNew m rid
      (followUps ((answer.toOption.join.map Analysis.pendingNames).getD []) selected) := by
  refine ⟨nodup_map_firstBy _ _, fun a hmem hrid test htest => ?_⟩
  rw [w.pendingNames_eq_of_stores_findAnalysis ha hread hn hmem hrid] at htest
  exact (mem_of_mem_firstBy htest).2

/-- Appending new tests brings none of one name together. -/
theorem AreNew.nodup_append (h : AreNew m rid tests) {a : Analysis} (ha : a ∈ m.analyses)
    (hrid : a.rid = rid) (hn : a.pendingNames.Nodup) :
    ((a.securityTests ++ tests).map (·.name)).Nodup := by
  rw [List.map_append, List.nodup_append']
  refine ⟨hn, h.1, fun name hname hname' => ?_⟩
  obtain ⟨test, htest, rfl⟩ := List.mem_map.mp hname'
  exact h.2 a ha hrid test htest hname

/-- Tests stay new in a turn, unless it is that of a detector that appends some. -/
theorem Staging.areNew_of_turn {r : Runner} {c c' : Staging} {i : Nat} {q : Call}
    {answer : q.Answer} (h : Turn r w i q answer c c') (hn : (c.store.analyses.map Analysis.rid).Nodup)
    (hstored : rid ∈ c.store.analyses.map Analysis.rid) (hnew : AreNew c.store rid tests)
    (hother : ∀ (ctx : UnitContext) (test : SecurityTest) (id : String) (startedAt : Timestamp)
      (reading : Reading) (tests : List SecurityTest), c.stages[i]? =
        some (.run ctx test (.follow id startedAt reading (.recordTests tests))) → ctx.rid ≠ rid) :
    AreNew c'.store rid tests := by
  refine ⟨hnew.1, fun a' ha' hrid' => ?_⟩
  rcases h.scheduled hn ha' with ⟨ha, hrid, -, ht⟩ | ⟨hi, ha, hctx, hrid, -, -⟩ | ⟨-, hfresh, rfl⟩
  · rw [Analysis.pendingNames, ht]
    exact hnew.2 _ ha (hrid.trans hrid')
  · exact absurd (hctx.symm.trans (hrid.trans hrid')) (hother _ _ _ _ _ _ hi)
  · rw [← hrid'] at hstored
    exact absurd hstored hfresh

end Service
end ScanService
