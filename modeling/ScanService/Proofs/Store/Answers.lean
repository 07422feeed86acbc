import Mathlib.Data.List.Nodup
import ScanService.Proofs.Stages.Plain

/-!
# What answers of the store say

As long as no two analyses share an identifier, each change that a task makes is a change of the one
analysis it names: `editAnalysis` says which.  What is said here holds of stores that may also fail
of themselves, having done nothing.

## What is here

* `updateFirst_rid`, `updateJobIn_job` — the store's own recursion, as a change of one analysis.
* `Surroundings.Stores` — for each call, what a success says about the store before and after.
-/

namespace ScanService
namespace Store

/-- Changes the analysis with an identifier. -/
def editAnalysis (rid : Uuid) (f : Analysis → Analysis) (as : List Analysis) : List Analysis :=
  as.map fun a => if a.rid = rid then f a else a

/-- Changes the first job with an execution identifier, if there is one. -/
def editJob (id : String) (p : JobPatch) (jobs : List Job) : List Job :=
  (updateFirst (fun j => j.executionId == some id) p.apply jobs).getD jobs

variable {rid : Uuid} {f : Analysis → Analysis} {as as' : List Analysis} {a : Analysis}

/-! ## Changes of one analysis -/

theorem mem_editAnalysis {b : Analysis} :
    b ∈ editAnalysis rid f as ↔ ∃ a ∈ as, (if a.rid = rid then f a else a) = b :=
  List.mem_map

theorem editAnalysis_id : editAnalysis rid id as = as := by
  simp [editAnalysis]

theorem editAnalysis_cons_of_ne (h : a.rid ≠ rid) :
    editAnalysis rid f (a :: as) = a :: editAnalysis rid f as := by
  rw [editAnalysis, List.map_cons, if_neg h, ← editAnalysis]

/-- A change elsewhere is no change. -/
theorem editAnalysis_of_not_mem (h : rid ∉ as.map Analysis.rid) : editAnalysis rid f as = as := by
  refine (List.map_congr_left fun a ha => ?_).trans (List.map_id as)
  have hne : a.rid ≠ rid := by
    rintro rfl
    exact h (List.mem_map_of_mem ha)
  rw [if_neg hne, id]

theorem editAnalysis_cons_of_not_mem (h : a.rid ∉ as.map Analysis.rid) :
    editAnalysis a.rid f (a :: as) = f a :: as := by
  rw [editAnalysis, List.map_cons, if_pos rfl, ← editAnalysis, editAnalysis_of_not_mem h]

theorem map_rid_editAnalysis (hf : ∀ a, (f a).rid = a.rid) :
    (editAnalysis rid f as).map Analysis.rid = as.map Analysis.rid := by
  rw [editAnalysis, List.map_map]
  refine List.map_congr_left fun a _ => ?_
  by_cases h : a.rid = rid <;> simp [h, hf]

/-- Two stored analyses with one identifier are the same. -/
theorem eq_of_rid_eq (hn : (as.map Analysis.rid).Nodup) {b : Analysis} (ha : a ∈ as) (hb : b ∈ as)
    (h : a.rid = b.rid) : a = b :=
  List.inj_on_of_nodup_map hn ha hb h

/-- The first analysis with an identifier is the one with it. -/
theorem find?_rid_eq_some_iff (hn : (as.map Analysis.rid).Nodup) :
    as.find? (·.rid == rid) = some a ↔ a ∈ as ∧ a.rid = rid := by
  constructor
  · intro h
    exact ⟨List.mem_of_find?_eq_some h, by simpa using List.find?_some h⟩
  · rintro ⟨ha, rfl⟩
    obtain ⟨b, hb⟩ : ∃ b, as.find? (·.rid == a.rid) = some b := by
      rw [← Option.isSome_iff_exists, List.find?_isSome]
      exact ⟨a, ha, by simp⟩
    have hrid : b.rid = a.rid := by simpa using List.find?_some hb
    rw [hb, eq_of_rid_eq hn (List.mem_of_find?_eq_some hb) ha hrid]

theorem accepts_rid : (Filter.rid rid).accepts a = (a.rid == rid) := by
  simp [Filter.accepts, Filter.rid, Matchable.hasValue]

theorem accepts_url {repository : Repository} {url : String} :
    (Filter.url url).accepts repository = (repository.url == url) := by
  simp [Filter.accepts, Filter.url, Matchable.hasValue]

theorem accepts_name {name : String} {test : SecurityTest} :
    (Filter.name name).accepts test = (test.name == name) := by
  simp [Filter.accepts, Filter.name, Matchable.hasValue]

theorem accepts_runningFor {url : String} :
    (Filter.runningFor url).accepts a = (a.url == url && a.status == .running) := by
  have hname : (a.status.name == AnalysisStatus.running.name) = (a.status == .running) := by
    cases a.status <;> rfl
  simp only [Filter.accepts, Filter.runningFor, Matchable.hasValue, List.all_cons, List.all_nil,
    Bool.and_true, hname]

theorem accepts_defaultsFor {language : String} {test : SecurityTest} :
    (Filter.defaultsFor language).accepts test = (test.language == language && test.isDefault) := by
  simp [Filter.accepts, Filter.defaultsFor, Matchable.hasValue]

theorem accepts_job {id : String} : (Filter.job rid id).accepts a =
    (a.rid == rid && a.jobs.any fun j => j.executionId == some id) := by
  simp [Filter.accepts, Filter.job, Matchable.hasValue]

/-- A change of the first analysis with an identifier is a change of the one with it. -/
theorem updateFirst_rid (hn : (as.map Analysis.rid).Nodup)
    (h : updateFirst (Filter.rid rid).accepts f as = some as') :
    as' = editAnalysis rid f as ∧ rid ∈ as.map Analysis.rid := by
  induction as generalizing as' with
  | nil => cases h
  | cons a rest ih =>
    rw [List.map_cons, List.nodup_cons] at hn
    rw [updateFirst, accepts_rid] at h
    by_cases ha : a.rid = rid
    · subst ha
      rw [if_pos (by simp), Option.some.injEq] at h
      rw [editAnalysis_cons_of_not_mem hn.1, List.map_cons]
      exact ⟨h.symm, List.mem_cons_self⟩
    · rw [if_neg (by simpa using ha), Option.map_eq_some_iff] at h
      obtain ⟨rest', hrest', rfl⟩ := h
      obtain ⟨rfl, hmem⟩ := ih hn.2 hrest'
      exact ⟨(editAnalysis_cons_of_ne ha).symm, List.mem_cons_of_mem _ hmem⟩

/-- A change of the first such analysis succeeds if there is one. -/
theorem exists_updateFirst_rid (h : rid ∈ as.map Analysis.rid) :
    ∃ as', updateFirst (Filter.rid rid).accepts f as = some as' := by
  induction as with
  | nil => cases h
  | cons a rest ih =>
    rw [updateFirst, accepts_rid]
    by_cases ha : a.rid = rid
    · rw [if_pos (by simpa using ha)]
      exact ⟨_, rfl⟩
    · rw [if_neg (by simpa using ha)]
      rcases List.mem_cons.mp h with hr | hr
      · exact absurd hr.symm ha
      · obtain ⟨rest', hrest'⟩ := ih hr
        exact ⟨_, congrArg (Option.map (a :: ·)) hrest'⟩

theorem updateFirst_eq_none_iff {α : Type} {p : α → Bool} {g : α → α} {xs : List α} :
    updateFirst p g xs = none ↔ xs.any p = false := by
  induction xs with
  | nil => exact ⟨fun _ => rfl, fun _ => rfl⟩
  | cons x rest ih =>
    rw [updateFirst, List.any_cons]
    cases p x <;> simp [ih]

/-- A change of a job by its identifiers is a change of the analysis it belongs to. -/
theorem updateJobIn_job {id : String} {p : JobPatch} (hn : (as.map Analysis.rid).Nodup)
    (h : updateJobIn (Filter.job rid id) id p as = some as') :
    as' = editAnalysis rid (fun a => { a with jobs := editJob id p a.jobs }) as := by
  induction as generalizing as' with
  | nil => cases h
  | cons a rest ih =>
    rw [List.map_cons, List.nodup_cons] at hn
    rw [updateJobIn, accepts_job] at h
    by_cases ha : a.rid = rid
    · subst ha
      rw [editAnalysis_cons_of_not_mem hn.1]
      cases hjobs : updateFirst (fun j => j.executionId == some id) p.apply a.jobs with
      | some jobs =>
        have hany : a.jobs.any (fun j => j.executionId == some id) = true := by
          rw [← Bool.not_eq_false, ← updateFirst_eq_none_iff (g := p.apply), hjobs]
          simp
        simp only [beq_self_eq_true, hany, Bool.and_self, if_true, hjobs, Option.some.injEq] at h
        rw [← h, editJob, hjobs, Option.getD_some]
      | none =>
        -- then no other analysis can meet the filter
        simp only [hjobs, ite_self, Option.map_eq_some_iff] at h
        obtain ⟨rest', hrest', rfl⟩ := h
        rw [ih hn.2 hrest', editAnalysis_of_not_mem hn.1, editJob, hjobs, Option.getD_none]
    · have hbeq : (a.rid == rid) = false := by simpa using ha
      simp only [hbeq, Bool.false_and, Bool.false_eq_true, if_false, Option.map_eq_some_iff] at h
      obtain ⟨rest', hrest', rfl⟩ := h
      rw [ih hn.2 hrest', editAnalysis_cons_of_ne ha]

/-- A change of a job succeeds if the analysis has the job. -/
theorem exists_updateJobIn_job {id : String} {p : JobPatch} (ha : a ∈ as) (hrid : a.rid = rid)
    (hid : a.jobs.any (fun j => j.executionId == some id) = true) :
    ∃ as', updateJobIn (Filter.job rid id) id p as = some as' := by
  induction as with
  | nil => cases ha
  | cons b rest ih =>
    rw [updateJobIn]
    split
    · exact ⟨_, rfl⟩
    · next hb =>
      rcases List.mem_cons.mp ha with rfl | ha
      · rw [accepts_job, hid, hrid, beq_self_eq_true, Bool.and_self, if_pos rfl,
          updateFirst_eq_none_iff, hid] at hb
        cases hb
      · obtain ⟨rest', hrest'⟩ := ih ha
        exact ⟨_, congrArg (Option.map (b :: ·)) hrest'⟩

end Store

/-! ## Answers -/

namespace Service
namespace Surroundings

open Store

variable {w : Surroundings} {m m' : Memory} {rid : Uuid}

/-- A call that fails leaves the store as it is. -/
theorem stores_error {c : Store.Call} {e : ServiceError} (h : w.Stores c m (.error e) m') :
    m' = m := by
  rcases h with h | ⟨_, _, _, h⟩
  · cases c <;> simp only [Memory.answer] at h <;> (try split at h) <;> (try split at h) <;>
      cases h <;> rfl
  · exact h

/-- A call that succeeds is answered by the store itself. -/
theorem stores_ok {c : Store.Call} {a : c.Result} (h : w.Stores c m (.ok a) m') :
    (.ok a, m') = m.answer c := by
  rcases h with h | ⟨_, _, h, _⟩
  · exact h
  · cases h

/-- Whoever does not ask for a change of an analysis changes none. -/
theorem stores_of_sparesAnalyses {c : Store.Call} {answer : c.Answer} (hc : c.sparesAnalyses)
    (h : w.Stores c m answer m') : m'.analyses = m.analyses := by
  rcases h with h | ⟨_, _, _, rfl⟩
  · cases c <;> first | exact hc.elim | skip
    all_goals
      simp only [Memory.answer] at h
      try split at h
      all_goals
        cases h
        rfl
  · rfl

/-- A call leaves the registered tests as they are, or it registers one under a name that is not
taken. -/
theorem stores_securityTests_cases {c : Store.Call} {answer : c.Answer}
    (h : w.Stores c m answer m') : m'.securityTests = m.securityTests ∨
      ∃ test, c = .insertSecurityTest test ∧ test.name ∉ m.securityTests.map (·.name) ∧
        m'.securityTests = m.securityTests ++ [test] := by
  rcases h with h | ⟨_, _, _, rfl⟩
  · cases c
    case insertSecurityTest test =>
      simp only [Memory.answer] at h
      split at h
      · cases h
        exact .inl rfl
      · next hnew =>
        cases h
        refine .inr ⟨test, rfl, fun hmem => hnew ?_, rfl⟩
        obtain ⟨other, hother, he⟩ := List.mem_map.mp hmem
        exact List.any_eq_true.mpr ⟨other, hother, by simpa using he⟩
    all_goals
      simp only [Memory.answer] at h
      try split at h
      all_goals
        try split at h
        all_goals
          cases h
          exact .inl rfl
  · exact .inl rfl

/-- Tests that are registered stay so, in their order. -/
theorem stores_securityTests_isPrefix {c : Store.Call} {answer : c.Answer}
    (h : w.Stores c m answer m') : m.securityTests <+: m'.securityTests := by
  rcases stores_securityTests_cases h with he | ⟨test, -, -, he⟩
  · exact he ▸ List.prefix_refl _
  · exact he ▸ List.prefix_append _ _

/-! ### Calls that do not fail -/

/-- A store that does not fail of itself gives its own answer. -/
theorem stores_reliable {c : Store.Call} {answer : c.Answer}
    (h : w.reliable.Stores c m answer m') : (answer, m') = m.answer c := by
  rcases h with h | ⟨_, hf, _, _⟩
  · exact h
  · exact hf.elim

/-- Such a store can be read. -/
theorem stores_findAnalysis_ne_error {f : Filter} {answer : Except ServiceError (Option Analysis)}
    (h : w.reliable.Stores (.findAnalysis f) m answer m') (e : ServiceError) :
    answer ≠ .error e := by
  rintro rfl
  cases stores_reliable h

/-- An entry for a stored analysis is recorded. -/
theorem stores_pushJob_isOk (hrid : rid ∈ m.analyses.map Analysis.rid) {j : Job}
    {answer : Except ServiceError Unit}
    (h : w.reliable.Stores (.pushJob (.rid rid) j) m answer m') : answer = .ok () := by
  have h := stores_reliable h
  obtain ⟨as, has⟩ := exists_updateFirst_rid
    (f := fun a : Analysis => { a with jobs := a.jobs ++ [j] }) hrid
  rw [Memory.answer, has] at h
  exact congrArg Prod.fst h

/-- A change of an entry that is there is made. -/
theorem stores_updateJob_isOk {a : Analysis} (ha : a ∈ m.analyses) {id : String}
    (hid : ∃ j ∈ a.jobs, j.executionId = some id) {p : JobPatch} {answer : Except ServiceError Unit}
    (h : w.reliable.Stores (.updateJob (.job a.rid id) p) m answer m') : answer = .ok () := by
  have h := stores_reliable h
  obtain ⟨j, hj, hid⟩ := hid
  have hany : a.jobs.any (fun j => j.executionId == some id) = true :=
    List.any_eq_true.mpr ⟨j, hj, by simp [hid]⟩
  obtain ⟨as, has⟩ := exists_updateJobIn_job (p := p) ha rfl hany
  have hname : ((Filter.job a.rid id).valueOf? .executionId).bind Value.text? = some id := rfl
  simp only [Memory.answer, hname, has] at h
  exact congrArg Prod.fst h

/-- A change of a stored analysis is made. -/
theorem stores_updateAnalysis_isOk (hrid : rid ∈ m.analyses.map Analysis.rid) {p : AnalysisPatch}
    {answer : Except ServiceError Unit}
    (h : w.reliable.Stores (.updateAnalysis (.rid rid) p) m answer m') : answer = .ok () := by
  have h := stores_reliable h
  obtain ⟨as, has⟩ := exists_updateFirst_rid (f := p.apply) hrid
  rw [Memory.answer, has] at h
  exact congrArg Prod.fst h

/-- The test that is found under a name. -/
theorem find?_of_stores_findSecurityTest {name : String} {found : Option SecurityTest}
    (h : w.Stores (.findSecurityTest (.name name)) m (.ok found) m') :
    found = m.securityTests.find? (·.name == name) := by
  have h := congrArg Prod.fst (stores_ok h)
  simp only [Memory.answer, Except.ok.injEq] at h
  rwa [show (Filter.name name).accepts = fun test : SecurityTest => test.name == name from
    funext fun test => accepts_name] at h

/-- The tests that are found for a language. -/
theorem filter_of_stores_findSecurityTests {language : String} {found : List SecurityTest}
    (h : w.Stores (.findSecurityTests (.defaultsFor language)) m (.ok found) m') :
    found = m.securityTests.filter fun test => test.language == language && test.isDefault := by
  have h := congrArg Prod.fst (stores_ok h)
  simp only [Memory.answer, Except.ok.injEq] at h
  rwa [show (Filter.defaultsFor language).accepts =
    fun test : SecurityTest => test.language == language && test.isDefault from
    funext fun test => accepts_defaultsFor] at h

/-- The tests that are looked up for a language are all its default ones. -/
theorem mem_of_stores_findSecurityTests {language : String}
    {answer : Except ServiceError (List SecurityTest)}
    (h : w.reliable.Stores (.findSecurityTests (.defaultsFor language)) m answer m')
    {test : SecurityTest} (ht : test ∈ m.securityTests) (hl : test.language = language)
    (hd : test.isDefault = true) : test ∈ answer.toOption.getD [] := by
  cases answer with
  | error e => cases stores_reliable h
  | ok found =>
    rw [filter_of_stores_findSecurityTests h]
    exact List.mem_filter.mpr ⟨ht, by simp [hl, hd]⟩

/-- What is found under a URL. -/
theorem find?_of_stores_findRepository {url : String} {found : Option Repository}
    (h : w.Stores (.findRepository (.url url)) m (.ok found) m') :
    found = m.repositories.find? (·.url == url) := by
  have h := congrArg Prod.fst (stores_ok h)
  simp only [Memory.answer, Except.ok.injEq] at h
  rwa [show (Filter.url url).accepts = fun x : Repository => x.url == url from
    funext fun x => accepts_url] at h

/-- The names that are read are those of a stored analysis. -/
theorem pendingNames_of_stores_findAnalysis {answer : Except ServiceError (Option Analysis)}
    (h : w.Stores (.findAnalysis (.rid rid)) m answer m') {name : String}
    (hn : name ∈ (answer.toOption.join.map Analysis.pendingNames).getD []) :
    ∃ a ∈ m.analyses, a.rid = rid ∧ name ∈ a.pendingNames := by
  cases answer with
  | error e => cases hn
  | ok found =>
    cases found with
    | none => cases hn
    | some a =>
      have h := congrArg Prod.fst (stores_ok h)
      simp only [Memory.answer, Except.ok.injEq] at h
      have hrid := List.find?_some h.symm
      rw [accepts_rid, beq_iff_eq] at hrid
      exact ⟨a, List.mem_of_find?_eq_some h.symm, hrid, hn⟩

/-! ### What has been done -/

theorem stores_pushJob (hn : (m.analyses.map Analysis.rid).Nodup) {j : Job} {u : Unit}
    (h : w.Stores (.pushJob (.rid rid) j) m (.ok u) m') :
    m'.analyses = editAnalysis rid (fun a => { a with jobs := a.jobs ++ [j] }) m.analyses := by
  have h := stores_ok h
  rw [Memory.answer] at h
  split at h
  · next as has =>
    cases h
    exact (updateFirst_rid hn has).1
  · cases h

theorem stores_updateJob (hn : (m.analyses.map Analysis.rid).Nodup) {id : String} {p : JobPatch}
    {u : Unit} (h : w.Stores (.updateJob (.job rid id) p) m (.ok u) m') :
    m'.analyses =
      editAnalysis rid (fun a => { a with jobs := editJob id p a.jobs }) m.analyses := by
  have h := stores_ok h
  have hid : ((Filter.job rid id).valueOf? .executionId).bind Value.text? = some id := rfl
  simp only [Memory.answer, hid] at h
  split at h
  · next as has =>
    cases h
    exact updateJobIn_job hn has
  · cases h

theorem stores_updateAnalysis (hn : (m.analyses.map Analysis.rid).Nodup) {p : AnalysisPatch}
    {u : Unit} (h : w.Stores (.updateAnalysis (.rid rid) p) m (.ok u) m') :
    m'.analyses = editAnalysis rid p.apply m.analyses := by
  have h := stores_ok h
  rw [Memory.answer] at h
  split at h
  · next as has =>
    cases h
    exact (updateFirst_rid hn has).1
  · cases h

theorem stores_insertAnalysis {a : Analysis} {u : Unit}
    (h : w.Stores (.insertAnalysis a) m (.ok u) m') :
    m'.analyses = m.analyses ++ [a] ∧ a.rid ∉ m.analyses.map Analysis.rid := by
  have h := stores_ok h
  rw [Memory.answer] at h
  split at h
  · cases h
  · next hnew =>
    cases h
    refine ⟨rfl, fun hmem => hnew ?_⟩
    obtain ⟨b, hb, hrid⟩ := List.mem_map.mp hmem
    exact List.any_eq_true.mpr ⟨b, hb, by simpa using hrid⟩

theorem stores_findAnalysis {found : Option Analysis}
    (h : w.Stores (.findAnalysis (.rid rid)) m (.ok found) m') :
    found = m.analyses.find? (·.rid == rid) ∧ m' = m := by
  have h := stores_ok h
  simp only [Memory.answer, Prod.mk.injEq, Except.ok.injEq] at h
  rw [show (Filter.rid rid).accepts = fun a : Analysis => a.rid == rid from
    funext fun a => accepts_rid] at h
  exact h

theorem stores_runningFor {url : String} {running : List Analysis}
    (h : w.Stores (.findAnalyses (.runningFor url)) m (.ok running) m') :
    running = m.analyses.filter (fun a => a.url == url && a.status == .running) ∧ m' = m := by
  have h := stores_ok h
  simp only [Memory.answer, Prod.mk.injEq, Except.ok.injEq] at h
  rw [show (Filter.runningFor url).accepts = fun a => a.url == url && a.status == .running from
    funext fun a => accepts_runningFor] at h
  exact h

theorem stores_findRepository {url : String} {repository : Repository}
    (h : w.Stores (.findRepository (.url url)) m (.ok (some repository)) m') :
    repository.url = url ∧ m' = m := by
  have h := stores_ok h
  simp only [Memory.answer, Prod.mk.injEq, Except.ok.injEq] at h
  have hurl := List.find?_some h.1.symm
  rw [accepts_url] at hurl
  exact ⟨by simpa using hurl, h.2⟩

/-- What is read of a stored analysis, if it can be read. -/
theorem pendingNames_eq_of_stores_findAnalysis {answer : Except ServiceError (Option Analysis)}
    (h : w.Stores (.findAnalysis (.rid rid)) m answer m') (hread : ∀ e, answer ≠ .error e)
    (hn : (m.analyses.map Analysis.rid).Nodup) {a : Analysis} (ha : a ∈ m.analyses)
    (hrid : a.rid = rid) :
    (answer.toOption.join.map Analysis.pendingNames).getD [] = a.pendingNames := by
  cases answer with
  | error e => exact absurd rfl (hread e)
  | ok found =>
    rw [(stores_findAnalysis h).1, (find?_rid_eq_some_iff hn).mpr ⟨ha, hrid⟩]
    rfl

/-- A repository that is found is stored. -/
theorem mem_of_stores_findRepository {f : Filter} {repository : Repository}
    (h : w.Stores (.findRepository f) m (.ok (some repository)) m') :
    repository ∈ m.repositories := by
  have h := stores_ok h
  simp only [Memory.answer, Prod.mk.injEq, Except.ok.injEq] at h
  exact List.mem_of_find?_eq_some h.1.symm

end Surroundings
end Service
end ScanService
