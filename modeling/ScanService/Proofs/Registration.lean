import ScanService.Api.Router
import ScanService.Proofs.Failures
import ScanService.Proofs.Stages.Registration
import ScanService.Proofs.Text.Names

/-!
# Registering repositories

A repository is prepared before it is stored: its form is checked, the tests that it names are looked
up, and the clock is read.  All of this only reads.  The one call that writes comes last, so a
registration that fails, for whatever reason, leaves the store as it was.

What has been registered stays in its place, and is what everybody comes to whose text names its URL.

## What is here

* `Attaches` — the tests that a repository gets, told by the names in its form.
* `preparation`, `registerRepository_eq` — **a registration reads, and then it writes once**.
* `registerRepository_ok_iff`, `registerRepository_error` — what becomes of a form amid failures.
* `Addresses` — a repository that everybody comes to who names its URL.
* `StartsAnalysis` — the requests that start an analysis; `trace_respond` says what they ask first.
* `repository_registered` — **all of this for whatever form, store and failures.**
-/

namespace ScanService
namespace Service

open Store (Memory)

/-! ## Tests of a new repository -/

/-- The tests that a repository gets where some are registered and its form names some. -/
structure Attaches (registered : List SecurityTest) (names : List String)
    (tests : List SecurityTest) : Prop where
  /-- If all names are blank, it gets the generic default tests. -/
  generic : (∀ name ∈ names, Text.trim name = "") →
    tests = registered.filter fun t => t.language == SecurityTest.genericLanguage && t.isDefault
  /-- If not, the first eight different names are looked up, and those that are unknown passed over. -/
  named : (∃ name ∈ names, Text.trim name ≠ "") →
    ∃ first, IsFirstSeen (normalForms names) first ∧
      tests = (first.take 8).filterMap fun name => registered.find? (·.name == name)

section Attaches

variable {registered tests : List SecurityTest} {names : List String}

theorem requestedNames_eq_nil_iff :
    requestedNames names = [] ↔ ∀ name ∈ names, Text.trim name = "" := by
  have hforms : requestedNames names = [] ↔ normalForms names = [] := by
    change (distinct (normalForms names)).take 8 = [] ↔ _
    rw [List.take_eq_nil_iff, or_iff_right (by decide), List.eq_nil_iff_forall_not_mem,
      List.eq_nil_iff_forall_not_mem]
    simp only [(isFirstSeen_distinct (normalForms names)).mem_iff]
  rw [hforms, List.eq_nil_iff_forall_not_mem]
  constructor
  · intro h name hname
    by_contra hne
    exact h _ (mem_normalForms.mpr ⟨name, hname, hne, rfl⟩)
  · rintro h _ hmem
    obtain ⟨name, hname, hne, rfl⟩ := mem_normalForms.mp hmem
    exact hne (h name hname)

/-- A repository gets these tests and no others. -/
theorem attaches_iff : Attaches registered names tests ↔ tests =
    if requestedNames names = [] then
      registered.filter fun t => t.language == SecurityTest.genericLanguage && t.isDefault
    else (requestedNames names).filterMap fun name => registered.find? (·.name == name) := by
  split
  · next h =>
    have hblank := requestedNames_eq_nil_iff.mp h
    refine ⟨fun ha => ha.generic hblank, fun he => ⟨fun _ => he, ?_⟩⟩
    rintro ⟨name, hname, hne⟩
    exact absurd (hblank name hname) hne
  · next h =>
    have hnamed : ∃ name ∈ names, Text.trim name ≠ "" := by
      simpa [requestedNames_eq_nil_iff] using h
    have hfirst := isFirstSeen_distinct (normalForms names)
    constructor
    · intro ha
      obtain ⟨first, hseen, rfl⟩ := ha.named hnamed
      rw [hseen.unique hfirst]
      rfl
    · rintro rfl
      refine ⟨fun hblank => absurd (requestedNames_eq_nil_iff.mpr hblank) h, fun _ => ?_⟩
      exact ⟨_, hfirst, rfl⟩

/-- The tests that are found by some names have these names, in order. -/
theorem map_name_find?_sublist (registered : List SecurityTest) (names : List String) :
    ((names.filterMap fun name => registered.find? (·.name == name)).map (·.name)).Sublist
      names := by
  induction names with
  | nil => exact .slnil
  | cons name rest ih =>
    rw [List.filterMap_cons]
    split
    · exact ih.cons name
    · next t ht =>
      have hname : t.name = name := by simpa using List.find?_some ht
      rw [List.map_cons, hname]
      exact ih.cons_cons name

/-- **No name is there twice.** -/
theorem Attaches.namesApart (h : Attaches registered names tests)
    (hregistered : NamesApart registered) : NamesApart tests := by
  rw [attaches_iff.mp h]
  split
  · exact hregistered.sublist (List.filter_sublist.map _)
  · exact (nodup_requestedNames names).sublist (map_name_find?_sublist ..)

/-- **At most eight tests are attached that are named.** -/
theorem Attaches.length_le (h : Attaches registered names tests)
    (hnamed : ∃ name ∈ names, Text.trim name ≠ "") : tests.length ≤ 8 := by
  obtain ⟨first, -, rfl⟩ := h.named hnamed
  exact (List.length_filterMap_le ..).trans (List.length_take_le ..)

end Attaches

/-! ## Preparations -/

/-- What a form comes to before anything is stored. -/
def preparation (form : RepositoryForm) : Action Repository := do
  checkForm form.violations
  if (Text.trim form.url).isEmpty then throw (.validation "repositoryURL must not be blank")
  let tests ← testsToAttach (requestedNames form.securityTestNames)
  let now ← Action.ofTask Task.readClock
  return ⟨Text.trim form.url, form.vm, tests, [], now, none⟩

/-- Nothing goes on after a failure. -/
theorem throw_bind {α β : Type} (e : ServiceError) (next : α → Action β) :
    (throw e >>= next) = throw e := rfl

/-- **A registration reads, and then it writes once.** -/
theorem registerRepository_eq (form : RepositoryForm) : registerRepository form = do
    let repository ← preparation form
    let _ ← Action.store (.insertRepository repository)
    return repository := by
  rw [registerRepository, preparation, bind_assoc]
  refine bind_congr fun _ => ?_
  cases hblank : (Text.trim form.url).isEmpty with
  | true => simp only [hblank, if_true, throw_bind]
  | false => simp only [hblank, Bool.false_eq_true, if_false, bind_assoc, pure_bind]

theorem testsNamed_onlyReads (names : List String) :
    (testsNamed names).run.OnlyAsks Call.onlyReads := by
  induction names with
  | nil => exact True.intro
  | cons name rest ih =>
    refine onlyAsks_run_bind (store_onlyAsks (c := .findSecurityTest _) True.intro) fun found => ?_
    exact onlyAsks_run_bind ih fun tests => True.intro

theorem testsToAttach_onlyReads (names : List String) :
    (testsToAttach names).run.OnlyAsks Call.onlyReads := by
  rw [testsToAttach]
  split
  · exact store_onlyAsks (c := .findSecurityTests _) True.intro
  · exact testsNamed_onlyReads names

theorem preparation_onlyReads (form : RepositoryForm) :
    (preparation form).run.OnlyAsks Call.onlyReads := by
  refine onlyAsks_run_bind (checkForm_onlyAsks _ _) fun _ => ?_
  cases hblank : (Text.trim form.url).isEmpty with
  | true =>
    simp only [if_true]
    exact True.intro
  | false =>
    simp only [Bool.false_eq_true, if_false]
    refine onlyAsks_run_bind (testsToAttach_onlyReads _) fun tests => ?_
    exact onlyAsks_run_bind (ofTask_onlyAsks ⟨True.intro, fun _ => True.intro⟩) fun now => True.intro

/-! ## Outcomes -/

/-- What a form has come to in a store. -/
structure Registers (d : Script) (form : RepositoryForm) (m : Memory) (r : Repository)
    (m' : Memory) : Prop where
  /-- The repository is known by the URL of the form without blank ends. -/
  url : r.url = Text.trim form.url
  /-- It is of the machine that the form names, and it is registered now. -/
  origin : r.vm = form.vm ∧ r.createdAt = d.now ∧ r.deletedAt = none
  /-- Nothing has been detected in it. -/
  languages : r.languages = []
  /-- It has the tests that it gets. -/
  tests : Attaches m.securityTests form.securityTestNames r.securityTests
  /-- It stands behind the others, and nothing else has changed. -/
  stored : m' = { m with repositories := m.repositories ++ [r] }

section Outcomes

variable {d : Script} {f : Failures} {m m' : Memory} {s : Failures × Memory} {form : RepositoryForm}
  {names : List String} {tests : List SecurityTest} {r : Repository} {e : ServiceError}

theorem testsNamed_runAmid_ok (h : (testsNamed names).runAmid d f m = (.ok tests, s)) :
    tests = names.filterMap fun name => m.securityTests.find? (·.name == name) := by
  induction names generalizing f tests s with
  | nil =>
    cases h
    rfl
  | cons name rest ih =>
    obtain ⟨found, f₁, m₁, hfound, h⟩ := runAmid_bind_ok_iff.mp h
    obtain ⟨more, f₂, m₂, hmore, h⟩ := runAmid_bind_ok_iff.mp h
    cases h
    obtain ⟨-, hanswer, -⟩ := runAmid_store_ok_iff.mp hfound
    rw [answer_findSecurityTest_name] at hanswer
    cases hanswer
    rw [ih hmore, List.filterMap_cons]
    cases m.securityTests.find? (·.name == name) <;> rfl

/-- Whoever is told which tests to attach is told the right ones. -/
theorem testsToAttach_runAmid_ok
    (h : (testsToAttach (requestedNames names)).runAmid d f m = (.ok tests, s)) :
    Attaches m.securityTests names tests := by
  rw [attaches_iff]
  rw [testsToAttach] at h
  by_cases hnil : requestedNames names = []
  · obtain ⟨f', m'⟩ := s
    rw [if_pos (by simpa using hnil)] at h
    obtain ⟨-, hanswer, -⟩ := runAmid_store_ok_iff.mp h
    cases hanswer
    rw [if_pos hnil]
    exact List.filter_congr fun t _ => Store.accepts_defaultsFor
  · rw [if_neg (by simpa using hnil)] at h
    rw [if_neg hnil, testsNamed_runAmid_ok h]

/-- **What is prepared:** the form is valid, and the repository is the one to be registered. -/
theorem preparation_runAmid_ok (h : (preparation form).runAmid d f m = (.ok r, s)) :
    (form.violations = [] ∧ Text.trim form.url ≠ "") ∧
      Registers d form m r { m with repositories := m.repositories ++ [r] } := by
  obtain ⟨u, f₁, m₁, hcheck, h⟩ := runAmid_bind_ok_iff.mp h
  have hvalid : form.violations = [] := by
    by_contra hne
    rw [checkForm, if_neg (by simpa using hne)] at hcheck
    cases hcheck
  rw [checkForm, if_pos (by simp [hvalid])] at hcheck
  cases hcheck
  by_cases hblank : (Text.trim form.url).isEmpty = true
  · rw [if_pos hblank] at h
    cases h
  · rw [if_neg hblank] at h
    obtain ⟨tests, f₂, m₂, htests, h⟩ := runAmid_bind_ok_iff.mp h
    cases h
    rw [String.isEmpty_iff] at hblank
    exact ⟨⟨hvalid, hblank⟩, rfl, ⟨rfl, rfl, rfl⟩, rfl, testsToAttach_runAmid_ok htests, rfl⟩

/-- **A registration that succeeds** has stored what is to be registered, and its URL was new. -/
theorem registerRepository_ok
    (h : (registerRepository form).runAmid d f m = (.ok r, f', m')) :
    Registers d form m r m' ∧ (form.violations = [] ∧ Text.trim form.url ≠ "") ∧
      ∀ x ∈ m.repositories, x.url ≠ r.url := by
  rw [registerRepository_eq] at h
  obtain ⟨r', f₁, m₁, hprepared, h⟩ := runAmid_bind_ok_iff.mp h
  obtain ⟨u, f₂, m₂, hinsert, h⟩ := runAmid_bind_ok_iff.mp h
  cases h
  obtain rfl := runAmid_of_reads (preparation_onlyReads form) hprepared
  obtain ⟨-, hanswer, -⟩ := runAmid_store_ok_iff.mp hinsert
  obtain ⟨hvalid, hregisters⟩ := preparation_runAmid_ok hprepared
  rw [answer_insertRepository] at hanswer
  split at hanswer
  · cases hanswer
  · next hnew =>
    cases hanswer
    exact ⟨hregisters, hvalid, by simpa using hnew⟩

/-- **A registration that fails** leaves the store as it is. -/
theorem registerRepository_error
    (h : (registerRepository form).runAmid d f m = (.error e, f', m')) : m' = m := by
  rw [registerRepository_eq] at h
  rcases runAmid_bind_error_iff.mp h with hprepared | ⟨r, f₁, m₁, hprepared, hrest⟩
  · exact runAmid_of_reads (preparation_onlyReads form) hprepared
  · obtain rfl := runAmid_of_reads (preparation_onlyReads form) hprepared
    rcases runAmid_bind_error_iff.mp hrest with hinsert | ⟨u, f₂, m₂, -, hdone⟩
    · exact runAmid_store_error hinsert
    · cases hdone

/-- A valid form is prepared, if no call fails. -/
theorem exists_preparation_runAmid (hvalid : form.violations = []) (hurl : Text.trim form.url ≠ "") :
    ∃ r, (preparation form).runAmid d .never m = (.ok r, .never, m) := by
  have hcheck : (checkForm form.violations).runIn d m = (.ok (), m) := by
    rw [checkForm_runIn, if_pos hvalid]
  have hblank : ¬(Text.trim form.url).isEmpty = true := by rwa [String.isEmpty_iff]
  have htests : ∃ tests, (testsToAttach (requestedNames form.securityTestNames)).runIn d m =
      (.ok tests, m) := by
    by_cases hnil : requestedNames form.securityTestNames = []
    · rw [testsToAttach, if_pos (by simpa using hnil)]
      exact ⟨_, rfl⟩
    · exact ⟨_, testsToAttach_runIn hnil⟩
  obtain ⟨tests, htests⟩ := htests
  have hprepared : (preparation form).runIn d m =
      (.ok ⟨Text.trim form.url, form.vm, tests, [], d.now, none⟩, m) := by
    rw [preparation, runIn_bind_of_ok hcheck]
    simp only [if_neg hblank]
    rw [runIn_bind_of_ok htests, runIn_bind_of_ok runIn_readClock, runIn_pure]
  exact ⟨_, runAmid_never_of_runIn hprepared⟩

/-- **A valid form is refused if its URL is taken**, if no call fails, and accepted if it is new. -/
theorem registerRepository_of_valid (hvalid : form.violations = [])
    (hurl : Text.trim form.url ≠ "") : ∃ r, (registerRepository form).runAmid d .never m =
      if ∃ x ∈ m.repositories, x.url = Text.trim form.url then
        (.error (Store.repositoryExists (Text.trim form.url)), .never, m)
      else (.ok r, .never, { m with repositories := m.repositories ++ [r] }) := by
  obtain ⟨r, hprepared⟩ := exists_preparation_runAmid (d := d) (m := m) hvalid hurl
  have hr := (preparation_runAmid_ok hprepared).2.url
  have hinsert : (Action.store (.insertRepository r)).runAmid d .never m =
      ((m.answer (.insertRepository r)).1, .never, (m.answer (.insertRepository r)).2) :=
    runAmid_never _
  refine ⟨r, ?_⟩
  rw [registerRepository_eq, runAmid_bind_of_ok hprepared, ← hr]
  rw [answer_insertRepository] at hinsert
  split
  · next htaken =>
    rw [if_pos htaken] at hinsert
    exact runAmid_bind_of_error hinsert
  · next hnew =>
    rw [if_neg hnew] at hinsert
    exact runAmid_bind_of_ok hinsert

end Outcomes

/-! ## Whom a URL addresses -/

/-- The repository in some place of a store is the one with a URL. -/
structure Addresses (m : Memory) (n : ℕ) (url : String) : Prop where
  /-- It is there, and whoever asks the store for the URL finds it. -/
  found : ∃ x, m.repositories[n]? = some x ∧ x.url = url ∧
    m.answer (.findRepository (.url url)) = (.ok (some x), m)
  /-- No other has the URL. -/
  only : ∀ (k : ℕ) (x : Repository), m.repositories[k]? = some x → x.url = url → k = n

section Addresses

variable {d : Script} {f : Failures} {m m' : Memory} {form again : RepositoryForm} {r x : Repository}
  {n : ℕ} {url : String}

/-- Where the keys are apart, one repository has a URL. -/
theorem addresses_of_getElem? (hm : m.KeysApart) (hx : m.repositories[n]? = some x) :
    Addresses m n x.url := by
  have honly (k : ℕ) (y : Repository) (hy : m.repositories[k]? = some y) (he : y.url = x.url) :
      k = n := by
    have hk : k < (m.repositories.map (·.url)).length := by
      simpa using (List.getElem?_eq_some_iff.mp hy).1
    refine (List.getElem?_inj hk hm.repositories).mp ?_
    rw [List.getElem?_map, List.getElem?_map, hy, hx, Option.map_some, Option.map_some, he]
  refine ⟨⟨x, hx, rfl, ?_⟩, honly⟩
  have hfind : m.repositories.find? (Store.Filter.url x.url).accepts = some x := by
    cases hfound : m.repositories.find? (Store.Filter.url x.url).accepts with
    | none =>
      have haccepts := List.find?_eq_none.mp hfound x (List.mem_of_getElem? hx)
      rw [Store.accepts_url] at haccepts
      simp at haccepts
    | some y =>
      obtain ⟨k, hk⟩ := List.mem_iff_getElem?.mp (List.mem_of_find?_eq_some hfound)
      have haccepts := List.find?_some hfound
      rw [Store.accepts_url] at haccepts
      have hplace := honly k y hk (by simpa using haccepts)
      rw [hplace, hx] at hk
      exact hk.symm
  rw [Memory.answer, hfind]

/-- **A new repository stays the one with its URL**, whatever the store is asked. -/
theorem Registers.addresses_after (h : Registers d form m r m') (hm : m.KeysApart)
    (hnew : ∀ x ∈ m.repositories, x.url ≠ r.url) (later : List Store.Call) :
    Addresses (m'.after later) m.repositories.length r.url := by
  have hm' : m'.KeysApart := by
    have hinserted : (m.answer (.insertRepository r)).2 = m' := by
      rw [answer_insertRepository, if_neg (by simpa using hnew), h.stored]
    exact hinserted ▸ Memory.keysApart_answer hm _
  have hplace : m'.repositories[m.repositories.length]? = some r := by simp [h.stored]
  obtain ⟨y, hy, hsame⟩ := (Memory.keeps_after m' later).repositories _ _ hplace
  have haddresses := addresses_of_getElem? (Memory.keysApart_after hm' later) hy
  rwa [hsame] at haddresses

/-- **Nobody registers it again**, failures or not. -/
theorem Addresses.refuses (h : Addresses m n (Text.trim again.url)) (d : Script) (f : Failures) :
    ∃ e f', (registerRepository again).runAmid d f m = (.error e, f', m) := by
  rcases houtcome : (registerRepository again).runAmid d f m with ⟨e | r, f', m'⟩
  · exact ⟨e, f', by rw [registerRepository_error houtcome]⟩
  · obtain ⟨hregisters, -, hnew⟩ := registerRepository_ok houtcome
    obtain ⟨x, hx, hurl, -⟩ := h.found
    exact absurd (hurl.trans hregisters.url.symm) (hnew x (List.mem_of_getElem? hx))

/-- Whoever tries to with a valid form is told that it is there, if no call fails. -/
theorem Addresses.conflicts (h : Addresses m n (Text.trim again.url))
    (hvalid : again.violations = []) (hurl : Text.trim again.url ≠ "") (d : Script) :
    (registerRepository again).runAmid d .never m =
      (.error (Store.repositoryExists (Text.trim again.url)), .never, m) := by
  obtain ⟨r, houtcome⟩ := registerRepository_of_valid (d := d) (m := m) hvalid hurl
  obtain ⟨x, hx, he, -⟩ := h.found
  rw [houtcome, if_pos ⟨x, List.mem_of_getElem? hx, he⟩]

end Addresses

/-! ## Requests for analyses -/

/-- A request starts an analysis of the repository with a URL, if there is one. -/
structure StartsAnalysis (request : Api.Request) (url : String) : Prop where
  /-- It is for starting an analysis. -/
  route : Api.Route.ofPath? (Api.Route.pathOf request.target) = some .analyses
  /-- It has the method for that. -/
  method : request.method = "POST"
  /-- The URL in its form comes to this one. -/
  form : ∃ form : Api.AnalysisForm, Api.readForm request = .ok form ∧ Text.trim form.url = url

/-- Whatever a question admits or launches is for the repository with a URL. -/
def Call.isFor (url : String) : Call → Prop
  | .store (.insertAnalysis a) => a.url = url
  | .launch ctx _ => ctx.repositoryUrl = url
  | _ => True

section Requests

variable {url : String} {request : Api.Request} {x : Repository}

theorem finalizeEnded_onlyAsks_isFor (url' : String) (running : List Analysis) :
    (finalizeEnded url' running).run.OnlyAsks (Call.isFor url) := by
  induction running with
  | nil => exact True.intro
  | cons a rest ih =>
    by_cases ha : a.aggregate.status = .running
    · rw [finalizeEnded, if_pos ha]
      exact True.intro
    · rw [finalizeEnded, if_neg ha]
      exact onlyAsks_run_bind (store_onlyAsks (c := .updateAnalysis _ _) True.intro) fun _ => ih

theorem testsToRun_onlyAsks_isFor (x : Repository) :
    (testsToRun x).run.OnlyAsks (Call.isFor url) := by
  rw [testsToRun]
  split
  · exact onlyAsks_run_bind (store_onlyAsks (c := .findSecurityTest _) True.intro)
      fun _ => True.intro
  · exact True.intro

theorem launches_onlyAsks_isFor (rid : Uuid) (tests : List SecurityTest) :
    (Program.forEach (Task.launch ⟨rid, url⟩) tests).OnlyAsks (Call.isFor url) := by
  induction tests with
  | nil => exact True.intro
  | cons test rest ih => exact ⟨rfl, fun _ => ih⟩

/-- **Once it has found its repository, an admission is all for it.** -/
theorem findRunning_onlyAsks_isFor (x : Repository) (url : String) :
    ((AdmissionStage.findRunning x).task url).OnlyAsks (Call.isFor x.url) := by
  refine Program.onlyAsks_bind ?_ fun _ => ⟨True.intro, fun _ => True.intro⟩
  refine onlyAsks_run_bind (store_onlyAsks (c := .findAnalyses _) True.intro) fun running => ?_
  refine onlyAsks_run_bind (finalizeEnded_onlyAsks_isFor url running) fun _ => ?_
  refine onlyAsks_run_bind (testsToRun_onlyAsks_isFor x) fun tests => ?_
  refine onlyAsks_run_bind (ofTask_onlyAsks ⟨True.intro, fun _ => True.intro⟩) fun rid => ?_
  refine onlyAsks_run_bind (ofTask_onlyAsks ⟨True.intro, fun _ => True.intro⟩) fun now => ?_
  refine onlyAsks_run_bind (store_onlyAsks (c := .insertAnalysis _) rfl) fun _ => ?_
  exact onlyAsks_run_bind (ofTask_onlyAsks (launches_onlyAsks_isFor rid tests)) fun _ => True.intro

/-- A request for an analysis passes the gate and asks the store for its URL; if it finds a repository,
all that follows is for that one. -/
theorem exists_respond_eq (parts : Api.Parts) (h : StartsAnalysis request url) (hurl : url ≠ "") :
    ∃ next : Except ServiceError (Option Repository) → Task Api.Response,
      Api.respond parts request =
        .ask (I := activity) .enterGate (fun _ =>
          .ask (I := activity) (.store (.findRepository (.url url))) next) ∧
      ∀ x, (next (.ok (some x))).OnlyAsks (Call.isFor x.url) := by
  obtain ⟨hroute, hmethod, form, hform, rfl⟩ := h
  have hblank : ¬(Text.trim form.url).isEmpty = true := by rwa [String.isEmpty_iff]
  have hrespond : Api.respond parts request = Api.answerWith 201 (Api.startAnalysis form) := by
    rw [Api.respond, hroute]
    simp only [hmethod]
    rw [if_pos (by decide), if_neg (by decide), Api.follow, Api.withForm, hform]
  rw [hrespond, Api.startAnalysis, Api.answerWith]
  simp only [if_neg hblank]
  refine ⟨_, rfl, fun x => ?_⟩
  have hgoes := findRunning_onlyAsks_isFor x (Text.trim form.url)
  refine Program.onlyAsks_bind (Program.onlyAsks_bind hgoes fun result => ?_) fun result => ?_
  · cases result <;> exact True.intro
  · cases result <;> exact True.intro

/-- **What a request for an analysis asks:** first for the repository with its URL, and if that is
found, then only for that one. -/
theorem trace_respond {parts : Api.Parts} {t : List (Program.Exchange activity)}
    {response : Api.Response} (h : StartsAnalysis request url) (hurl : url ≠ "")
    (ht : (Api.respond parts request).Trace t response) :
    ∃ (answer : Except ServiceError (Option Repository)) (rest : List (Program.Exchange activity)),
      t = ⟨.enterGate, ()⟩ :: ⟨.store (.findRepository (.url url)), answer⟩ :: rest ∧
      ∀ x, answer = .ok (some x) → ∀ y ∈ rest, y.1.isFor x.url := by
  obtain ⟨next, hrespond, hfor⟩ := exists_respond_eq parts h hurl
  rw [hrespond] at ht
  obtain ⟨u, t', rfl, hasked⟩ := Program.trace_ask_iff.mp ht
  obtain ⟨answer, rest, rfl, hrest⟩ := Program.trace_ask_iff.mp hasked
  refine ⟨answer, rest, rfl, ?_⟩
  rintro x rfl
  exact (hfor x).of_trace hrest

end Requests

/-! ## Registrations -/

/-- **What becomes of a registration**, whatever the form, the store, and the calls that fail.

If it fails, the store is as it was; and a valid form whose URL is not blank fails, when no call does,
exactly if its URL is taken, and then because of that.  If it succeeds, one repository stands behind
the others, with the tests that it gets: no two of one name, and at most eight if some are named.
From then on, whatever the store is asked, this is the repository with its URL: it is never
registered again, and a request for an analysis whose URL comes to the same looks for it, and is for
what it has found. -/
theorem repository_registered {m : Memory} (hm : m.KeysApart) (d : Script) (form : RepositoryForm) :
    (∀ f e f' m', (registerRepository form).runAmid d f m = (.error e, f', m') → m' = m) ∧
    (form.violations = [] → Text.trim form.url ≠ "" →
      ((∃ e s, (registerRepository form).runAmid d .never m = (.error e, s) ∧
          e.isConflict = true) ↔ ∃ x ∈ m.repositories, x.url = Text.trim form.url) ∧
      ((∃ r s, (registerRepository form).runAmid d .never m = (.ok r, s)) ↔
        ∀ x ∈ m.repositories, x.url ≠ Text.trim form.url)) ∧
    ∀ f r f' m', (registerRepository form).runAmid d f m = (.ok r, f', m') →
      Registers d form m r m' ∧ NamesApart r.securityTests ∧
      ((∃ name ∈ form.securityTestNames, Text.trim name ≠ "") → r.securityTests.length ≤ 8) ∧
      (∀ later : List Store.Call, Addresses (m'.after later) m.repositories.length r.url ∧
        ∀ (again : RepositoryForm) (d' : Script), Text.trim again.url = r.url →
          (∀ f, ∃ e f', (registerRepository again).runAmid d' f (m'.after later) =
            (.error e, f', m'.after later)) ∧
          (again.violations = [] → (registerRepository again).runAmid d' .never (m'.after later) =
            (.error (Store.repositoryExists r.url), .never, m'.after later))) ∧
      ∀ parts request t response, StartsAnalysis request r.url →
        (Api.respond parts request).Trace t response →
        ∃ (answer : Except ServiceError (Option Repository))
            (rest : List (Program.Exchange activity)),
          t = ⟨.enterGate, ()⟩ :: ⟨.store (.findRepository (.url r.url)), answer⟩ :: rest ∧
          ∀ x, answer = .ok (some x) → ∀ y ∈ rest, y.1.isFor x.url := by
  refine ⟨fun f e f' m' => registerRepository_error, ?valid, ?accepted⟩
  case valid =>
    intro hvalid hurl
    obtain ⟨r, houtcome⟩ := registerRepository_of_valid (d := d) (m := m) hvalid hurl
    rw [houtcome]
    by_cases htaken : ∃ x ∈ m.repositories, x.url = Text.trim form.url
    · have hnew : ¬∀ x ∈ m.repositories, x.url ≠ Text.trim form.url := by simpa using htaken
      rw [if_pos htaken]
      exact ⟨iff_of_true ⟨_, _, rfl, rfl⟩ htaken, iff_of_false (by simp) hnew⟩
    · have hnew : ∀ x ∈ m.repositories, x.url ≠ Text.trim form.url := by simpa using htaken
      rw [if_neg htaken]
      exact ⟨iff_of_false (by simp) htaken, iff_of_true ⟨_, _, rfl⟩ hnew⟩
  case accepted =>
    intro f r f' m' h
    obtain ⟨hregisters, ⟨-, hurl⟩, hnew⟩ := registerRepository_ok h
    have hne : r.url ≠ "" := hregisters.url ▸ hurl
    refine ⟨hregisters, hregisters.tests.namesApart hm.securityTests, hregisters.tests.length_le,
      fun later => ?_, fun parts request t response hstarts => trace_respond hstarts hne⟩
    have haddresses := hregisters.addresses_after hm hnew later
    refine ⟨haddresses, fun again d' hagain => ⟨fun f => ?_, fun hvalid => ?_⟩⟩
    · exact (hagain ▸ haddresses).refuses d' f
    · rw [← hagain]
      exact (hagain ▸ haddresses).conflicts hvalid (hagain ▸ hne) d'

/-- A second repository, whose form names a test in capitals, an unknown one and no others. -/
def namingForm : RepositoryForm :=
  ⟨" https://github.com/acme/web.git", none, ["BANDIT ", "", "unknown", "bandit"]⟩

/-- Such a form gets its one test, and the repository stays the one with its URL. -/
theorem repository_registered_sample : Script.sampleStore.KeysApart ∧ ∃ r f' m',
    (registerRepository namingForm).runAmid Script.sample .never Script.sampleStore =
      (.ok r, f', m') ∧
    r.url = "https://github.com/acme/web.git" ∧ r.securityTests = [Script.sampleTest] ∧
    ∀ later, Addresses (m'.after later) 1 r.url := by
  have hm : Script.sampleStore.KeysApart := ⟨by decide, by decide, by decide⟩
  obtain ⟨-, hvalid, haccepted⟩ := repository_registered hm Script.sample namingForm
  obtain ⟨r, ⟨f', m'⟩, h⟩ := (hvalid (by decide) (by decide)).2.mpr (by decide)
  obtain ⟨hregisters, -, -, hlater, -⟩ := haccepted _ _ _ _ h
  refine ⟨hm, r, f', m', h, hregisters.url.trans (by decide), ?_, fun later => (hlater later).1⟩
  rw [attaches_iff.mp hregisters.tests]
  decide

end Service
end ScanService
