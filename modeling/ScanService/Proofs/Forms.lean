import ScanService.Proofs.Replay
import ScanService.Proofs.Store.Operations
import ScanService.Proofs.Text.Blank

/-!
# What becomes of a form

A form for a security test is checked as it comes, and then its texts lose their blank ends, and
some of them their capitals.  The rules are not checked again: a text that was all blank is left
empty, and a name can grow, as lowercase forms may have more characters.  What has been registered
changes no further when it is registered again, and whoever asks for a name that comes to the same
finds it, for what is asked for is treated alike; but an empty name is passed over.

## What is here

* `answer_insertSecurityTest`, `answer_insertRepository` — what the store says to an insertion.
* `serve`, `Action.runIn` — an action that has the store in memory for itself.
* `registerSecurityTest_runIn_iff`, `exists_registerRepository_runIn` — what registrations come to.
* `mem_requestedNames`, `ne_empty_of_mem_requestedNames` — which names are looked up.
* `normalise_ofTest` — **a test that was registered is its own normal form.**
* `registered_test_keeps_rules` — **a test that was accepted keeps its rules unless a text of it was
  blank or its name has grown**, and it can be named, unless it has no name;
  `registered_test_breaks_rules` shows what slips through.
-/

namespace ScanService
namespace Service

open Store (Memory)

/-! ## What a store answers -/

/-- A test is looked up by its name. -/
theorem answer_findSecurityTest_name (m : Memory) (name : String) :
    m.answer (.findSecurityTest (.name name)) =
      (.ok (m.securityTests.find? (·.name == name)), m) := by
  rw [Memory.answer, show (Store.Filter.name name).accepts = fun t : SecurityTest => t.name == name
    from funext fun t => Store.accepts_name]

/-- A test is inserted behind the others if none of them has its name. -/
theorem answer_insertSecurityTest (m : Memory) (test : SecurityTest) :
    m.answer (.insertSecurityTest test) =
      if test.name ∈ m.securityTests.map (·.name) then
        (.error (Store.securityTestExists test.name), m)
      else (.ok (), { m with securityTests := m.securityTests ++ [test] }) := by
  have hany : m.securityTests.any (·.name == test.name) = true ↔
      test.name ∈ m.securityTests.map (·.name) := by simp
  rw [Memory.answer]
  simp only [hany]

/-- A repository is inserted behind the others if none of them has its URL. -/
theorem answer_insertRepository (m : Memory) (r : Repository) : m.answer (.insertRepository r) =
    if ∃ x ∈ m.repositories, x.url = r.url then (.error (Store.repositoryExists r.url), m)
    else (.ok (), { m with repositories := m.repositories ++ [r] }) := by
  have hany : m.repositories.any (·.url == r.url) = true ↔ ∃ x ∈ m.repositories, x.url = r.url := by
    simp
  rw [Memory.answer]
  simp only [hany]

/-! ## Actions that have the store for themselves -/

/-- The store in memory answers what it is asked, and a script everything else. -/
def serve (d : Script) : (c : Call) → Memory → c.Answer × Memory
  | .store q, m => m.answer q
  | .backend q, m => (d.backend [] q, m)
  | .readClock, m => (d.now, m)
  | .readTimer, m => (d.timer, m)
  | .drawRid, m => (d.rid, m)
  | .sleep _, m | .launch _ _, m | .enterGate, m | .leaveGate, m => ((), m)

/-- What an action comes to in a store, and what it leaves of the store. -/
def Action.runIn {α : Type} (a : Action α) (d : Script) (m : Memory) :
    Except ServiceError α × Memory :=
  Program.run (serve d) a.run m

section

variable {α β : Type} {d : Script} {m m' : Memory}

@[simp] theorem runIn_pure (x : α) : (pure x : Action α).runIn d m = (.ok x, m) := rfl

@[simp] theorem runIn_store (c : Store.Call) : (Action.store c).runIn d m = m.answer c := rfl

@[simp] theorem runIn_readClock : (Action.ofTask Task.readClock).runIn d m = (.ok d.now, m) := rfl

/-- Two actions one after the other, in what the first leaves of the store if it succeeds. -/
theorem runIn_bind (a : Action α) (f : α → Action β) : (a >>= f).runIn d m =
    match a.runIn d m with
    | (.ok x, m') => (f x).runIn d m'
    | (.error e, m') => (.error e, m') := by
  rw [Action.runIn, ExceptT.run_bind, Program.bind_eq_bind, Program.run_bind, Action.runIn]
  generalize Program.run (serve d) a.run m = outcome
  obtain ⟨_ | _, _⟩ := outcome <;> rfl

theorem runIn_bind_of_ok {a : Action α} {f : α → Action β} {x : α}
    (h : a.runIn d m = (.ok x, m')) : (a >>= f).runIn d m = (f x).runIn d m' := by
  rw [runIn_bind, h]

theorem runIn_bind_of_error {a : Action α} {f : α → Action β} {e : ServiceError}
    (h : a.runIn d m = (.error e, m')) : (a >>= f).runIn d m = (.error e, m') := by
  rw [runIn_bind, h]

/-! ## Registering a test -/

/-- Whatever is left of a store, an action has not both failed and succeeded. -/
theorem error_ne_ok {ε σ : Type} {e : ε} {x : α} {s s' : σ} :
    ((.error e, s) : Except ε α × σ) ≠ (.ok x, s') := by
  simp

theorem checkForm_runIn (violations : List Violation) : (checkForm violations).runIn d m =
    if violations = [] then (.ok (), m)
    else (.error (.validation (Violation.report violations)), m) := by
  cases violations <;> rfl

/-- **A test is registered if its form breaks no rule and its name is not taken**, and what is
registered is the normal form. -/
theorem registerSecurityTest_runIn_iff {form : SecurityTestForm} {t : SecurityTest} :
    (registerSecurityTest form).runIn d m = (.ok t, m') ↔
      form.violations = [] ∧ t = form.normalise ∧
        m.answer (.insertSecurityTest t) = (.ok (), m') := by
  rw [registerSecurityTest]
  by_cases hvalid : form.violations = []
  · have hcheck : (checkForm form.violations).runIn d m = (.ok (), m) := by
      rw [checkForm_runIn, if_pos hvalid]
    have hinsert : (Action.store (.insertSecurityTest form.normalise)).runIn d m =
        m.answer (.insertSecurityTest form.normalise) := rfl
    rw [runIn_bind_of_ok hcheck]
    rcases hanswer : m.answer (.insertSecurityTest form.normalise) with ⟨e | ⟨⟩, m''⟩
    · rw [runIn_bind_of_error (hinsert.trans hanswer)]
      refine iff_of_false error_ne_ok ?_
      rintro ⟨-, rfl, h⟩
      exact error_ne_ok (hanswer.symm.trans h)
    · rw [runIn_bind_of_ok (hinsert.trans hanswer), runIn_pure, Prod.mk.injEq, Except.ok.injEq]
      constructor
      · rintro ⟨rfl, rfl⟩
        exact ⟨hvalid, rfl, hanswer⟩
      · rintro ⟨-, rfl, h⟩
        exact ⟨rfl, (Prod.mk.inj (hanswer.symm.trans h)).2⟩
  · have hcheck : (checkForm form.violations).runIn d m =
        (.error (.validation (Violation.report form.violations)), m) := by
      rw [checkForm_runIn, if_neg hvalid]
    rw [runIn_bind_of_error hcheck]
    exact iff_of_false error_ne_ok fun h => hvalid h.1

end

/-! ## Registering a repository -/

section

variable {d : Script} {m : Memory}

/-- The tests that some names are looked up for. -/
theorem testsNamed_runIn (names : List String) : (testsNamed names).runIn d m =
    (.ok (names.flatMap fun name => (m.securityTests.find? (·.name == name)).toList), m) := by
  induction names with
  | nil => rfl
  | cons name rest ih =>
    have hfind : (Action.store (.findSecurityTest (.name name))).runIn d m =
        (.ok (m.securityTests.find? (·.name == name)), m) := answer_findSecurityTest_name m name
    rw [testsNamed, runIn_bind_of_ok hfind, runIn_bind_of_ok ih, List.flatMap_cons]
    rfl

/-- The tests that are attached where a form names some. -/
theorem testsToAttach_runIn {names : List String} (hnames : names ≠ []) :
    (testsToAttach names).runIn d m =
      (.ok (names.flatMap fun name => (m.securityTests.find? (·.name == name)).toList), m) := by
  rw [testsToAttach, if_neg (by simpa using hnames), testsNamed_runIn]

/-- **A valid form whose URL is new gets its repository**, with the tests that it asks for. -/
theorem exists_registerRepository_runIn {form : RepositoryForm} (hvalid : form.violations = [])
    (hurl : Text.trim form.url ≠ "") (hnames : requestedNames form.securityTestNames ≠ [])
    (hnew : ∀ r ∈ m.repositories, r.url ≠ Text.trim form.url) :
    ∃ r, (registerRepository form).runIn d m =
        (.ok r, { m with repositories := m.repositories ++ [r] }) ∧
      r.url = Text.trim form.url ∧
      r.securityTests = (requestedNames form.securityTestNames).flatMap fun name =>
        (m.securityTests.find? (·.name == name)).toList := by
  have hcheck : (checkForm form.violations).runIn d m = (.ok (), m) := by
    rw [checkForm_runIn, if_pos hvalid]
  have hinsert (r : Repository) (hr : r.url = Text.trim form.url) :
      (Action.store (.insertRepository r)).runIn d m =
        (.ok (), { m with repositories := m.repositories ++ [r] }) := by
    rw [runIn_store, answer_insertRepository, if_neg (by simpa [hr] using hnew)]
  have hblank : ¬(Text.trim form.url).isEmpty = true := by rwa [String.isEmpty_iff]
  simp only [registerRepository]
  rw [runIn_bind_of_ok hcheck]
  simp only [if_neg hblank]
  rw [runIn_bind_of_ok (testsToAttach_runIn hnames), runIn_bind_of_ok runIn_readClock,
    runIn_bind_of_ok (hinsert _ rfl)]
  exact ⟨_, rfl, rfl, rfl⟩

end

/-! ## Names that are looked up -/

section

variable {α : Type} [DecidableEq α]

/-- What comes after few others is among the first that are kept. -/
theorem mem_take_firstBy {seen xs ys : List α} {x : α} {n : ℕ} (hseen : x ∉ seen)
    (hn : xs.length < n) : x ∈ (firstBy id seen (xs ++ x :: ys)).take n := by
  induction xs generalizing seen n with
  | nil =>
    obtain ⟨n, rfl⟩ := Nat.exists_eq_add_of_lt hn
    rw [List.nil_append, firstBy, if_neg (by simpa using hseen), List.length_nil, Nat.zero_add,
      List.take_succ_cons]
    exact List.mem_cons_self
  | cons y xs ih =>
    obtain ⟨n, rfl⟩ := Nat.exists_eq_add_of_lt (Nat.zero_lt_of_lt hn)
    rw [List.length_cons] at hn
    rw [List.cons_append, firstBy]
    split
    · exact ih hseen (by omega)
    · rw [Nat.zero_add, List.take_succ_cons]
      by_cases hxy : x = y
      · exact hxy ▸ List.mem_cons_self
      · exact List.mem_cons_of_mem _ (ih (by simpa [hxy] using hseen) (by omega))

end

/-- **A text among the first eight is looked up** in its normal form, if anything is left of it. -/
theorem mem_requestedNames {before behind : List String} {text : String}
    (hne : Text.lowercase (Text.trim text) ≠ "") (hfew : before.length < maxNamedTests) :
    Text.lowercase (Text.trim text) ∈ requestedNames (before ++ text :: behind) := by
  rw [requestedNames, List.map_append, List.map_cons, List.filter_append,
    List.filter_cons_of_pos (by simpa using hne), distinct]
  refine mem_take_firstBy List.not_mem_nil (Nat.lt_of_le_of_lt ?_ hfew)
  exact (List.length_filter_le ..).trans (List.length_map _).le

/-- One text is looked up alone. -/
theorem requestedNames_singleton {text : String} (hne : Text.lowercase (Text.trim text) ≠ "") :
    requestedNames [text] = [Text.lowercase (Text.trim text)] := by
  rw [requestedNames, List.map_singleton, List.filter_cons_of_pos (by simpa using hne)]
  rfl

/-- Nothing is looked up without a name. -/
theorem ne_empty_of_mem_requestedNames {names : List String} {name : String}
    (h : name ∈ requestedNames names) : name ≠ "" := by
  have hkept := (mem_of_mem_firstBy (List.mem_of_mem_take h)).1
  simpa using (List.mem_filter.mp hkept).2

/-! ## Normal forms -/

/-- The rules that a form breaks, rule by rule. -/
theorem violations_eq_nil_iff {form : SecurityTestForm} : form.violations = [] ↔
    1 ≤ form.cmd.length ∧ 1 ≤ form.image.length ∧ 1 ≤ form.language.length ∧
      (1 ≤ form.name.length ∧ form.name.length ≤ 64) ∧
      1 ≤ form.timeoutSeconds.toInt ∧ form.timeoutSeconds.toInt ≤ 86400 := by
  have hcheck {holds : Bool} {field : String} {rule : Rule} :
      Violation.check holds field rule = [] ↔ holds = true := by
    cases holds <;> simp [Violation.check]
  simp only [SecurityTestForm.violations, List.append_eq_nil_iff, hcheck, Bool.and_eq_true,
    decide_eq_true_eq, and_assoc]

/-- **A test that was registered is its own normal form.** -/
theorem normalise_ofTest (form : SecurityTestForm) :
    (SecurityTestForm.ofTest form.normalise).normalise = form.normalise := by
  have hlatest : Text.trim "latest" = "latest" := by decide
  simp only [SecurityTestForm.ofTest, SecurityTestForm.normalise, Text.lowercase_trim_twice,
    Text.trim_trim, Option.map_some, SecurityTest.mk.injEq, true_and, and_true]
  -- what is left is the tag
  rcases form.imageTag with _ | tag
  · rw [Option.map_none, hlatest]
    rfl
  · by_cases htag : (Text.trim tag).isEmpty = true
    · rw [Option.map_some]
      simp only [if_pos htag, hlatest]
      rfl
    · rw [Option.map_some]
      simp only [if_neg htag, Text.trim_trim]

/-! ## Registered tests -/

theorem one_le_length_iff {s : String} : 1 ≤ s.length ↔ s ≠ "" := by
  rw [Nat.one_le_iff_ne_zero, Ne, Ne, String.length_eq_zero_iff]

/-- A test has been inserted if none of the others has its name. -/
theorem insertSecurityTest_iff {m m' : Memory} {t : SecurityTest} :
    m.answer (.insertSecurityTest t) = (.ok (), m') ↔
      (∀ other ∈ m.securityTests, other.name ≠ t.name) ∧
        m' = { m with securityTests := m.securityTests ++ [t] } := by
  have hfree : (∀ other ∈ m.securityTests, other.name ≠ t.name) ↔
      t.name ∉ m.securityTests.map (·.name) := by simp
  rw [answer_insertSecurityTest, hfree]
  split
  · next htaken =>
    exact iff_of_false error_ne_ok fun h => h.1 htaken
  · next htaken =>
    rw [Prod.mk.injEq, and_iff_right rfl, and_iff_right htaken, eq_comm]

/-- What was inserted is found by its name, whatever the store is asked in between. -/
theorem find?_after_insertSecurityTest {m m' : Memory} {t : SecurityTest}
    (h : m.answer (.insertSecurityTest t) = (.ok (), m')) (later : List Store.Call) :
    (m'.after later).securityTests.find? (·.name == t.name) = some t := by
  have hok : (m.answer (.insertSecurityTest t)).1.isOk = true := by rw [h]; rfl
  obtain ⟨behind, hbehind⟩ := Memory.exists_securityTests_after hok later
  rw [Memory.after_cons, h] at hbehind
  have hnone : m.securityTests.find? (·.name == t.name) = none := by
    simpa using (insertSecurityTest_iff.mp h).1
  rw [hbehind, List.find?_append, hnone, Option.none_or, List.find?_cons_of_pos (by simp)]

/-- **A registered test keeps its rules, but for blank texts and names that grow.**  Whatever form
is accepted, the record is its normal form; it is put behind the other records, and it is its own
normal form.  The rules of a form hold of it unless its name, its image or its language was blank,
or its name has more characters in lowercase than are allowed.  Unless its name was blank, it is
attached to every new repository that names it among the first eight by a text that comes to the
same, whatever the store is asked in between, and alone if nothing else is named.  A test without a
name is never looked up. -/
theorem registered_test_keeps_rules {form : SecurityTestForm} {t : SecurityTest} {d : Script}
    {m m' : Memory} (h : (registerSecurityTest form).runIn d m = (.ok t, m')) :
    (t = form.normalise ∧ m' = { m with securityTests := m.securityTests ++ [t] }) ∧
    (SecurityTestForm.ofTest t).normalise = t ∧
    (1 ≤ t.cmd.length ∧ 1 ≤ t.timeoutSeconds.toInt ∧ t.timeoutSeconds.toInt ≤ 86400) ∧
    ((1 ≤ t.name.length ∧ t.name.length ≤ 64 ∧ 1 ≤ t.image.length ∧ 1 ≤ t.language.length) ↔
      Text.trim form.name ≠ "" ∧ Text.trim form.image ≠ "" ∧ Text.trim form.language ≠ "" ∧
        (Text.lowercase (Text.trim form.name)).length ≤ 64) ∧
    (Text.trim form.name ≠ "" → ∀ (d' : Script) (later : List Store.Call) (asked : RepositoryForm),
      asked.violations = [] → Text.trim asked.url ≠ "" →
      (∀ r ∈ (m'.after later).repositories, r.url ≠ Text.trim asked.url) →
      ∀ before text behind, asked.securityTestNames = before ++ text :: behind →
      Text.lowercase (Text.trim text) = Text.lowercase (Text.trim form.name) → before.length < 8 →
      ∃ r, (registerRepository asked).runIn d' (m'.after later) = (.ok r,
          { m'.after later with repositories := (m'.after later).repositories ++ [r] }) ∧
        t ∈ r.securityTests ∧ (before = [] → behind = [] → r.securityTests = [t])) ∧
    (Text.trim form.name = "" → ∀ names, t.name ∉ requestedNames names) := by
  obtain ⟨hvalid, rfl, hanswer⟩ := registerSecurityTest_runIn_iff.mp h
  obtain ⟨hcmd, -, -, -, htimeout⟩ := violations_eq_nil_iff.mp hvalid
  refine ⟨⟨rfl, (insertSecurityTest_iff.mp hanswer).2⟩, normalise_ofTest form, ⟨hcmd, htimeout⟩,
    ?rules, ?named, ?blank⟩
  case rules =>
    simp only [one_le_length_iff, SecurityTestForm.normalise, ne_eq, Text.lowercase_eq_empty_iff]
    constructor
    · rintro ⟨hname, hlength, himage, hlanguage⟩
      exact ⟨hname, himage, hlanguage, hlength⟩
    · rintro ⟨hname, himage, hlanguage, hlength⟩
      exact ⟨hname, hlength, himage, hlanguage⟩
  case named =>
    intro hname d' later asked hasked hurl hnew before text behind hnames htext hfew
    have hne : Text.lowercase (Text.trim text) ≠ "" := by
      rwa [htext, ne_eq, Text.lowercase_eq_empty_iff]
    have hlooked : form.normalise.name ∈ requestedNames asked.securityTestNames := by
      rw [hnames, SecurityTestForm.normalise, ← htext]
      exact mem_requestedNames hne hfew
    obtain ⟨r, hr, -, htests⟩ := exists_registerRepository_runIn (d := d') hasked hurl
      (List.ne_nil_of_mem hlooked) hnew
    have hfound := find?_after_insertSecurityTest hanswer later
    refine ⟨r, hr, ?_, ?_⟩
    · rw [htests, List.mem_flatMap]
      exact ⟨_, hlooked, by rw [hfound]; exact Option.mem_toList.mpr rfl⟩
    · rintro rfl rfl
      have hone : requestedNames asked.securityTestNames = [form.normalise.name] := by
        rw [hnames, List.nil_append, requestedNames_singleton hne, htext]
        rfl
      rw [htests, hone, List.flatMap_singleton, hfound, Option.toList_some]
  case blank =>
    intro hname names hmem
    exact ne_empty_of_mem_requestedNames hmem (Text.lowercase_eq_empty_iff.mpr hname)

/-- A form whose texts have blank ends and capitals. -/
def spacedForm : SecurityTestForm :=
  ⟨" Bandit ", "huskyci/bandit", none, "bandit -r code -f json", "Python", true, 360⟩

/-- The test of such a form is attached to a repository that asks for it in capitals. -/
theorem registered_test_keeps_rules_sample : ∃ m' r m'',
    (registerSecurityTest spacedForm).runIn Script.sample .empty = (.ok spacedForm.normalise, m') ∧
    spacedForm.normalise.name = "bandit" ∧
    (registerRepository ⟨"u", none, ["BANDIT "]⟩).runIn Script.sample m' = (.ok r, m'') ∧
    r.securityTests = [spacedForm.normalise] := by
  have hregistered : (registerSecurityTest spacedForm).runIn Script.sample .empty =
      (.ok spacedForm.normalise, { Memory.empty with securityTests := [spacedForm.normalise] }) :=
    registerSecurityTest_runIn_iff.mpr ⟨by decide, rfl, rfl⟩
  obtain ⟨-, -, -, -, hnamed, -⟩ := registered_test_keeps_rules hregistered
  obtain ⟨r, hr, -, htests⟩ := hnamed (by decide) Script.sample [] ⟨"u", none, ["BANDIT "]⟩
    (by decide) (by decide) (List.forall_mem_nil _) [] "BANDIT " [] rfl (by decide) (by decide)
  exact ⟨_, r, _, hregistered, by decide, hr, htests rfl rfl⟩

/-- **The rules are not always kept.**  A name that is blank is accepted and left empty, and so are
an image and a language; and a name of 33 characters is accepted that has 66 when it is stored. -/
theorem registered_test_breaks_rules :
    (∃ t m', (registerSecurityTest ⟨"   ", " ", none, "c", "\t", false, 60⟩).runIn Script.sample
        .empty = (.ok t, m') ∧ t.name = "" ∧ t.image = "" ∧ t.language = "") ∧
    ∃ t m', (registerSecurityTest ⟨String.ofList (List.replicate 33 'İ'), "i", none, "c", "python",
        false, 60⟩).runIn Script.sample .empty = (.ok t, m') ∧ t.name.length = 66 := by
  refine ⟨⟨_, _, registerSecurityTest_runIn_iff.mpr ⟨by decide, rfl, rfl⟩, ?_⟩,
    ⟨_, _, registerSecurityTest_runIn_iff.mpr ⟨by decide +kernel, rfl, rfl⟩, ?_⟩⟩
  · exact ⟨by decide, by decide, by decide⟩
  · decide +kernel

end Service
end ScanService
