import Mathlib.Data.Stream.Init
import ScanService.Proofs.Failures
import ScanService.Proofs.Report.Languages

/-!
# What is selected for languages

A selection looks up the default tests of one language after the other, and passes over look-ups that
fail.  So a test is there once for each look-up of its language that does not fail, and one that fails
takes nothing away but what it would have given.

## What is here

* `answered` — the look-ups that do not fail; `runAmid_selectTests`: **what a selection comes to.**
* `count_selected` — how often a test is there.
* `selected_without` — a selection without one of its look-ups.
* `selection_counts` — **all of this, and that a test is selected whose language is detected.**
* `blank_language_never_selected` — but a blank language never is.
-/

namespace ScanService
namespace Service

open Json.Document (HasKeys)
open Store (Memory)

/-! ## Look-ups that fail -/

/-- Those of some look-ups that do not fail. -/
def answered (languages : List String) (f : Failures) : List String :=
  (languages.zipIdx.filter fun p => (f.get p.2).isNone).map (·.1)

/-- The default tests of a language, in the order in which they were registered. -/
def defaultTests (registered : List SecurityTest) (language : String) : List SecurityTest :=
  registered.filter fun t => t.language == language && t.isDefault

/-- The tests that a selection gives amid failures. -/
def selectedAmid (registered : List SecurityTest) (languages : List String) (f : Failures) :
    List SecurityTest :=
  (answered languages f).flatMap (defaultTests registered)

section Answered

variable {f g : Failures} {language : String} {languages : List String}
  {registered : List SecurityTest}

theorem answered_cons : answered (language :: languages) f =
    (if f.head = none then [language] else []) ++ answered languages f.tail := by
  have hrest : (languages.zipIdx 1).filter (fun p => (f.get p.2).isNone) =
      (languages.zipIdx.filter fun p => (f.tail.get p.2).isNone).map fun p => (p.1, p.2 + 1) := by
    rw [List.zipIdx_succ, List.filter_map]
    rfl
  rw [answered, List.zipIdx_cons, List.filter_cons, Nat.zero_add, hrest]
  by_cases hf : f.head = none
  · rw [if_pos hf, if_pos (by simpa using hf)]
    simp [answered]
  · rw [if_neg hf, if_neg (by simpa using hf)]
    simp [answered]

/-- Only the failures of these look-ups matter. -/
theorem answered_congr (h : ∀ k < languages.length, f.get k = g.get k) :
    answered languages f = answered languages g := by
  have hkept : languages.zipIdx.filter (fun p => (f.get p.2).isNone) =
      languages.zipIdx.filter fun p => (g.get p.2).isNone :=
    List.filter_congr fun p hp => by rw [h p.2 (by simpa using List.snd_lt_of_mem_zipIdx hp)]
  rw [answered, answered, hkept]

/-- A look-up at which no call fails is answered. -/
theorem mem_answered {k : ℕ} (hk : languages[k]? = some language) (hf : f.get k = none) :
    language ∈ answered languages f := by
  refine List.mem_map.mpr ⟨(language, k), List.mem_filter.mpr ⟨?_, by simp [hf]⟩, rfl⟩
  rwa [List.mk_mem_zipIdx_iff_getElem?]

theorem selectedAmid_cons : selectedAmid registered (language :: languages) f =
    (if f.head = none then defaultTests registered language else []) ++
      selectedAmid registered languages f.tail := by
  rw [selectedAmid, answered_cons, List.flatMap_append, selectedAmid]
  split
  · rw [List.flatMap_singleton]
  · rw [List.flatMap_nil]

theorem selectedAmid_append (before behind : List String) :
    selectedAmid registered (before ++ behind) f =
      selectedAmid registered before f ++ selectedAmid registered behind (f.drop before.length) := by
  induction before generalizing f with
  | nil => rfl
  | cons language rest ih =>
    rw [List.cons_append, selectedAmid_cons, ih, selectedAmid_cons, List.append_assoc]
    rfl

end Answered

/-! ## Selections -/

section Selections

variable {d : Script} {f g : Failures} {m : Memory} {language : String}
  {languages : List String} {registered : List SecurityTest} {t : SecurityTest}

/-- One look-up amid failures. -/
theorem runAmid_defaultsFor : (defaultsFor language).runAmid d f m =
    (if f.head = none then defaultTests m.securityTests language else [], f.tail, m) := by
  have hanswer : m.answer (.findSecurityTests (.defaultsFor language)) =
      (.ok (defaultTests m.securityTests language), m) := by
    rw [Memory.answer, defaultTests, List.filter_congr fun t _ => Store.accepts_defaultsFor]
  rw [defaultsFor, Program.bind_eq_bind, Task.runAmid_bind, Task.runAmid_store, hanswer]
  cases f.head <;> rfl

/-- **What look-ups come to amid failures:** the default tests of those that do not fail, in turn. -/
theorem runAmid_defaultsForAll : (defaultsForAll languages).runAmid d f m =
    (selectedAmid m.securityTests languages f, f.drop languages.length, m) := by
  induction languages generalizing f with
  | nil => rfl
  | cons language rest ih =>
    rw [defaultsForAll, Program.bind_eq_bind, Task.runAmid_bind, runAmid_defaultsFor,
      Program.bind_eq_bind, Task.runAmid_bind, ih, selectedAmid_cons]
    rfl

/-- **What a selection comes to amid failures.** -/
theorem runAmid_selectTests : (selectTests languages).runAmid d f m =
    (selectedAmid m.securityTests (lookups languages) f, f.drop (lookups languages).length, m) :=
  runAmid_defaultsForAll

theorem mem_defaultTests :
    t ∈ defaultTests registered language ↔
      t ∈ registered ∧ t.language = language ∧ t.isDefault = true := by
  rw [defaultTests, List.mem_filter, Bool.and_eq_true, beq_iff_eq]

/-- A test is selected if it is a registered default test and some look-up of its language is
answered. -/
theorem mem_selectedAmid : t ∈ selectedAmid registered languages f ↔
    t ∈ registered ∧ t.isDefault = true ∧ t.language ∈ answered languages f := by
  rw [selectedAmid, List.mem_flatMap]
  constructor
  · rintro ⟨language, hmem, ht⟩
    obtain ⟨hregistered, rfl, hdefault⟩ := mem_defaultTests.mp ht
    exact ⟨hregistered, hdefault, hmem⟩
  · rintro ⟨hregistered, hdefault, hmem⟩
    exact ⟨_, hmem, mem_defaultTests.mpr ⟨hregistered, rfl, hdefault⟩⟩

/-- A registered test is there once among the default tests of its language, if it is one. -/
theorem count_defaultTests (hregistered : registered.Nodup) (ht : t ∈ registered) :
    (defaultTests registered language).count t =
      if t.language = language ∧ t.isDefault = true then 1 else 0 := by
  split
  · next h =>
    exact List.count_eq_one_of_mem (hregistered.filter _) (mem_defaultTests.mpr ⟨ht, h⟩)
  · next h =>
    exact List.count_eq_zero.mpr fun hmem => h (mem_defaultTests.mp hmem).2

/-- **How often a test is selected:** once for each look-up of its language that does not fail. -/
theorem count_selectedAmid (hregistered : registered.Nodup) (ht : t ∈ registered) :
    (selectedAmid registered languages f).count t =
      if t.isDefault = true then (answered languages f).count t.language else 0 := by
  rw [selectedAmid]
  induction answered languages f with
  | nil => simp
  | cons language rest ih =>
    rw [List.flatMap_cons, List.count_append, ih, count_defaultTests hregistered ht]
    by_cases hdefault : t.isDefault = true
    · by_cases hl : t.language = language
      · simp [hdefault, hl, Nat.add_comm]
      · simp [hdefault, hl, List.count_cons_of_ne (Ne.symm hl)]
    · simp [hdefault]

/-- **A look-up that fails takes away what it would have given,** and nothing else. -/
theorem selectedAmid_without {k : ℕ} {e : ServiceError} (hk : languages[k]? = some language)
    (hf : f.get k = none) (hg : g.get k = some e) (hsame : ∀ j ≠ k, g.get j = f.get j) :
    ∃ before behind, selectedAmid registered languages f =
        before ++ defaultTests registered language ++ behind ∧
      selectedAmid registered languages g = before ++ behind := by
  obtain ⟨before, behind, rfl, rfl⟩ := Store.exists_append_of_getElem? hk
  have hbefore : answered before g = answered before f :=
    answered_congr fun j hj => hsame j hj.ne
  have hbehind : answered behind (g.drop (before.length + 1)) =
      answered behind (f.drop (before.length + 1)) :=
    answered_congr fun j _ => by
      rw [Stream'.get_drop, Stream'.get_drop]
      exact hsame _ (by omega)
  refine ⟨selectedAmid registered before f,
    selectedAmid registered behind (f.drop (before.length + 1)), ?_, ?_⟩
  · rw [selectedAmid_append, selectedAmid_cons, Stream'.head_drop, if_pos hf, Stream'.tail_drop',
      List.append_assoc]
  · rw [selectedAmid_append, selectedAmid_cons, Stream'.head_drop, hg, if_neg (by simp),
      Stream'.tail_drop', List.nil_append, selectedAmid, hbefore, selectedAmid, hbehind]
    rfl

end Selections

/-! ## Languages that are detected -/

section Detected

variable {d : Script} {f : Failures} {m m' : Memory} {form : SecurityTestForm} {t : SecurityTest}
  {report text key : String} {keys : List String}

/-- Whatever an object names is looked up, however it is written. -/
theorem mem_lookups_of_hasKeys (h : HasKeys report keys) (hkey : key ∈ keys)
    (htext : Text.lowercase (Text.trim key) = Text.lowercase (Text.trim text))
    (hne : Text.trim text ≠ "") :
    Text.lowercase (Text.trim text) ∈ lookups (Report.detectedLanguages report) := by
  have hdetected : Text.lowercase (Text.trim text) ∈ Report.detectedLanguages report := by
    rw [Report.detectedLanguages_of_hasKeys h, (isFirstSeen_distinct _).mem_iff, mem_normalForms]
    refine ⟨key, hkey, ?_, htext.symm⟩
    rwa [← Text.lowercase_eq_empty_iff.ne, htext, Text.lowercase_eq_empty_iff.ne]
  refine List.mem_append_left _ (List.mem_map.mpr ⟨_, hdetected, ?_⟩)
  exact Text.lowercase_lowercase _

/-- A test that was registered is among the registered ones, whatever the store is asked. -/
theorem mem_securityTests_after (h : (registerSecurityTest form).runIn d m = (.ok t, m'))
    (later : List Store.Call) : t ∈ (m'.after later).securityTests := by
  obtain ⟨-, -, hanswer⟩ := registerSecurityTest_runIn_iff.mp h
  have hstored : m'.securityTests = m.securityTests ++ [t] := by
    rw [(insertSecurityTest_iff.mp hanswer).2]
  refine (Memory.keeps_after m' later).securityTests.subset ?_
  rw [hstored]
  exact List.mem_append_right _ List.mem_cons_self

/-- **A default test is selected when its language is detected,** if its look-up does not fail. -/
theorem exists_lookup_of_hasKeys (h : (registerSecurityTest form).runIn d m = (.ok t, m'))
    (hdefault : form.isDefault = true) (hne : Text.trim form.language ≠ "")
    (later : List Store.Call) (hkeys : HasKeys report keys) (hkey : key ∈ keys)
    (htext : Text.lowercase (Text.trim key) = Text.lowercase (Text.trim form.language)) :
    ∃ k, (lookups (Report.detectedLanguages report))[k]? = some t.language ∧
      ∀ (d' : Script) (f : Failures), f.get k = none →
        t ∈ ((selectTests (Report.detectedLanguages report)).runAmid d' f (m'.after later)).1 := by
  obtain ⟨-, rfl, -⟩ := registerSecurityTest_runIn_iff.mp h
  have hlooked := mem_lookups_of_hasKeys hkeys hkey htext hne
  obtain ⟨k, hk⟩ := List.mem_iff_getElem?.mp hlooked
  refine ⟨k, hk, fun d' f hf => ?_⟩
  rw [runAmid_selectTests]
  exact mem_selectedAmid.mpr ⟨mem_securityTests_after h later, hdefault, mem_answered hk hf⟩

end Detected

/-! ## How often a test is selected -/

/-- **What a selection gives, and how often.**  Whatever languages are asked for and whichever
look-ups fail, the default tests of the languages whose look-ups do not fail follow one another, as
they were registered.  So a registered test is there once for each such look-up of its language if it
is a default test, and else not at all, and nothing else is there.  If one more look-up fails, what it
gave is missing and nothing else.

And a default test is selected, whenever its look-up does not fail, for every object of which some
key comes to the language of its form, unless that is blank. -/
theorem selection_counts :
    (∀ (d : Script) (m : Memory) (languages : List String) (f : Failures),
      m.securityTests.Nodup → ∃ tests,
        (selectTests languages).runAmid d f m =
          (tests, f.drop (lookups languages).length, m) ∧
        tests = (answered (lookups languages) f).flatMap (defaultTests m.securityTests) ∧
        (∀ t ∈ m.securityTests, tests.count t =
          if t.isDefault = true then (answered (lookups languages) f).count t.language else 0) ∧
        (∀ t ∈ tests, t ∈ m.securityTests) ∧
        ∀ k language e g, (lookups languages)[k]? = some language → f.get k = none →
          g.get k = some e → (∀ j ≠ k, g.get j = f.get j) →
          ∃ before behind,
            tests = before ++ defaultTests m.securityTests language ++ behind ∧
            ((selectTests languages).runAmid d g m).1 = before ++ behind) ∧
    ∀ d m form t m', (registerSecurityTest form).runIn d m = (.ok t, m') →
      form.isDefault = true → Text.trim form.language ≠ "" →
      ∀ (later : List Store.Call) report keys key, HasKeys report keys → key ∈ keys →
        Text.lowercase (Text.trim key) = Text.lowercase (Text.trim form.language) →
        ∃ languages, Report.enry.read? report = some ⟨some .passed, none, [], languages⟩ ∧
          ∃ k, (lookups languages)[k]? = some t.language ∧
            ∀ (d' : Script) (f : Failures), f.get k = none →
              t ∈ ((selectTests languages).runAmid d' f (m'.after later)).1 := by
  refine ⟨fun d m languages f hm => ?selects, ?detects⟩
  case selects =>
    refine ⟨_, runAmid_selectTests, rfl, fun t ht => count_selectedAmid hm ht,
      fun t ht => (mem_selectedAmid.mp ht).1, fun k language e g hk hf hg hsame => ?_⟩
    rw [runAmid_selectTests]
    exact selectedAmid_without hk hf hg hsame
  case detects =>
    intro d m form t m' h hdefault hne later report keys key hkeys hkey htext
    exact ⟨_, rfl, exists_lookup_of_hasKeys h hdefault hne later hkeys hkey htext⟩

/-- A report that names a language in capitals and with a blank end. -/
def capitalReport : String := "\x7b\"PYTHON \":[]\x7d"

theorem hasKeys_capitalReport : HasKeys capitalReport ["PYTHON "] := by
  have hparse : Json.Document.parse? capitalReport.toList =
      some (.object [(some "PYTHON ", .array [])]) := rfl
  exact ⟨_, hparse, rfl, by decide⟩

/-- A test that is registered for `Python` is selected for such a report, once. -/
theorem selection_counts_sample : ∃ t m' languages,
    (registerSecurityTest spacedForm).runIn Script.sample .empty = (.ok t, m') ∧
    Report.enry.read? capitalReport = some ⟨some .passed, none, [], languages⟩ ∧
    t ∈ ((selectTests languages).runAmid Script.sample .never m').1 ∧
    ((selectTests ["python", "Python"]).runAmid Script.sample .never m').1.count t = 2 := by
  have hregistered : (registerSecurityTest spacedForm).runIn Script.sample .empty =
      (.ok spacedForm.normalise, { Memory.empty with securityTests := [spacedForm.normalise] }) :=
    registerSecurityTest_runIn_iff.mpr ⟨by decide, rfl, rfl⟩
  obtain ⟨languages, hread, k, -, hselected⟩ := selection_counts.2 _ _ _ _ _ hregistered rfl
    (by decide) [] _ _ _ hasKeys_capitalReport List.mem_cons_self (by decide)
  obtain ⟨tests, hrun, -, hcount, -⟩ := selection_counts.1 Script.sample
    { Memory.empty with securityTests := [spacedForm.normalise] } ["python", "Python"] .never
    (List.nodup_singleton _)
  refine ⟨_, _, languages, hregistered, hread, hselected Script.sample .never rfl, ?_⟩
  rw [hrun, hcount _ List.mem_cons_self]
  decide

/-- A form for a default test whose language is blank. -/
def blankLanguageForm : SecurityTestForm := ⟨"blank", "tools/blank", none, "true", " ", true, 60⟩

/-- A report that names a blank language. -/
def blankReport : String := "\x7b\" \":[]\x7d"

/-- **A blank language is never detected.**  The form is accepted and a key of the report comes to the
same language, but the test is not selected, for whoever reads the report leaves the key out. -/
theorem blank_language_never_selected : ∃ t m' languages,
    (registerSecurityTest blankLanguageForm).runIn Script.sample .empty = (.ok t, m') ∧
    t.isDefault = true ∧ HasKeys blankReport [" "] ∧
    Text.lowercase (Text.trim " ") = Text.lowercase (Text.trim blankLanguageForm.language) ∧
    Report.enry.read? blankReport = some ⟨some .passed, none, [], languages⟩ ∧
    t ∉ ((selectTests languages).runAmid Script.sample .never m').1 := by
  have hparse : Json.Document.parse? blankReport.toList =
      some (.object [(some " ", .array [])]) := rfl
  have hkeys : HasKeys blankReport [" "] := ⟨_, hparse, rfl, by decide⟩
  refine ⟨_, _, _, registerSecurityTest_runIn_iff.mpr ⟨by decide, rfl, rfl⟩, rfl, hkeys, rfl, rfl, ?_⟩
  rw [Report.detectedLanguages_of_hasKeys hkeys, runAmid_selectTests]
  decide

end Service
end ScanService
