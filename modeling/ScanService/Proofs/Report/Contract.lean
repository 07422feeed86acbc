import Mathlib.Data.List.Infix
import ScanService.Proofs.Report.Builtin

/-!
# What the evaluations of all built-in tools have in common

The readers differ in what they take for an error and in what they make of a failed clone.  Their
differences are few, and this file lists them all: a report that a tool can read comes to its
outcome in one of five ways (`Tool.Reads`), and what every evaluation keeps to (`Tool.Contract`)
is checked on each of them once, together with the rules that come before any reading.

## What is here

* `Tool`, `Tool.Reads`, `Tool.reads` — the built-in tools, and how their reports come to outcomes.
* `Tool.contract` — every evaluation of a built-in tool keeps to the contract.
* `Registry.registerAll`, `Registry.get?_registerAll` — the last registration of a name wins.
* `Registry.dispatch_contract` — **dispatch in the registry of built-in readers always answers, by
  the contract, whatever the case of the name; in any registry it goes to the reader registered
  last under the name, and is refused only if there is none.**
-/

namespace ScanService
namespace Text

theorem occursIn_iff (word s : List Char) : occursIn word s = true ↔ word <:+: s := by
  induction s with
  | nil => rw [occursIn, List.isEmpty_iff, List.infix_nil]
  | cons c rest ih =>
    rw [occursIn, Bool.or_eq_true, List.isPrefixOf_iff_prefix, ih, List.infix_cons_iff]

/-- A text contains a word if the word stands between some beginning and some end of it. -/
theorem contains_iff (s word : String) : contains s word = true ↔ word.toList <:+: s.toList :=
  occursIn_iff _ _

end Text

namespace Report

/-! ## The tools -/

/-- The tools with a built-in reader. -/
inductive Tool where
  | bandit
  | gosec
  | gas
  | brakeman
  | retireJs
  | safety
  | enry
  deriving DecidableEq, Repr

namespace Tool

/-- The name under which a tool's reader is registered. -/
def name : Tool → String
  | bandit => "bandit"
  | gosec => "gosec"
  | gas => "gas"
  | brakeman => "brakeman"
  | retireJs => "retirejs"
  | safety => "safety"
  | enry => "enry"

/-- The reader of a tool. -/
def reader : Tool → Reader
  | bandit => Report.bandit
  | gosec => Report.gosec
  | gas => Report.gas
  | brakeman => Report.brakeman
  | retireJs => Report.retireJs
  | safety => Report.safety
  | enry => Report.enry

/-- The member for internal errors in a report that the tool's reader takes, none if it refuses the
report.  Enry's reports have no such member. -/
def errors? : Tool → String → Option (Option Json)
  | bandit, report => (FromJson.ofText? report).map BanditReport.errors
  | gosec, report | gas, report => (FromJson.ofText? report).map GosecReport.errors
  | brakeman, report => (FromJson.ofText? report).map BrakemanReport.errors
  | retireJs, report => (FromJson.ofText? report).map RetireJsReport.errors
  | safety, report => (FromJson.ofText? report).map SafetyReport.errors
  | enry, _ => some none

/-- The tool's reader does not take the report. -/
def Refuses (tool : Tool) (report : String) : Prop := tool.reader.read? report = none

/-- The tools that take a failed clone for a failed test. -/
def FailsOnClone (tool : Tool) : Prop := tool = brakeman ∨ tool = retireJs

/-- What every evaluation of a report keeps to. -/
structure Contract (tool : Tool) (report : String) (e : Evaluation) : Prop where
  /-- The marker of a failed clone outranks everything else in the report. -/
  cloned : cloningMarker.toList <:+: report.toList →
    e.output = "Container error: " ++ report ∧ e.issues = [] ∧ e.languages = []
  /-- Issues come with the report that they are from. -/
  issues : e.issues ≠ [] → e.output = report
  /-- Only the detector finds languages. -/
  languages : e.languages ≠ [] → tool = enry ∧ e.verdict = some .passed
  /-- Only a clean report of Safety has no verdict. -/
  undecided : e.verdict = none → tool = safety ∧ SafetyReport.IsClean report
  /-- A test that passes without issues says so. -/
  passed : e.verdict = some .passed → e.issues = [] → tool ≠ enry → e.output = noIssues
  /-- A test fails by its issues, by a failed clone or by a report that cannot be read. -/
  failed : e.verdict = some .failed → e.issues ≠ [] ∨
    (tool.FailsOnClone ∧ cloningMarker.toList <:+: report.toList) ∨
    (tool = brakeman ∧ tool.Refuses report)
  /-- A test ends in error by a failed clone, by a report that cannot be read or by the errors that
  the report lists. -/
  error : e.verdict = some .error →
    (¬tool.FailsOnClone ∧ cloningMarker.toList <:+: report.toList) ∨
    (tool ≠ brakeman ∧ tool.Refuses report) ∨
    ∃ errors, tool.errors? report = some errors ∧ reportsErrors errors = true

/-! ## Reports that can be read -/

/-- The ways in which a report comes to its outcome. -/
inductive Reads (tool : Tool) (report : String) : Outcome → Prop
  /-- The report lists internal errors. -/
  | erred {errors : Option Json} (issues : List Issue) (herrors : tool.errors? report = some errors)
      (hreports : reportsErrors errors = true) : Reads tool report (.judged .error issues)
  /-- The report lists nothing. -/
  | clean : Reads tool report .clean
  /-- The report lists findings. -/
  | found {verdict : Verdict} {issues : List Issue} (hverdict : verdict ≠ .error)
      (hissues : issues ≠ []) : Reads tool report (.judged verdict issues)
  /-- The report of Safety lists nothing. -/
  | undecided (htool : tool = safety) (hclean : SafetyReport.IsClean report) :
      Reads tool report ⟨none, some noIssues, [], []⟩
  /-- The report of the detector lists languages. -/
  | detected (htool : tool = enry) (languages : List String) :
      Reads tool report ⟨some .passed, none, [], languages⟩

variable {tool : Tool} {report : String}

/-- Errors first, then nothing found, then the findings: the order in which all readers of
documents look at them. -/
theorem Reads.ite {errors : Option Json} (herrors : tool.errors? report = some errors)
    {empty : Bool} {erred issues : List Issue} {verdict : Verdict} (hverdict : verdict ≠ .error)
    (hissues : empty = false → issues ≠ []) :
    tool.Reads report (if reportsErrors errors then .judged .error erred
      else if empty then .clean else .judged verdict issues) := by
  cases hreports : reportsErrors errors with
  | true => exact .erred _ herrors hreports
  | false =>
    cases empty with
    | true => exact .clean
    | false => exact .found hverdict (hissues rfl)

theorem judgement_ne_error (b : Bool) : (if b then Verdict.failed else .passed) ≠ .error := by
  cases b <;> decide

theorem map_ne_nil {α : Type} {found : List α} (toIssue : α → Issue) (h : found.isEmpty = false) :
    found.map toIssue ≠ [] := by
  simpa using h

/-- **Every report that a built-in tool can read comes to its outcome in one of these ways.** -/
theorem reads {outcome : Outcome} (h : tool.reader.read? report = some outcome) :
    tool.Reads report outcome := by
  cases tool with
  | bandit =>
    obtain ⟨doc, hdoc, rfl⟩ := Option.map_eq_some_iff.mp h
    rw [BanditReport.outcome_eq]
    refine .ite (?_ : _ = some doc.errors) (judgement_ne_error _) (map_ne_nil _)
    exact congrArg (Option.map BanditReport.errors) hdoc
  | gosec | gas =>
    obtain ⟨doc, hdoc, rfl⟩ := Option.map_eq_some_iff.mp h
    refine .ite (?_ : _ = some doc.errors) (judgement_ne_error _) (map_ne_nil _)
    exact congrArg (Option.map GosecReport.errors) hdoc
  | brakeman =>
    obtain ⟨doc, hdoc, rfl⟩ := Option.map_eq_some_iff.mp h
    refine .ite (?_ : _ = some doc.errors) (by decide) (map_ne_nil _)
    exact congrArg (Option.map BrakemanReport.errors) hdoc
  | retireJs =>
    obtain ⟨doc, hdoc, rfl⟩ := Option.map_eq_some_iff.mp h
    refine .ite (?_ : _ = some doc.errors) (judgement_ne_error _) (by simp)
    exact congrArg (Option.map RetireJsReport.errors) hdoc
  | safety =>
    obtain ⟨doc, hdoc, rfl⟩ := Option.map_eq_some_iff.mp h
    have herrors : safety.errors? report = some doc.errors :=
      congrArg (Option.map SafetyReport.errors) hdoc
    cases hnone : doc.outcome.verdict with
    | none =>
      obtain ⟨hfound, hreports, houtcome⟩ := SafetyReport.outcome_of_verdict_eq_none hnone
      rw [houtcome]
      exact .undecided rfl ⟨doc, hdoc, hfound, hreports⟩
    | some verdict =>
      rw [SafetyReport.outcome] at hnone ⊢
      split at hnone
      · next hreports => exact if_pos hreports ▸ .erred _ herrors hreports
      · next hreports =>
        split at hnone
        · cases hnone
        · next hfound =>
          rw [if_neg hreports, if_neg hfound]
          exact .found (by decide) (map_ne_nil _ (by simpa using hfound))
  | enry =>
    cases h
    exact .detected rfl _

/-! ## The contract -/

theorem onCloningFailure_cases (tool : Tool) :
    tool.FailsOnClone ∧ tool.reader.onCloningFailure = .failed ∨
      ¬tool.FailsOnClone ∧ tool.reader.onCloningFailure = .error := by
  rw [FailsOnClone]
  cases tool <;> decide

theorem onUnreadable_cases (tool : Tool) :
    tool = brakeman ∧ tool.reader.onUnreadable = .failed ∨
      tool ≠ brakeman ∧ tool.reader.onUnreadable = .error := by
  cases tool <;> decide

/-- A report with the marker is not read. -/
theorem contract_of_cloned (hmarker : cloningMarker.toList <:+: report.toList) :
    tool.Contract report
      ⟨some tool.reader.onCloningFailure, "Container error: " ++ report, [], []⟩ := by
  rcases onCloningFailure_cases tool with ⟨hfails, hverdict⟩ | ⟨hfails, hverdict⟩ <;> rw [hverdict]
  · exact {
      cloned := fun _ => ⟨rfl, rfl, rfl⟩
      issues := fun h => absurd rfl h
      languages := fun h => absurd rfl h
      undecided := nofun
      passed := nofun
      failed := fun _ => .inr (.inl ⟨hfails, hmarker⟩)
      error := nofun }
  · exact {
      cloned := fun _ => ⟨rfl, rfl, rfl⟩
      issues := fun h => absurd rfl h
      languages := fun h => absurd rfl h
      undecided := nofun
      passed := nofun
      failed := nofun
      error := fun _ => .inl ⟨hfails, hmarker⟩ }

/-- A report that cannot be read keeps its text. -/
theorem contract_of_refuses (hrefuses : tool.Refuses report)
    (hmarker : ¬cloningMarker.toList <:+: report.toList) :
    tool.Contract report ⟨some tool.reader.onUnreadable, report, [], []⟩ := by
  rcases onUnreadable_cases tool with ⟨htool, hverdict⟩ | ⟨htool, hverdict⟩ <;> rw [hverdict]
  · exact {
      cloned := fun h => absurd h hmarker
      issues := fun _ => rfl
      languages := fun h => absurd rfl h
      undecided := nofun
      passed := nofun
      failed := fun _ => .inr (.inr ⟨htool, hrefuses⟩)
      error := nofun }
  · exact {
      cloned := fun h => absurd h hmarker
      issues := fun _ => rfl
      languages := fun h => absurd rfl h
      undecided := nofun
      passed := nofun
      failed := nofun
      error := fun _ => .inr (.inl ⟨htool, hrefuses⟩) }

/-- A report that is read comes to its outcome in one of the five ways. -/
theorem Reads.contract {outcome : Outcome} (h : tool.Reads report outcome)
    (hmarker : ¬cloningMarker.toList <:+: report.toList) :
    tool.Contract report
      ⟨outcome.verdict, outcome.output.getD report, outcome.issues, outcome.languages⟩ := by
  cases h with
  | erred issues herrors hreports =>
    exact {
      cloned := fun h => absurd h hmarker
      issues := fun _ => rfl
      languages := fun h => absurd rfl h
      undecided := nofun
      passed := nofun
      failed := nofun
      error := fun _ => .inr (.inr ⟨_, herrors, hreports⟩) }
  | clean =>
    exact {
      cloned := fun h => absurd h hmarker
      issues := fun h => absurd rfl h
      languages := fun h => absurd rfl h
      undecided := nofun
      passed := fun _ _ _ => rfl
      failed := nofun
      error := nofun }
  | found hverdict hissues =>
    exact {
      cloned := fun h => absurd h hmarker
      issues := fun _ => rfl
      languages := fun h => absurd rfl h
      undecided := nofun
      passed := fun _ h => absurd h hissues
      failed := fun _ => .inl hissues
      error := fun h => absurd (Option.some.inj h) hverdict }
  | undecided htool hclean =>
    exact {
      cloned := fun h => absurd h hmarker
      issues := fun h => absurd rfl h
      languages := fun h => absurd rfl h
      undecided := fun _ => ⟨htool, hclean⟩
      passed := nofun
      failed := nofun
      error := nofun }
  | detected htool languages =>
    exact {
      cloned := fun h => absurd h hmarker
      issues := fun h => absurd rfl h
      languages := fun _ => ⟨htool, rfl⟩
      undecided := nofun
      passed := fun _ _ h => absurd htool h
      failed := nofun
      error := nofun }

/-- **Every evaluation by the reader of a built-in tool keeps to the contract.** -/
theorem contract (tool : Tool) (report : String) :
    tool.Contract report (tool.reader.evaluate report) := by
  rw [Reader.evaluate]
  split
  · next hcloned => exact contract_of_cloned ((Text.contains_iff _ _).mp hcloned)
  · next hcloned =>
    have hmarker := fun h => hcloned ((Text.contains_iff _ _).mpr h)
    split
    · exact Reads.clean.contract hmarker
    · split
      · next outcome hread => exact (reads hread).contract hmarker
      · next hrefuses => exact contract_of_refuses hrefuses hmarker

/-- The reader of a tool is registered under its name, whatever its case. -/
theorem get?_builtin {tool : Tool} {name : String} (h : Text.lowercase name = tool.name) :
    Registry.builtin.get? name = some tool.reader := by
  rw [Registry.get?_builtin, h]
  cases tool <;> rfl

end Tool

/-! ## Registrations -/

namespace Registry

/-- Registers readers one after the other. -/
def registerAll (g : Registry) (calls : List (String × Reader)) : Registry :=
  calls.foldl (fun g call => g.register call.1 call.2) g

/-- Registrations under other names do not matter. -/
theorem get?_registerAll_of_forall_ne {calls : List (String × Reader)} {name : String}
    (h : ∀ call ∈ calls, Text.lowercase call.1 ≠ Text.lowercase name) (g : Registry) :
    (g.registerAll calls).get? name = g.get? name := by
  induction calls generalizing g with
  | nil => rfl
  | cons call rest ih =>
    have hcall : Text.lowercase name ≠ Text.lowercase call.1 :=
      fun he => h call (List.mem_cons_self ..) he.symm
    calc ((g.register call.1 call.2).registerAll rest).get? name
        = (g.register call.1 call.2).get? name :=
          ih (fun other hother => h other (List.mem_cons_of_mem _ hother)) _
      _ = g.get? name := by rw [get?_register, if_neg hcall]

/-- **A name goes to the reader registered last under it.** -/
theorem get?_registerAll {before after : List (String × Reader)} {key name : String} {d : Reader}
    (hkey : Text.lowercase key = Text.lowercase name)
    (hafter : ∀ call ∈ after, Text.lowercase call.1 ≠ Text.lowercase name) (g : Registry) :
    (g.registerAll (before ++ (key, d) :: after)).get? name = some d := by
  have hsplit : g.registerAll (before ++ (key, d) :: after) =
      ((g.registerAll before).register key d).registerAll after := by
    rw [registerAll, List.foldl_append]
    rfl
  rw [hsplit, get?_registerAll_of_forall_ne hafter, get?_register, if_pos hkey.symm]

/-- **Dispatch keeps to the contract.**  Among the built-in readers, every built-in name in any case
and every report come to an evaluation, and it keeps to the contract of the tool.  After any
registrations, a name goes to the reader registered last under it, whatever their cases, and it is
an unknown tool if there was none. -/
theorem dispatch_contract :
    (∀ (tool : Tool) (name report : String), Text.lowercase name = tool.name →
      ∃ e, builtin.dispatch name report = .ok e ∧ tool.Contract report e) ∧
    (∀ (before after : List (String × Reader)) (key : String) (d : Reader) (name report : String),
      Text.lowercase key = Text.lowercase name →
      (∀ call ∈ after, Text.lowercase call.1 ≠ Text.lowercase name) →
      (empty.registerAll (before ++ (key, d) :: after)).dispatch name report =
        .ok (d.evaluate report)) ∧
    (∀ (calls : List (String × Reader)) (name report : String),
      (∀ call ∈ calls, Text.lowercase call.1 ≠ Text.lowercase name) →
      (empty.registerAll calls).dispatch name report = .error (.unknownTool name)) := by
  refine ⟨?builtin, ?last, ?unknown⟩
  case builtin =>
    intro tool name report hname
    refine ⟨tool.reader.evaluate report, ?_, tool.contract report⟩
    rw [dispatch, Tool.get?_builtin hname]
  case last =>
    intro before after key d name report hkey hafter
    rw [dispatch, get?_registerAll hkey hafter]
  case unknown =>
    intro calls name report hcalls
    rw [dispatch, get?_registerAll_of_forall_ne hcalls]
    rfl

/-- RetireJS, asked for in capitals, with the marker inside a document that it could read; and a
name that was registered twice in different cases, before another one. -/
theorem dispatch_contract_sample :
    (Text.lowercase "RetireJS" = Tool.retireJs.name ∧
      ∃ e, builtin.dispatch "RetireJS" "\x7b\"note\": \"ERROR_CLONING\"\x7d" = .ok e ∧
        e.output = "Container error: \x7b\"note\": \"ERROR_CLONING\"\x7d" ∧ e.issues = []) ∧
    (empty.registerAll [("zap", bandit), ("ZAP", safety), ("nikto", gosec)]).dispatch "Zap" "[]" =
      .ok ⟨none, noIssues, [], []⟩ ∧
    (empty.registerAll [("zap", bandit)]).dispatch "nikto" "[]" =
      .error (.unknownTool "nikto") := by
  obtain ⟨hbuiltin, hlast, hunknown⟩ := dispatch_contract
  refine ⟨⟨by decide, ?_⟩, ?_, hunknown _ _ _ (by decide)⟩
  · obtain ⟨e, he, hcontract⟩ :=
      hbuiltin .retireJs "RetireJS" "\x7b\"note\": \"ERROR_CLONING\"\x7d" (by decide)
    obtain ⟨houtput, hissues, -⟩ := hcontract.cloned (by decide)
    exact ⟨e, he, houtput, hissues⟩
  · exact hlast [("zap", bandit)] [("nikto", gosec)] "ZAP" safety "Zap" "[]" (by decide) (by decide)

end Registry
end Report
end ScanService
