import ScanService.Proofs.Report.Composition
import ScanService.Proofs.Report.Flattening

/-!
# The readers of all tools compose

The tools that look for flaws write their reports in seven forms, two of which are Safety's.  In all
of them the readers sum up what they make of each finding, so that they compose.

## What is here

* `BanditReport.sumsUp`, `GosecReport.sumsUp`, `BrakemanReport.sumsUp`, `RetireJsReport.sumsUp`,
  `SafetyReport.rows_sumUp`, `SafetyReport.object_sumsUp` — each tool sums up its findings.
* `Format`, `Format.reader`, `Format.Lists` — the forms, and the documents that list some findings.
* `readers_compose` — **the readers of all tools compose in all their forms**, and every report that
  they take is in one of these, unless it lists internal errors.
-/

namespace ScanService
namespace Report

open Json (Document)
open FromJson (read?)

/-! ## Tools with a verdict of their own -/

/-- One issue for each finding, and a verdict by the findings, is what such a tool comes to, though
it treats an empty list in its own way. -/
theorem issues_and_verdict_of_judged {α : Type} (found : List α) (toIssue : α → Issue)
    (fails : α → Bool) (o : Outcome)
    (ho : o = if found.isEmpty then .clean
      else .judged (if found.any fails then .failed else .passed) (found.map toIssue)) :
    o.issues = found.flatMap (fun f => [toIssue f]) ∧
      o.verdict = if found.any fails then some .failed else some .passed := by
  subst ho
  cases found with
  | nil => exact ⟨rfl, rfl⟩
  | cons f rest =>
    rw [← List.map_eq_flatMap]
    refine ⟨rfl, ?_⟩
    change some _ = _
    split <;> rfl

/-- Bandit sums up its findings. -/
theorem BanditReport.sumsUp : bandit.SumsUp (BanditReport.layout.Lists false)
    (read? (nestingLimit - 2)) (fun f => [BanditFinding.toIssue f]) BanditFinding.blocks
    (some .passed) :=
  sumsUp_of_layout (fun _ => rfl) (fun _ => BanditReport.read?_eq)
    (fun _ _ hl => Option.map_id'.trans hl.elim_eq) fun found errors hnone =>
      issues_and_verdict_of_judged found _ _ _ (by rw [outcome_eq, hnone]; rfl)

/-- Gosec sums up its findings. -/
theorem GosecReport.sumsUp (tool : String) : (gosecNamed tool).SumsUp
    (GosecReport.layout.Lists true) (read? (nestingLimit - 2)) (fun f => [GosecFinding.toIssue f])
    GosecFinding.blocks (some .passed) :=
  sumsUp_of_layout (fun _ => rfl) (fun _ => GosecReport.read?_eq)
    (fun _ _ hl => hl.elim_optional_eq) fun found? errors hnone =>
      issues_and_verdict_of_judged (found?.getD []) _ _ _ (by rw [outcome, hnone]; rfl)

/-- Brakeman sums up its warnings, each of which fails the job. -/
theorem BrakemanReport.sumsUp : brakeman.SumsUp (BrakemanReport.layout.Lists false)
    (read? (nestingLimit - 2)) (fun w => [BrakemanWarning.toIssue w]) (fun _ => true)
    (some .passed) :=
  sumsUp_of_layout (fun _ => rfl) (fun _ => BrakemanReport.read?_eq)
    (fun _ _ hl => Option.map_id'.trans hl.elim_eq) fun found errors hnone =>
      issues_and_verdict_of_judged found _ _ _ (by
        rw [outcome, hnone]
        cases found <;> rfl)

/-- RetireJS sums up the files that it lists. -/
theorem RetireJsReport.sumsUp : retireJs.SumsUp (RetireJsReport.layout.Lists false)
    (read? (nestingLimit - 2)) RetireJsFile.issues
    (fun f => f.vulnerabilities.any RetireJsVulnerability.blocks) (some .passed) :=
  sumsUp_of_layout (fun _ => rfl) (fun _ => RetireJsReport.read?_eq)
    (fun _ _ hl => Option.map_id'.trans hl.elim_eq) fun files errors hnone => by
      refine ⟨issues_outcome hnone, ?_⟩
      rw [verdict_outcome_eq, if_neg (Bool.eq_false_iff.mp hnone), vulnerabilities,
        List.any_flatMap]
      split <;> rfl

/-- What is taken as a report of Gosec, and not found in error, lists findings. -/
theorem GosecReport.exists_presents {tool report : String} {o : Outcome}
    (ho : (gosecNamed tool).read? report = some o) (hv : o.verdict ≠ some .error) :
    ∃ l, Presents (GosecReport.layout.Lists true) report l :=
  exists_presents_of_layout (fun _ => rfl) (fun _ => GosecReport.read?_eq)
    (fun _ _ => exists_isListed_of_elim_optional)
    (fun _ _ h => by rw [outcome, if_pos h]; rfl) ho hv

/-! ## Safety -/

section Lists

variable {α : Type} {f : Document → Option α} {l : List Document} {levels : Nat}

/-- A list of which each item has to be fit is read if all are. -/
theorem mapM_ite (p : Document → Bool) :
    l.mapM (fun x => if p x then f x else none) = if l.all p then l.mapM f else none := by
  induction l with
  | nil => rfl
  | cons x rest ih =>
    rw [List.mapM_cons, List.mapM_cons, List.all_cons, ih]
    cases p x with
    | false => rfl
    | true => cases rest.all p <;> cases f x <;> rfl

theorem itemsReadable_eq : Document.itemsReadable levels l = l.all (·.isReadable levels) := by
  induction l with
  | nil => rfl
  | cons x rest ih => rw [Document.itemsReadable, ih, List.all_cons]

theorem entriesReadable_eq {entries : List (Option String × Document)} :
    Document.entriesReadable levels entries =
      entries.all fun e => e.1.isSome && e.2.isReadable levels := by
  induction entries with
  | nil => rfl
  | cons e rest ih => rw [Document.entriesReadable, ih, List.all_cons]

end Lists

/-- Without internal errors, the issues tell what is reported. -/
theorem SafetyReport.outcome_of_no_errors (found : List SafetyIssue) {errors : Option Json}
    (h : reportsErrors errors = false) : (SafetyReport.mk found errors).outcome =
      if found.isEmpty then ⟨none, some noIssues, [], []⟩
      else .judged .failed (found.map SafetyIssue.toIssue) := by
  rw [outcome, h]
  rfl

/-- What comes of some issues of Safety. -/
theorem SafetyReport.outcome_eq (found : List SafetyIssue) {errors : Option Json}
    (h : reportsErrors errors = false) :
    ((SafetyReport.mk found errors).outcome.issues,
      (SafetyReport.mk found errors).outcome.verdict) =
      (found.flatMap fun i => [i.toIssue],
        if found.any fun _ => true then some .failed else none) := by
  rw [outcome_of_no_errors found h]
  cases found with
  | nil => rfl
  | cons i rest =>
    rw [← List.map_eq_flatMap]
    rfl

/-- A list is read as rows only. -/
theorem SafetyReport.read?_array (l : List Document) :
    (read? nestingLimit (.array l) : Option SafetyReport) =
      if l.all (·.isReadable (nestingLimit - 1)) then
        (l.mapM (SafetyIssue.ofRow? (nestingLimit - 1))).map fun found => ⟨found, none⟩
      else none := by
  rw [← itemsReadable_eq]
  refine if_congr Iff.rfl ?_ rfl
  change ((l.mapM (SafetyIssue.ofRow? (nestingLimit - 1))).map _).orElse (fun _ => none) = _
  cases l.mapM (SafetyIssue.ofRow? (nestingLimit - 1)) <;> rfl

/-- What comes of a report of Safety that is a list. -/
theorem SafetyReport.read?_rows {report : String} {l : List Document}
    (hd : Document.parse? report.toList = some (.array l)) :
    safety.read? report = (l.mapM fun x : Document =>
        if x.isReadable (nestingLimit - 1) then SafetyIssue.ofRow? (nestingLimit - 1) x
        else none).map fun found => (SafetyReport.mk found none).outcome := by
  rw [Reader.read?_eq (fun _ => rfl) hd, mapM_ite, read?_array]
  split
  · rw [Option.map_map]
    rfl
  · rfl

/-- Safety sums up the rows of a report that is a list. -/
theorem SafetyReport.rows_sumUp : safety.SumsUp (fun d l => d = .array l)
    (fun x => if x.isReadable (nestingLimit - 1) then SafetyIssue.ofRow? (nestingLimit - 1) x
      else none) (fun i => [i.toIssue]) (fun _ => true) none := by
  rintro report _ l hd rfl
  rw [read?_rows hd, Option.map_map]
  exact Option.map_congr fun found _ => outcome_eq found rfl

/-- An object is read as a report with members only. -/
theorem SafetyReport.read?_object (entries : List (Option String × Document)) :
    (read? nestingLimit (.object entries) : Option SafetyReport) =
      if (Document.object entries).isReadable nestingLimit then
        SafetyReport.layout.read? [] SafetyReport.mk nestingLimit (.object entries)
      else none := rfl

/-- An object that lists some issues, and in which everything else can be read. -/
def SafetyReport.IsObject (d : Document) (l : List Document) : Prop :=
  SafetyReport.layout.Lists false d l ∧ ∃ entries, d = .object entries ∧
    ∀ e ∈ entries, e.2 = .array l ∨ e.2.isReadable (nestingLimit - 1) = true

/-- What stands for a member in an object is the value of an entry. -/
theorem exists_mem_of_member? {members : List Member} {name : String} {x : Document}
    {entries : List (Option String × Document)}
    (h : (Document.object entries).member? members name = some x) : ∃ e ∈ entries, e.2 = x := by
  rw [Document.member?] at h
  obtain ⟨m, -, h⟩ := Option.bind_eq_some_iff.mp h
  obtain ⟨e, he, hx⟩ := Option.map_eq_some_iff.mp h
  exact ⟨e, List.mem_of_find?_eq_some he, hx⟩

/-- Everything in such an object can be read if the issues can. -/
theorem SafetyReport.isReadable_of_isObject {d : Document} {l : List Document}
    (h : SafetyReport.IsObject d l) :
    d.isReadable nestingLimit = l.all (·.isReadable (nestingLimit - 2)) := by
  obtain ⟨⟨⟨r, hr⟩, hl, -⟩, entries, rfl, hbeside⟩ := h
  have hkeys := Record.keys_of_ofDocument? hr
  have hlist : (Document.array l).isReadable (nestingLimit - 1) =
      l.all (·.isReadable (nestingLimit - 2)) := itemsReadable_eq
  change Document.entriesReadable (nestingLimit - 1) entries = _
  rw [entriesReadable_eq, Bool.eq_iff_iff, List.all_eq_true]
  constructor
  · intro h
    rcases hl with hplace | ⟨rfl, -⟩
    · obtain ⟨e, he, hx⟩ := exists_mem_of_member? hplace
      rw [← hlist, ← hx]
      exact (Bool.and_eq_true_iff.mp (h e he)).2
    · rfl
  · intro h e he
    refine Bool.and_eq_true_iff.mpr ⟨List.all_eq_true.mp hkeys e he, ?_⟩
    rcases hbeside e he with hx | hreadable
    · rw [hx, hlist, h]
    · exact hreadable

/-- What comes of a report of Safety that is an object. -/
theorem SafetyReport.read?_objects {report : String} {d : Document} {l : List Document}
    (hd : Document.parse? report.toList = some d) (hobject : SafetyReport.IsObject d l) :
    ∃ errors, reportsErrors errors = false ∧ safety.read? report = (l.mapM fun x : Document =>
        if x.isReadable (nestingLimit - 2) then read? (nestingLimit - 2) x
        else none).map fun found => (SafetyReport.mk found errors).outcome := by
  have hreadable := isReadable_of_isObject hobject
  obtain ⟨hl, entries, rfl, -⟩ := hobject
  obtain ⟨errors, hnone, hread⟩ := hl.read?_eq [] SafetyReport.mk
  have hfound : SafetyReport.layout.read? [] SafetyReport.mk nestingLimit (.object entries) =
      (l.mapM (read? (nestingLimit - 2))).map (SafetyReport.mk · errors) :=
    hread.trans (congrArg _ hl.findings.elim_eq)
  refine ⟨errors, hnone, ?_⟩
  rw [Reader.read?_eq (fun _ => rfl) hd, mapM_ite, read?_object, hreadable, hfound]
  split
  · rw [Option.map_map]
    rfl
  · rfl

/-- Safety sums up the issues of a report that is an object. -/
theorem SafetyReport.object_sumsUp : safety.SumsUp SafetyReport.IsObject
    (fun x => if x.isReadable (nestingLimit - 2) then read? (nestingLimit - 2) x else none)
    (fun i => [SafetyIssue.toIssue i]) (fun _ => true) none := by
  intro report d l hd hobject
  obtain ⟨errors, hnone, hread⟩ := read?_objects hd hobject
  rw [hread, Option.map_map]
  exact Option.map_congr fun found _ => outcome_eq found hnone

/-- What is taken as a report of Safety, and not found in error, is a list of rows or an object
around a list of issues. -/
theorem SafetyReport.exists_presents {report : String} {o : Outcome}
    (ho : safety.read? report = some o) (hv : o.verdict ≠ some .error) :
    ∃ l, Presents (fun d l => d = .array l) report l ∨ Presents SafetyReport.IsObject report l := by
  obtain ⟨d, htakes⟩ := Reader.exists_takes (fun _ => rfl) ho
  obtain ⟨rep, hrep, rfl⟩ := htakes.exists_report fun _ => rfl
  cases d with
  | array l => exact ⟨l, .inl ⟨_, htakes.parse, rfl⟩⟩
  | object entries =>
    rw [read?_object, Option.ite_none_right_eq_some] at hrep
    obtain ⟨hreadable, hrep⟩ := hrep
    obtain ⟨found, errors, rfl, hfound, hlists⟩ := Layout.exists_lists_of_read? hrep
    obtain ⟨l, hl⟩ := exists_isListed_of_elim hfound
    have hnone : reportsErrors errors = false :=
      Bool.eq_false_iff.mpr fun h => hv (by rw [outcome, if_pos h]; rfl)
    refine ⟨l, .inr ⟨_, htakes.parse, hlists l hnone hl, entries, rfl, fun e he => .inr ?_⟩⟩
    change Document.entriesReadable (nestingLimit - 1) entries = true at hreadable
    rw [entriesReadable_eq, List.all_eq_true] at hreadable
    exact (Bool.and_eq_true_iff.mp (hreadable e he)).2
  | _ => simp [FromJson.read?, ofRows?, ofWrapped?] at hrep

/-! ## All tools -/

/-- The forms in which the tools write their reports. -/
inductive Format where
  | bandit
  | gosec
  | gas
  | brakeman
  | retireJs
  /-- A report of Safety that is a list of rows. -/
  | safetyRows
  /-- A report of Safety that is an object around a list of issues. -/
  | safetyObject
  deriving DecidableEq, Repr

namespace Format

/-- The reader of the tool that writes a form. -/
def reader : Format → Reader
  | bandit => Report.bandit
  | gosec => Report.gosec
  | gas => Report.gas
  | brakeman => Report.brakeman
  | retireJs => Report.retireJs
  | safetyRows | safetyObject => Report.safety

/-- The documents of a form that list some findings and no internal errors. -/
def Lists : Format → Document → List Document → Prop
  | bandit => BanditReport.layout.Lists false
  | gosec | gas => GosecReport.layout.Lists true
  | brakeman => BrakemanReport.layout.Lists false
  | retireJs => RetireJsReport.layout.Lists false
  | safetyRows => fun d l => d = .array l
  | safetyObject => SafetyReport.IsObject

/-- **The readers of all tools compose in all their forms.** -/
theorem composes (F : Format) : F.reader.Composes F.Lists := by
  cases F with
  | bandit => exact BanditReport.sumsUp.composes (.inr rfl)
  | gosec => exact (GosecReport.sumsUp "Gosec").composes (.inr rfl)
  | gas => exact (GosecReport.sumsUp "Gas").composes (.inr rfl)
  | brakeman => exact BrakemanReport.sumsUp.composes (.inr rfl)
  | retireJs => exact RetireJsReport.sumsUp.composes (.inr rfl)
  | safetyRows => exact SafetyReport.rows_sumUp.composes (.inl rfl)
  | safetyObject => exact SafetyReport.object_sumsUp.composes (.inl rfl)

/-- Every report that a tool's reader takes is in one of its forms, unless it lists internal
errors. -/
theorem exists_presents (F : Format) {report : String} {o : Outcome}
    (ho : F.reader.read? report = some o) (hv : o.verdict ≠ some .error) :
    ∃ (G : Format) (l : List Document), G.reader = F.reader ∧ Presents G.Lists report l := by
  have herror {errors : Option Json} (h : reportsErrors errors = true) {o o' : Outcome}
      (ho : o.verdict = some .error) : (if reportsErrors errors then o else o').verdict =
        some .error := by
    rw [if_pos h, ho]
  cases F with
  | bandit =>
    obtain ⟨l, hl⟩ := exists_presents_of_layout (fun _ => rfl) (fun _ => BanditReport.read?_eq)
      (fun _ _ => exists_isListed_of_elim)
      (fun _ _ h => by rw [BanditReport.outcome_eq]; exact herror h rfl) ho hv
    exact ⟨bandit, l, rfl, hl⟩
  | gosec =>
    obtain ⟨l, hl⟩ := GosecReport.exists_presents ho hv
    exact ⟨gosec, l, rfl, hl⟩
  | gas =>
    obtain ⟨l, hl⟩ := GosecReport.exists_presents ho hv
    exact ⟨gas, l, rfl, hl⟩
  | brakeman =>
    obtain ⟨l, hl⟩ := exists_presents_of_layout (fun _ => rfl) (fun _ => BrakemanReport.read?_eq)
      (fun _ _ => exists_isListed_of_elim) (fun _ _ h => herror h rfl) ho hv
    exact ⟨brakeman, l, rfl, hl⟩
  | retireJs =>
    obtain ⟨l, hl⟩ := exists_presents_of_layout (fun _ => rfl) (fun _ => RetireJsReport.read?_eq)
      (fun _ _ => exists_isListed_of_elim) (fun _ _ h => herror h rfl) ho hv
    exact ⟨retireJs, l, rfl, hl⟩
  | safetyRows | safetyObject =>
    obtain ⟨l, hl | hl⟩ := SafetyReport.exists_presents ho hv
    · exact ⟨safetyRows, l, rfl, hl⟩
    · exact ⟨safetyObject, l, rfl, hl⟩

end Format

/-- **The readers of all tools compose.**  In every form, a report on the findings of two reports
comes to what they come to together; findings that are added anywhere leave a failure what it is,
and the order of findings does not change the verdict.  All reports that a tool's reader takes are
in one of its forms, those apart that list internal errors. -/
theorem readers_compose (F : Format) : F.reader.Composes F.Lists ∧
    ∀ report o, F.reader.read? report = some o → o.verdict ≠ some .error →
      ∃ (G : Format) (l : List Document), G.reader = F.reader ∧ Presents G.Lists report l :=
  ⟨F.composes, fun _ _ => F.exists_presents⟩

/-- An empty report of Safety, one with an issue, and one on both, of which each names its list in
another way. -/
theorem readers_compose_sample : ∃ o₁ o₂ o,
    safety.read? "\x7b\x7d" = some o₁ ∧ o₁.verdict = none ∧
    safety.read? "\x7b\"issues\": [[\"a\"]], \"errors\": \"\"\x7d" = some o₂ ∧
    o₂.verdict = some .failed ∧
    safety.read? "\x7b\"SafetyIssues\": [[\"a\"]]\x7d" = some o ∧
    o.issues = o₁.issues ++ o₂.issues ∧ o.verdict.getD .passed =
      Verdict.combine [o₁.verdict.getD .passed, o₂.verdict.getD .passed] := by
  have hparse₁ : Document.parse? "\x7b\x7d".toList = some (.object []) := rfl
  have hparse₂ : Document.parse? "\x7b\"issues\": [[\"a\"]], \"errors\": \"\"\x7d".toList =
      some (.object [(some "issues", .array [.array [.text (some "a")]]),
        (some "errors", .text (some ""))]) := rfl
  have hparse : Document.parse? "\x7b\"SafetyIssues\": [[\"a\"]]\x7d".toList =
      some (.object [(some "SafetyIssues", .array [.array [.text (some "a")]])]) := rfl
  have hread₁ := (Reader.read?_eq (r := safety) (fun _ => rfl) hparse₁).trans rfl
  have hread₂ := (Reader.read?_eq (r := safety) (fun _ => rfl) hparse₂).trans rfl
  have hl₁ : Presents Format.safetyObject.Lists "\x7b\x7d" [] :=
    ⟨_, hparse₁, ⟨⟨_, rfl⟩, .inr ⟨rfl, .inl rfl⟩, fun _ h => nomatch h⟩, _, rfl, by simp⟩
  have hl₂ : Presents Format.safetyObject.Lists
      "\x7b\"issues\": [[\"a\"]], \"errors\": \"\"\x7d" [.array [.text (some "a")]] := by
    refine ⟨_, hparse₂, ⟨⟨_, rfl⟩, .inl rfl, ?_⟩, _, rfl, by simp; decide⟩
    rintro x hx
    cases hx
    exact ⟨.text "", rfl, rfl⟩
  have hl : Presents Format.safetyObject.Lists "\x7b\"SafetyIssues\": [[\"a\"]]\x7d"
      [.array [.text (some "a")]] :=
    ⟨_, hparse, ⟨⟨_, rfl⟩, .inl rfl, fun _ h => nomatch h⟩, _, rfl, by simp⟩
  obtain ⟨o, ho, hissues, hverdict⟩ :=
    (readers_compose .safetyObject).1.append hl₁ hl₂ hl hread₁ hread₂
  exact ⟨_, _, o, hread₁, rfl, hread₂, rfl, ho, hissues, hverdict⟩

end Report
end ScanService
