import ScanService.Aggregate
import ScanService.Proofs.Report.Layout

/-!
# Reports on the findings of several reports

What a tool reports on two sources together is what it reports on each of them, one list of findings
behind the other.  A reader respects this if it makes its outcome one finding at a time.  That an
empty list has an output of its own, and may be without a verdict, does not show then.

## What is here

* `Reader.SumsUp` — what comes of a document is made of what comes of each finding in it.
* `Reader.Composes` — concatenation, further findings and the order of findings.
* `Reader.SumsUp.composes` — **a reader that sums up composes.**
* `Layout.Lists` — a document lists some findings and no internal errors, in whichever form.
* `sumsUp_of_layout` — a reader of reports of one layout sums up if it judges lists so, and
  `exists_presents_of_layout`: all that it takes, and does not find in error, lists findings.
-/

namespace ScanService
namespace Report

open Json (Document)
open FromJson (read?)

/-! ## Lists that are read -/

section Lists

variable {α : Type} {f : Document → Option α} {ds : List Document}

/-- A list is read if each of its items is. -/
theorem exists_mapM_iff : (∃ as, ds.mapM f = some as) ↔ ∀ d ∈ ds, ∃ a, f d = some a := by
  simp only [mapM_eq_some_iff]
  induction ds with
  | nil => simp
  | cons d ds ih =>
    rw [List.forall_mem_cons, ← ih]
    constructor
    · rintro ⟨as, h⟩
      obtain ⟨a, rest, ha, hrest, -⟩ := List.forall₂_cons_left_iff.mp h
      exact ⟨⟨a, ha⟩, rest, hrest⟩
    · rintro ⟨⟨a, ha⟩, rest, hrest⟩
      exact ⟨a :: rest, .cons ha hrest⟩

/-- What is read passes a test if an item is read as something that does. -/
theorem any_of_mapM {as : List α} (h : ds.mapM f = some as) (test : α → Bool) :
    as.any test = true ↔ ∃ d ∈ ds, (f d).any test = true := by
  rw [mapM_eq_some_iff] at h
  induction h with
  | nil => simp
  | cons ha _ ih =>
    rw [List.any_cons, Bool.or_eq_true, List.exists_mem_cons_iff, ih, ha, Option.any_some]

end Lists

/-! ## Summing up -/

/-- What a reader makes of a document is made of the findings that the document lists: it takes the
document if it takes each of them, the issues are theirs in order, and the verdict is `failed` if
one of them fails the job. -/
def Reader.SumsUp {α : Type} (r : Reader) (Lists : Document → List Document → Prop)
    (finding? : Document → Option α) (issues : α → List Issue) (fails : α → Bool)
    (undecided : Option Verdict) : Prop :=
  ∀ ⦃report d l⦄, Document.parse? report.toList = some d → Lists d l →
    (r.read? report).map (fun o => (o.issues, o.verdict)) =
      (l.mapM finding?).map fun found =>
        (found.flatMap issues, if found.any fails then some .failed else undecided)

/-- A text whose document lists some findings. -/
def Presents (Lists : Document → List Document → Prop) (report : String) (l : List Document) :
    Prop :=
  ∃ d, Document.parse? report.toList = some d ∧ Lists d l

/-- How a reader takes lists of findings that are made from others.  A job without a verdict counts
as passed. -/
structure Reader.Composes (r : Reader) (Lists : Document → List Document → Prop) : Prop where
  /-- Of two lists, one behind the other, comes what comes of each. -/
  append : ∀ {report report₁ report₂ l₁ l₂ o₁ o₂}, Presents Lists report₁ l₁ →
    Presents Lists report₂ l₂ → Presents Lists report (l₁ ++ l₂) → r.read? report₁ = some o₁ →
    r.read? report₂ = some o₂ → ∃ o, r.read? report = some o ∧ o.issues = o₁.issues ++ o₂.issues ∧
      o.verdict.getD .passed =
        Verdict.combine [o₁.verdict.getD .passed, o₂.verdict.getD .passed]
  /-- Findings that are added anywhere do not turn a failure into anything else. -/
  more : ∀ {report report' l l' o o'}, Presents Lists report l → Presents Lists report' l' →
    l.Sublist l' → r.read? report = some o → r.read? report' = some o' →
    o.verdict = some .failed → o'.verdict = some .failed
  /-- The verdict does not depend on the order of the findings. -/
  order : ∀ {report report' l l' o}, Presents Lists report l → Presents Lists report' l' →
    l.Perm l' → r.read? report = some o → ∃ o', r.read? report' = some o' ∧ o'.verdict = o.verdict

namespace Reader.SumsUp

variable {α : Type} {r : Reader} {Lists : Document → List Document → Prop}
  {finding? : Document → Option α} {issues : α → List Issue} {fails : α → Bool}
  {undecided : Option Verdict} {report report' : String} {l l' : List Document} {o : Outcome}

/-- From what a text comes to, one has its findings. -/
theorem exists_found (h : r.SumsUp Lists finding? issues fails undecided)
    (hl : Presents Lists report l) (ho : r.read? report = some o) :
    ∃ found, l.mapM finding? = some found ∧ o.issues = found.flatMap issues ∧
      o.verdict = if found.any fails then some .failed else undecided := by
  obtain ⟨d, hd, hl⟩ := hl
  have hsum := h hd hl
  rw [ho, Option.map_some, eq_comm, Option.map_eq_some_iff] at hsum
  obtain ⟨found, hfound, heq⟩ := hsum
  exact ⟨found, hfound, (congrArg Prod.fst heq).symm, (congrArg Prod.snd heq).symm⟩

/-- From its findings, one has what a text comes to. -/
theorem exists_outcome (h : r.SumsUp Lists finding? issues fails undecided)
    (hl : Presents Lists report l) (found : List α) (hfound : l.mapM finding? = some found) :
    ∃ o, r.read? report = some o ∧ o.issues = found.flatMap issues ∧
      o.verdict = if found.any fails then some .failed else undecided := by
  obtain ⟨d, hd, hl⟩ := hl
  have hsum := h hd hl
  rw [hfound, Option.map_some, Option.map_eq_some_iff] at hsum
  obtain ⟨o, ho, heq⟩ := hsum
  exact ⟨o, ho, congrArg Prod.fst heq, congrArg Prod.snd heq⟩

/-- **A reader that sums up composes.** -/
theorem composes (h : r.SumsUp Lists finding? issues fails undecided)
    (hundecided : undecided = none ∨ undecided = some .passed) : r.Composes Lists where
  append hl₁ hl₂ hl ho₁ ho₂ := by
    obtain ⟨found₁, hfound₁, hissues₁, hverdict₁⟩ := h.exists_found hl₁ ho₁
    obtain ⟨found₂, hfound₂, hissues₂, hverdict₂⟩ := h.exists_found hl₂ ho₂
    obtain ⟨o, ho, hissues, hverdict⟩ := h.exists_outcome hl (found₁ ++ found₂)
      (by rw [List.mapM_append, hfound₁, hfound₂]; rfl)
    refine ⟨o, ho, by rw [hissues, hissues₁, hissues₂, List.flatMap_append], ?_⟩
    rw [hverdict, hverdict₁, hverdict₂, List.any_append]
    cases found₁.any fails <;> cases found₂.any fails <;>
      rcases hundecided with rfl | rfl <;> decide
  more hl hl' hsub ho ho' hfailed := by
    obtain ⟨found, hfound, -, hverdict⟩ := h.exists_found hl ho
    obtain ⟨found', hfound', -, hverdict'⟩ := h.exists_found hl' ho'
    have hany : found.any fails = true := by
      by_contra hnone
      rw [if_neg hnone] at hverdict
      rcases hundecided with rfl | rfl <;> cases hfailed.symm.trans hverdict
    obtain ⟨x, hx, hfails⟩ := (any_of_mapM hfound fails).mp hany
    rw [hverdict', if_pos ((any_of_mapM hfound' fails).mpr ⟨x, hsub.subset hx, hfails⟩)]
  order hl hl' hperm ho := by
    obtain ⟨found, hfound, -, hverdict⟩ := h.exists_found hl ho
    obtain ⟨found', hfound'⟩ := exists_mapM_iff.mpr fun x hx =>
      exists_mapM_iff.mp ⟨found, hfound⟩ x (hperm.mem_iff.mpr hx)
    obtain ⟨o', ho', -, hverdict'⟩ := h.exists_outcome hl' found' hfound'
    have hany : found'.any fails = found.any fails := by
      rw [Bool.eq_iff_iff, any_of_mapM hfound', any_of_mapM hfound]
      simp only [hperm.mem_iff]
    exact ⟨o', ho', by rw [hverdict', hverdict, hany]⟩

end Reader.SumsUp

/-! ## Documents that list findings -/

/-- How some findings may stand in a place: as a list, or, if there are none, not at all; then the
place may also hold `null` if that is allowed. -/
def IsListed (nullable : Bool) (place : Option Document) (l : List Document) : Prop :=
  place = some (.array l) ∨ l = [] ∧ (place = none ∨ nullable = true ∧ place = some .null)

namespace IsListed

variable {α : Type} [FromJson α] {nullable : Bool} {place : Option Document} {l : List Document}
  {levels : Nat}

theorem elim_eq (h : IsListed false place l) :
    place.elim (some []) (read? (levels + 1)) = (l.mapM (read? levels) : Option (List α)) := by
  rcases h with rfl | ⟨rfl, rfl | ⟨h, -⟩⟩
  · rfl
  · rfl
  · cases h

theorem elim_optional_eq (h : IsListed nullable place l) :
    (place.elim (some none) (read? (levels + 1))).map (fun as? => as?.getD []) =
      (l.mapM (read? levels) : Option (List α)) := by
  rcases h with rfl | ⟨rfl, rfl | ⟨-, rfl⟩⟩
  · rw [Option.elim_some, read?_optional (by simp), Option.map_map]
    exact Option.map_id'
  · rfl
  · rfl

end IsListed

theorem exists_isListed_of_elim {α : Type} [FromJson α] {place : Option Document} {levels : Nat}
    {as : List α} (h : place.elim (some []) (read? levels) = some as) :
    ∃ l, IsListed false place l := by
  cases place with
  | none => exact ⟨[], .inr ⟨rfl, .inl rfl⟩⟩
  | some d =>
    cases d with
    | array l => exact ⟨l, .inl rfl⟩
    | _ => cases levels <;> cases h

theorem exists_isListed_of_elim_optional {α : Type} [FromJson α] {place : Option Document}
    {levels : Nat} {as? : Option (List α)} (h : place.elim (some none) (read? levels) = some as?) :
    ∃ l, IsListed true place l := by
  cases place with
  | none => exact ⟨[], .inr ⟨rfl, .inl rfl⟩⟩
  | some d =>
    by_cases hnull : d = .null
    · exact ⟨[], .inr ⟨rfl, .inr ⟨rfl, congrArg some hnull⟩⟩⟩
    · rw [Option.elim_some, read?_optional hnull] at h
      obtain ⟨as, has, -⟩ := Option.map_eq_some_iff.mp h
      cases d with
      | array l => exact ⟨l, .inl rfl⟩
      | _ => cases levels <;> cases has

namespace Layout

/-- A document lists some findings and no internal errors.  What else it says, in which form, does
not matter. -/
structure Lists (L : Layout) (nullable : Bool) (d : Document) (l : List Document) : Prop where
  /-- It is a record. -/
  record : ∃ r, Record.ofDocument? L.members nestingLimit d = some r
  /-- In the place of findings are these. -/
  findings : IsListed nullable (d.member? L.members L.findings) l
  /-- What stands in the place of errors, if anything does, is a value that says that there are
  none. -/
  errors : ∀ x, d.member? L.members L.errors = some x →
    ∃ v, x.toJson? (nestingLimit - 1) = some v ∧ reportsErrors (some v) = false

section

variable {β Report : Type} [FromJson β] {L : Layout} {default : β}
  {mk : β → Option Json → Report} {nullable : Bool} {d : Document} {l : List Document}

/-- Of a document that lists findings, only the findings matter. -/
theorem Lists.read?_eq (h : L.Lists nullable d l) (default : β) (mk : β → Option Json → Report) :
    ∃ errors, reportsErrors errors = false ∧ L.read? default mk nestingLimit d =
      ((d.member? L.members L.findings).elim (some default)
        (FromJson.read? (nestingLimit - 1))).map (mk · errors) := by
  obtain ⟨r, hr⟩ := h.record
  have herrors : ∃ errors, reportsErrors errors = false ∧
      (d.member? L.members L.errors).elim (some none) (FromJson.read? (nestingLimit - 1)) =
        some errors := by
    cases hplace : d.member? L.members L.errors with
    | none => exact ⟨none, rfl, rfl⟩
    | some x =>
      obtain ⟨v, hv, hnone⟩ := h.errors x hplace
      by_cases hnull : x = .null
      · exact ⟨none, rfl, by rw [hnull]; rfl⟩
      · exact ⟨some v, hnone, by rw [Option.elim_some, read?_optional hnull]; exact congrArg _ hv⟩
  obtain ⟨errors, hnone, herrors⟩ := herrors
  exact ⟨errors, hnone, read?_of_errors hr herrors⟩

/-- A document that is read without internal errors lists what is in the place of findings. -/
theorem exists_lists_of_read? {report : Report}
    (hread : L.read? default mk nestingLimit d = some report) :
    ∃ found errors, report = mk found errors ∧
      (d.member? L.members L.findings).elim (some default)
        (FromJson.read? (nestingLimit - 1)) = some found ∧
      ∀ l, reportsErrors errors = false →
        IsListed nullable (d.member? L.members L.findings) l → L.Lists nullable d l := by
  obtain ⟨r, hr, -⟩ := Option.bind_eq_some_iff.mp hread
  obtain ⟨found, hfound, h⟩ := Option.bind_eq_some_iff.mp ((Layout.read?_eq hr).symm.trans hread)
  obtain ⟨errors, herrors, rfl⟩ := Option.map_eq_some_iff.mp h
  refine ⟨found, errors, rfl, hfound, fun l hnone hl => ⟨⟨r, hr⟩, hl, fun x hx => ?_⟩⟩
  rw [hx] at herrors
  by_cases hnull : x = .null
  · subst hnull
    exact ⟨.null, rfl, rfl⟩
  · rw [Option.elim_some, read?_optional hnull] at herrors
    obtain ⟨v, hv, rfl⟩ := Option.map_eq_some_iff.mp herrors
    exact ⟨v, hv, hnone⟩

end

end Layout

/-! ## Readers of reports of one layout -/

section Readers

variable {α β Report : Type} [FromJson α] [FromJson β] [FromJson Report] {r : Reader} {L : Layout}
  {nullable : Bool} {default : β} {mk : β → Option Json → Report} {outcome : Report → Outcome}
  {found : β → List α} {issues : α → List Issue} {fails : α → Bool}

/-- A reader of reports of one layout sums up if its judgement of a report does. -/
theorem sumsUp_of_layout
    (hr : ∀ report, r.read? report = (FromJson.ofText? report).map outcome)
    (hreport : ∀ d, read? nestingLimit d = L.read? default mk nestingLimit d)
    (hfound : ∀ place l, IsListed nullable place l →
      (place.elim (some default) (read? (nestingLimit - 1))).map found =
        (l.mapM (read? (nestingLimit - 2)) : Option (List α)))
    (houtcome : ∀ b errors, reportsErrors errors = false →
      (outcome (mk b errors)).issues = (found b).flatMap issues ∧
      (outcome (mk b errors)).verdict =
        if (found b).any fails then some .failed else some .passed) :
    r.SumsUp (L.Lists nullable) (read? (nestingLimit - 2)) issues fails (some .passed) := by
  intro report d l hd hl
  obtain ⟨errors, hnone, hread⟩ := hl.read?_eq default mk
  rw [Reader.read?_eq hr hd, hreport, hread, ← hfound _ l hl.findings]
  simp only [Option.map_map]
  refine Option.map_congr fun b _ => ?_
  obtain ⟨hissues, hverdict⟩ := houtcome b errors hnone
  rw [Function.comp_apply, Function.comp_apply, hissues, hverdict]
  rfl

/-- What a reader of reports of one layout takes, and does not find in error, lists findings. -/
theorem exists_presents_of_layout
    (hr : ∀ report, r.read? report = (FromJson.ofText? report).map outcome)
    (hreport : ∀ d, read? nestingLimit d = L.read? default mk nestingLimit d)
    (hlisted : ∀ place b, place.elim (some default) (read? (nestingLimit - 1)) = some b →
      ∃ l, IsListed nullable place l)
    (herror : ∀ b errors, reportsErrors errors = true →
      (outcome (mk b errors)).verdict = some .error)
    {report : String} {o : Outcome} (ho : r.read? report = some o) (hv : o.verdict ≠ some .error) :
    ∃ l, Presents (L.Lists nullable) report l := by
  obtain ⟨d, htakes⟩ := Reader.exists_takes hr ho
  obtain ⟨rep, hrep, rfl⟩ := htakes.exists_report hr
  rw [hreport] at hrep
  obtain ⟨b, errors, rfl, hb, hlists⟩ := Layout.exists_lists_of_read? hrep
  obtain ⟨l, hl⟩ := hlisted _ b hb
  have hnone : reportsErrors errors = false :=
    Bool.eq_false_iff.mpr fun h => hv (herror b errors h)
  exact ⟨l, d, htakes.parse, hlists l hnone hl⟩

end Readers

end Report
end ScanService
