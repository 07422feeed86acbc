import ScanService.Proofs.Json.Nesting
import ScanService.Proofs.Report.Formats

/-!
# The two formats of Safety agree

Safety writes an advisory either as a row, in which everything has its place, or as an object, in
which everything has its name and may be left out.  What is made of a report does not depend on which
of the two was written.  This holds of reports that are refused as well: an identifier that is no value
spoils both.

In an object, an identifier stands a level deeper than in a row.  The formats agree on those that are
not nested too deep for objects.

## What is here

* `Advisory`, `Advisory.row`, `Advisory.IsObject` — an advisory, and what it is written as.
* `Advisory.finding?`, `Advisory.read_row`, `Advisory.IsObject.read_eq` — what is made of an advisory
  is what is read in either format.
* `Advisory.outcome?`, `Advisory.read?_rows`, `Advisory.read?_objects` — the same for reports.
* `safety_formats_agree` — **both formats come to the same**: to a failure that lists the advisories
  in order, to no verdict if there are none, and to nothing if an identifier is no value.
* `reserved_identifier_refused` — not every object is a value.
-/

namespace ScanService
namespace Report

open Json (Document)
open FromJson (read?)

/-! ## Advisories -/

/-- What Safety says of a dependency: four texts and an identifier, which may be left out. -/
structure Advisory where
  /-- The package. -/
  dependency : String
  /-- The affected versions. -/
  below : String
  /-- The installed version. -/
  version : String
  /-- What is wrong with it. -/
  comment : String
  /-- The identifier. -/
  id : Option Document

namespace Advisory

variable {a : Advisory} {as : List Advisory} {x : Document} {l : List Document}

/-- The identifier in a row, where nothing can be left out. -/
def identifier (a : Advisory) : Document := a.id.getD .null

/-- An advisory as a row. -/
def row (a : Advisory) : Document :=
  .array [.text (some a.dependency), .text (some a.below), .text (some a.version),
    .text (some a.comment), a.identifier]

/-- What an advisory says if its identifier has a value. -/
def finding (a : Advisory) (value : Json) : SafetyIssue :=
  ⟨a.dependency, a.below, a.version, a.comment, value⟩

/-- What is made of an advisory. -/
def finding? (a : Advisory) : Option SafetyIssue := a.identifier.value?.map a.finding

/-- What stands in a place says a text; where nothing stands, that is the empty text. -/
def Says (place : Option Document) (s : String) : Prop :=
  place = some (.text (some s)) ∨ place = none ∧ s = ""

/-- An object that says what an advisory says, and in which everything else can be read.  Nothing is
asked of the order of its members. -/
structure IsObject (a : Advisory) (x : Document) : Prop where
  /-- Every key has a value, and no member is there twice. -/
  record : ∃ r, Record.ofDocument? SafetyIssue.members (nestingLimit - 2) x = some r
  dependency : Says (x.member? SafetyIssue.members "Dependency") a.dependency
  below : Says (x.member? SafetyIssue.members "Below") a.below
  version : Says (x.member? SafetyIssue.members "Version") a.version
  comment : Says (x.member? SafetyIssue.members "Comment") a.comment
  id : x.member? SafetyIssue.members "ID" = a.id
  /-- There may be further members, or other ones under these names. -/
  beside : ∃ entries, x = .object entries ∧
    ∀ e ∈ entries, some e.2 = a.id ∨ e.2.isReadable (nestingLimit - 3) = true

/-- The object that Safety writes. -/
def object (a : Advisory) : Document :=
  .object <| [(some "Dependency", .text (some a.dependency)), (some "Below", .text (some a.below)),
    (some "Version", .text (some a.version)), (some "Comment", .text (some a.comment))] ++
    a.id.toList.map fun id => (some "ID", id)

theorem isObject_object (a : Advisory) : a.IsObject a.object := by
  obtain ⟨dependency, below, version, comment, id⟩ := a
  cases id <;> exact ⟨⟨_, rfl⟩, .inl rfl, .inl rfl, .inl rfl, .inl rfl, rfl, _, rfl,
    by simp [Document.isReadable]⟩

/-! ## Rows -/

/-- What is made of a row is what is made of its advisory. -/
theorem read_row (hdepth : a.identifier.depth + 3 ≤ nestingLimit) :
    (if a.row.isReadable (nestingLimit - 1) then SafetyIssue.ofRow? (nestingLimit - 1) a.row
      else none) = a.finding? := by
  have hvalue : a.identifier.toJson? (nestingLimit - 2) = a.identifier.value? :=
    Document.toJson?_congr (by omega) (by omega)
  have hread : SafetyIssue.ofRow? (nestingLimit - 1) a.row = a.finding? := by
    rw [finding?, ← hvalue, Option.map_eq_bind]
    rfl
  rw [hread]
  cases hv : a.identifier.value? with
  | none => rw [finding?, hv, Option.map_none, ite_self]
  | some v =>
    have hid : a.identifier.isReadable (nestingLimit - 2) = true :=
      Document.isReadable_of_toJson? (hvalue.trans hv)
    refine if_pos ?_
    rw [row, Document.isReadable, itemsReadable_eq]
    refine Bool.and_eq_true_iff.mpr ⟨rfl, ?_⟩
    simp only [List.all_cons, List.all_nil, Document.isReadable, Option.isSome_some, Bool.true_and,
      Bool.and_true]
    exact hid

/-! ## Objects -/

/-- A text is read as its place says it. -/
theorem Says.orElse_eq {members : List Member} {levels : Nat} {r : Record} {name s : String}
    (h : Says (x.member? members name) s) (hr : Record.ofDocument? members levels x = some r) :
    r.orElse name "" = some s := by
  rw [Record.orElse_eq hr]
  rcases h with h | ⟨h, rfl⟩ <;> rw [h] <;> rfl

namespace IsObject

/-- What is read from an object is what is made of its advisory. -/
theorem read?_eq (h : a.IsObject x) (hdepth : a.identifier.depth + 3 ≤ nestingLimit) :
    (read? (nestingLimit - 2) x : Option SafetyIssue) = a.finding? := by
  obtain ⟨r, hr⟩ := h.record
  have hlevels : r.levels = nestingLimit - 3 :=
    (Nat.succ.inj (Record.levels_of_ofDocument? hr)).symm
  have hid : (r.orElse "ID" .null : Option Json) = a.identifier.value? := by
    rw [Record.orElse_eq hr, h.id, hlevels, identifier]
    cases hsome : a.id with
    | none => rfl
    | some id =>
      rw [identifier, hsome, Option.getD_some] at hdepth
      exact Document.toJson?_congr (by omega) (by omega)
  simp only [read?, hr, h.dependency.orElse_eq hr, h.below.orElse_eq hr, h.version.orElse_eq hr,
    h.comment.orElse_eq hr, Option.bind_eq_bind, Option.bind_some]
  rw [hid, finding?, Option.map_eq_bind]
  rfl

/-- Everything in an object can be read if the identifier can. -/
theorem isReadable (h : a.IsObject x)
    (hid : a.identifier.isReadable (nestingLimit - 3) = true) :
    x.isReadable (nestingLimit - 2) = true := by
  obtain ⟨r, hr⟩ := h.record
  obtain ⟨entries, rfl, hbeside⟩ := h.beside
  have hkeys := Record.keys_of_ofDocument? hr
  change Document.entriesReadable (nestingLimit - 3) entries = true
  rw [entriesReadable_eq, List.all_eq_true]
  intro e he
  refine Bool.and_eq_true_iff.mpr ⟨List.all_eq_true.mp hkeys e he, ?_⟩
  rcases hbeside e he with hsome | hreadable
  · rwa [identifier, ← hsome, Option.getD_some] at hid
  · exact hreadable

/-- What is made of an object is what is made of its advisory. -/
theorem read_eq (h : a.IsObject x) (hdepth : a.identifier.depth + 3 ≤ nestingLimit) :
    (if x.isReadable (nestingLimit - 2) then read? (nestingLimit - 2) x else none) =
      a.finding? := by
  rw [h.read?_eq hdepth]
  cases hv : a.identifier.value? with
  | none => rw [finding?, hv, Option.map_none, ite_self]
  | some v =>
    have hvalue : a.identifier.toJson? (nestingLimit - 3) = some v :=
      (Document.toJson?_congr (by omega) (by omega)).trans hv
    exact if_pos (h.isReadable (Document.isReadable_of_toJson? hvalue))

end IsObject

/-! ## Reports -/

/-- What is made of some advisories: a failure that lists them, but no verdict if there are none. -/
def outcome? (as : List Advisory) : Option Outcome :=
  (as.mapM finding?).map fun found =>
    if found.isEmpty then ⟨none, some noIssues, [], []⟩
    else .judged .failed (found.map SafetyIssue.toIssue)

/-- What corresponds to advisories one by one comes to what is made of them. -/
theorem mapM_eq_of_forall₂ {read : Document → Option SafetyIssue}
    (h : List.Forall₂ (fun a x => read x = a.finding?) as l) : l.mapM read = as.mapM finding? := by
  induction h with
  | nil => rfl
  | cons hhead _ ih => rw [List.mapM_cons, List.mapM_cons, hhead, ih]

variable {report : String}

/-- What comes of a list of rows is what is made of the advisories. -/
theorem read?_rows (hdepth : ∀ a ∈ as, a.identifier.depth + 3 ≤ nestingLimit)
    (hrows : Presents (fun d l => d = .array l) report (as.map row)) :
    safety.read? report = outcome? as := by
  obtain ⟨d, hd, rfl⟩ := hrows
  rw [SafetyReport.read?_rows hd, mapM_eq_of_forall₂ (List.forall₂_map_right_iff.mpr
    (List.forall₂_same.mpr fun a ha => read_row (hdepth a ha))), outcome?]
  exact Option.map_congr fun found _ => SafetyReport.outcome_of_no_errors found rfl

/-- What comes of an object around objects is what is made of the advisories. -/
theorem read?_objects (hdepth : ∀ a ∈ as, a.identifier.depth + 3 ≤ nestingLimit)
    (hwrapped : Presents SafetyReport.IsObject report l) (hobjects : List.Forall₂ IsObject as l) :
    safety.read? report = outcome? as := by
  obtain ⟨d, hd, hobject⟩ := hwrapped
  obtain ⟨errors, hnone, hread⟩ := SafetyReport.read?_objects hd hobject
  have hfound := (List.forall₂_and_left as l).mpr ⟨hdepth, hobjects⟩
  rw [hread, mapM_eq_of_forall₂ (hfound.imp fun _ _ h => h.2.read_eq h.1), outcome?]
  exact Option.map_congr fun found _ => SafetyReport.outcome_of_no_errors found hnone

/-- An identifier without a value spoils all. -/
theorem outcome?_eq_none (ha : a ∈ as) (hnone : a.identifier.value? = none) :
    outcome? as = none := by
  have hfound : as.mapM finding? = none := by
    induction as with
    | nil => cases ha
    | cons b rest ih =>
      rw [List.mapM_cons]
      rcases List.mem_cons.mp ha with rfl | hrest
      · rw [finding?, hnone]
        rfl
      · rw [ih hrest]
        cases b.finding? <;> rfl
  rw [outcome?, hfound, Option.map_none]

/-- With all identifiers, one has what is made of the advisories. -/
theorem outcome?_eq_some {values : List Json}
    (h : List.Forall₂ (fun a v => a.identifier.value? = some v) as values) :
    outcome? as = some ⟨if as.isEmpty then none else some .failed,
      if as.isEmpty then some noIssues else none,
      (List.zipWith finding as values).map SafetyIssue.toIssue, []⟩ := by
  have hfound : as.mapM finding? = some (List.zipWith finding as values) := by
    induction h with
    | nil => rfl
    | cons hhead _ ih => rw [List.mapM_cons, finding?, hhead, ih]; rfl
  rw [outcome?, hfound]
  cases h <;> rfl

end Advisory

/-- The object that Safety writes around its issues, with either of the two keys, and with errors
only if it says of them that there are none. -/
theorem SafetyReport.isObject_object {key : String} (hkey : key = "SafetyIssues" ∨ key = "issues")
    (l : List Document) {errors : Option Document}
    (hnone : ∀ x ∈ errors, x = .null ∨ x = .text (some "") ∨ x = .array [] ∨ x = .object []) :
    SafetyReport.IsObject
      (.object ((some key, .array l) :: errors.toList.map fun x => (some "errors", x))) l := by
  have hvalue : ∀ x ∈ errors, x.isReadable (nestingLimit - 1) = true ∧
      ∃ v, x.toJson? (nestingLimit - 1) = some v ∧ reportsErrors (some v) = false := by
    intro x hx
    rcases hnone x hx with rfl | rfl | rfl | rfl <;> exact ⟨rfl, _, rfl, rfl⟩
  cases errors with
  | none =>
    rcases hkey with rfl | rfl <;>
      exact ⟨⟨⟨_, rfl⟩, .inl rfl, fun _ h => nomatch h⟩, _, rfl, by simp⟩
  | some x =>
    obtain ⟨hreadable, hvalue⟩ := hvalue x rfl
    rcases hkey with rfl | rfl <;>
      exact ⟨⟨⟨_, rfl⟩, .inl rfl, fun _ h => Option.some.inj h ▸ hvalue⟩, _, rfl,
        by simp [hreadable]⟩

/-- **Safety's two formats agree.**  A list of rows and an object around objects, in whichever order
their members stand, come to the same if they hold the same advisories in the same order; a left out
identifier acts as `null`, and a left out text as the empty one.  If an identifier is not read as a
value, both are refused.  Otherwise they fail the job if there is an advisory, and leave it without
a verdict if there is none; the issues are told by the advisories, in order.  An identifier in which
everything has a value is read as one if no object in it begins with the key that is reserved for
embedded texts. -/
theorem safety_formats_agree {as : List Advisory} {l : List Document} {rows wrapped : String}
    (hdepth : ∀ a ∈ as, a.identifier.depth + 3 ≤ nestingLimit)
    (hrows : Presents (fun d l => d = .array l) rows (as.map Advisory.row))
    (hwrapped : Presents SafetyReport.IsObject wrapped l)
    (hobjects : List.Forall₂ Advisory.IsObject as l) :
    safety.read? wrapped = safety.read? rows ∧
    ((∃ a ∈ as, a.identifier.value? = none) → safety.read? rows = none) ∧
    (∀ values, List.Forall₂ (fun a v => a.identifier.value? = some v) as values →
      safety.read? rows = some ⟨if as.isEmpty then none else some .failed,
        if as.isEmpty then some noIssues else none,
        (List.zipWith Advisory.finding as values).map SafetyIssue.toIssue, []⟩) ∧
    ∀ a ∈ as, a.identifier.isReadable nestingLimit = true → a.identifier.isPlain = true →
      ∃ v, a.identifier.value? = some v := by
  have hread := Advisory.read?_rows hdepth hrows
  refine ⟨?_, ?_, ?_, fun a _ => Document.exists_toJson?⟩
  · rw [hread, Advisory.read?_objects hdepth hwrapped hobjects]
  · rintro ⟨a, ha, hnone⟩
    rw [hread, Advisory.outcome?_eq_none ha hnone]
  · intro values hvalues
    rw [hread, Advisory.outcome?_eq_some hvalues]

set_option maxRecDepth 1000 in
/-- Two advisories in both formats.  The first object lacks an identifier; in the second one the
members stand in another order, and a text is left out. -/
theorem safety_formats_agree_sample : ∃ o,
    safety.read? "[[\"a\",\"<2\",\"1\",\"x\",null],[\"b\",\"\",\"2\",\"y\",[7]]]" = some o ∧
    safety.read? ("\x7b\"issues\":[" ++
      "\x7b\"Dependency\":\"a\",\"Below\":\"<2\",\"Version\":\"1\",\"Comment\":\"x\"\x7d," ++
      "\x7b\"ID\":[7],\"Comment\":\"y\",\"Version\":\"2\",\"Dependency\":\"b\"\x7d]\x7d") = some o ∧
    o.verdict = some .failed ∧ o.output = none ∧
    o.issues.map (·.title) = ["a", "b ([7])"] ∧ o.issues.map (·.details) = ["x", "y"] := by
  let a : Advisory := ⟨"a", "<2", "1", "x", none⟩
  let b : Advisory := ⟨"b", "", "2", "y", some (.array [.number (some (.whole 7))])⟩
  let y : Document := .object [(some "ID", .array [.number (some (.whole 7))]),
    (some "Comment", .text (some "y")), (some "Version", .text (some "2")),
    (some "Dependency", .text (some "b"))]
  have hrows : Document.parse?
      "[[\"a\",\"<2\",\"1\",\"x\",null],[\"b\",\"\",\"2\",\"y\",[7]]]".toList =
      some (.array ([a, b].map Advisory.row)) := rfl
  have hwrapped : Document.parse? ("\x7b\"issues\":[" ++
      "\x7b\"Dependency\":\"a\",\"Below\":\"<2\",\"Version\":\"1\",\"Comment\":\"x\"\x7d," ++
      "\x7b\"ID\":[7],\"Comment\":\"y\",\"Version\":\"2\",\"Dependency\":\"b\"\x7d]\x7d").toList =
      some (.object [(some "issues", .array [a.object, y])]) := by
    rw [String.toList_append, String.toList_append]
    rfl
  have hobject := SafetyReport.isObject_object (.inr rfl : "issues" = _ ∨ _) [a.object, y]
    (fun _ h => nomatch h : ∀ x ∈ (none : Option Document), _)
  have hy : b.IsObject y := ⟨⟨_, rfl⟩, .inl rfl, .inr ⟨rfl, rfl⟩, .inl rfl, .inl rfl, rfl, _, rfl,
    by simp [Document.isReadable, b]⟩
  obtain ⟨hsame, -, hread, -⟩ := safety_formats_agree (by decide) ⟨_, hrows, rfl⟩
    ⟨_, hwrapped, hobject⟩ (.cons a.isObject_object (.cons hy .nil))
  have hvalues := hread [.null, .array [.whole 7]] (.cons rfl (.cons rfl .nil))
  exact ⟨_, hvalues, hsame.trans hvalues, rfl, rfl, rfl, rfl⟩

/-- An object that begins with the reserved key is no value unless it holds the text of one.  With
such an identifier, a report with a row is refused. -/
theorem reserved_identifier_refused : ∃ (report : String) (a : Advisory) (v : Json),
    a.id = some (.ofJson v) ∧ a.identifier.depth < 100 ∧
    Presents (fun d l => d = .array l) report [a.row] ∧ safety.read? report = none := by
  let v : Json := .object [(Document.embeddingKey, .whole 5)]
  let a : Advisory := ⟨"django", "<2", "1", "x", some (.ofJson v)⟩
  have hparse : Document.parse?
      "[[\"django\",\"<2\",\"1\",\"x\",\x7b\"$serde_json::private::RawValue\":5\x7d]]".toList =
      some (.array [a.row]) := rfl
  exact ⟨_, a, v, rfl, by decide, ⟨_, hparse, rfl⟩,
    (Reader.read?_eq (fun _ => rfl) hparse).trans rfl⟩

end Report
end ScanService
