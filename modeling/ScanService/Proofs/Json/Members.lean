import Mathlib.Data.List.Forall2
import ScanService.Json.Read

/-!
# What a document has for the members of a record

A record is read from an object or from an array, its members have several names, and they are read
only so deep.  None of this matters for what a record says of its document: there is at most one
place in the document for each member, and the member is what stands there.  This file names that
place without reading the record, so that statements about a record can be made about the document.

## What is here

* `Document.member?` — what stands in a document for a member of a record.
* `Document.saidText`, `Document.saidText?`, `Document.listed`, `Document.value?` — what it says, if
  it is a text, a list or any value.
* `Record.document?_slot` — **the members of a record are what stands for them in its document**,
  and `Record.orElse_eq`, `Record.elim_of_optional` for the two kinds of members.
* `Document.toJson?_mono` — where more nesting is allowed, no value is read otherwise.
-/

namespace ScanService

open Json (Document)
open FromJson (read?)

/-! ## Places in a document -/

namespace Json.Document

/-- What stands in a record's document for a member: the entry under one of the member's names, or
the item in the member's place. -/
def member? (members : List Member) (name : String) : Document → Option Document
  | object entries => (members.find? (·.name == name)).bind fun m =>
      (entries.find? fun e => e.1.any m.isNamed).map (·.2)
  | array items => items[members.findIdx (·.name == name)]?
  | _ => none

/-- The text that stands in a place; none if there is no text. -/
def saidText? : Option Document → Option String
  | some (text s) => s
  | _ => none

/-- The text that stands in a place; empty if there is no text. -/
def saidText (place : Option Document) : String := (saidText? place).getD ""

/-- The items of the list that stands in a place; none if there is no list. -/
def listed : Option Document → List Document
  | some (array items) => items
  | _ => []

/-- The value of a document that is nested no deeper than a text may be. -/
def value? (d : Document) : Option Json := d.toJson? nestingLimit

/-! ## Deeper nesting -/

mutual

theorem valueWith?_mono {embedded : String → Option Json} {levels more : Nat}
    (hle : levels ≤ more) (d : Document) {v : Json} (h : valueWith? embedded levels d = some v) :
    valueWith? embedded more d = some v := by
  match d with
  | null | bool _ | number _ | text _ => exact h
  | broken => cases h
  | array items =>
    rw [valueWith?] at h ⊢
    split at h
    · cases h
    · obtain ⟨vs, hvs, rfl⟩ := Option.map_eq_some_iff.mp h
      rw [if_neg (by omega), itemsWith?_mono (by omega) items hvs, Option.map_some]
  | object entries =>
    rw [valueWith?] at h ⊢
    split at h
    · cases h
    · rw [if_neg (by omega)]
      split at h
      · next hembedding => rw [if_pos hembedding, h]
      · next hembedding =>
        obtain ⟨vs, hvs, rfl⟩ := Option.map_eq_some_iff.mp h
        rw [if_neg hembedding, entriesWith?_mono (by omega) entries hvs, Option.map_some]

theorem itemsWith?_mono {embedded : String → Option Json} {levels more : Nat}
    (hle : levels ≤ more) (items : List Document) {vs : List Json}
    (h : itemsWith? embedded levels items = some vs) :
    itemsWith? embedded more items = some vs := by
  match items with
  | [] => exact h
  | d :: rest =>
    rw [itemsWith?] at h ⊢
    split at h
    · cases h
    · next v hv =>
      obtain ⟨ws, hws, rfl⟩ := Option.map_eq_some_iff.mp h
      rw [valueWith?_mono hle d hv, itemsWith?_mono hle rest hws]
      rfl

theorem entriesWith?_mono {embedded : String → Option Json} {levels more : Nat}
    (hle : levels ≤ more) (entries : List (Option String × Document))
    {done read : List (String × Json)}
    (h : entriesWith? embedded levels entries done = some read) :
    entriesWith? embedded more entries done = some read := by
  match entries with
  | [] => exact h
  | (none, _) :: _ => cases h
  | (some key, d) :: rest =>
    rw [entriesWith?] at h ⊢
    split at h
    · cases h
    · next v hv =>
      rw [valueWith?_mono hle d hv]
      exact entriesWith?_mono hle rest h

end

/-- **Where more nesting is allowed, no value is read otherwise.** -/
theorem toJson?_mono {levels more : Nat} (hle : levels ≤ more) {d : Document} {v : Json}
    (h : d.toJson? levels = some v) : d.toJson? more = some v :=
  valueWith?_mono hle d h

end Json.Document

open Json.Document (saidText? saidText listed)

/-! ## Reading what stands in a place -/

section Places

variable {α : Type} [FromJson α] {levels : Nat} {place : Option Document}

/-- What is not `null` is read as a value that is there. -/
theorem read?_optional {d : Document} (hd : d ≠ .null) :
    (read? levels d : Option (Option α)) = (read? levels d).map some := by
  cases d <;> first | exact absurd rfl hd | rfl

theorem saidText_of_elim {s : String}
    (h : place.elim (some "") (read? levels) = some s) : saidText place = s := by
  cases place with
  | none => exact Option.some.inj h
  | some d =>
    cases d with
    | text o =>
      change o = some s at h
      rw [saidText, saidText?, h, Option.getD_some]
    | _ => cases h

/-- A text that is read is what stands in its place. -/
theorem saidText_of_read? {d : Document} {s : String} (h : read? levels d = some s) :
    saidText (some d) = s :=
  saidText_of_elim h

theorem saidText?_of_elim {o : Option String}
    (h : place.elim (some none) (read? levels) = some o) : saidText? place = o := by
  cases place with
  | none => exact Option.some.inj h
  | some d =>
    by_cases hnull : d = .null
    · subst hnull
      exact Option.some.inj h
    · rw [Option.elim_some, read?_optional hnull] at h
      obtain ⟨s, hs, rfl⟩ := Option.map_eq_some_iff.mp h
      cases d with
      | text t => exact hs
      | _ => cases hs

theorem mapM_eq_some_iff {β : Type} {f : Document → Option β} {ds : List Document} {bs : List β} :
    ds.mapM f = some bs ↔ List.Forall₂ (fun d b => f d = some b) ds bs := by
  induction ds generalizing bs with
  | nil =>
    rw [List.mapM_nil, List.forall₂_nil_left_iff]
    exact ⟨fun h => (Option.some.inj h).symm, fun h => h ▸ rfl⟩
  | cons d ds ih =>
    rw [List.mapM_cons, List.forall₂_cons_left_iff]
    constructor
    · intro h
      obtain ⟨b, hb, h⟩ := Option.bind_eq_some_iff.mp h
      obtain ⟨rest, hrest, h⟩ := Option.bind_eq_some_iff.mp h
      exact ⟨b, rest, hb, ih.mp hrest, (Option.some.inj h).symm⟩
    · rintro ⟨b, rest, hb, hrest, rfl⟩
      rw [hb, ih.mpr hrest]
      rfl

/-- A value is read from its place, however deep it may be nested there; `null` stands for none. -/
theorem value?_of_elim {v? : Option Json} (hlevels : levels ≤ nestingLimit)
    (h : place.elim (some none) (read? levels) = some v?) :
    place.bind Document.value? = v? ∨ v? = none ∧ place.bind Document.value? = some .null := by
  cases place with
  | none => exact .inl (Option.some.inj h)
  | some d =>
    by_cases hnull : d = .null
    · subst hnull
      exact .inr ⟨(Option.some.inj h).symm, rfl⟩
    · rw [Option.elim_some, read?_optional hnull] at h
      obtain ⟨v, hv, rfl⟩ := Option.map_eq_some_iff.mp h
      exact .inl (Document.toJson?_mono hlevels hv)

/-- A list is read from its items, one by one. -/
theorem forall₂_listed {as : List α}
    (h : place.elim (some []) (read? levels) = some as) :
    List.Forall₂ (fun d a => read? (levels - 1) d = some a) (listed place) as := by
  cases place with
  | none =>
    cases h
    exact .nil
  | some d =>
    cases d with
    | array items =>
      cases levels with
      | zero => cases h
      | succ levels => exact mapM_eq_some_iff.mp h
    | _ => cases levels <;> cases h

/-- A list may be left out by `null`. -/
theorem forall₂_listed_optional {as? : Option (List α)}
    (h : place.elim (some none) (read? levels) = some as?) :
    List.Forall₂ (fun d a => read? (levels - 1) d = some a) (listed place) (as?.getD []) := by
  cases place with
  | none =>
    cases h
    exact .nil
  | some d =>
    by_cases hnull : d = .null
    · subst hnull
      cases h
      exact .nil
    · rw [Option.elim_some, read?_optional hnull] at h
      obtain ⟨as, has, rfl⟩ := Option.map_eq_some_iff.mp h
      exact forall₂_listed has

end Places

/-! ## Records -/

/-- What there is for a member, if there is something. -/
def Slot.document? : Slot → Option Document
  | given d => some d
  | missing | beyond => none

namespace Record

variable {members : List Member} {levels : Nat} {d : Document} {r : Record}

theorem document?_of_find? {entries : List (Option String × Document)} {m : Member} {s : Slot}
    (h : find? entries m = some s) :
    s.document? = (entries.find? fun e => e.1.any m.isNamed).map (·.2) := by
  rw [← List.head?_filter]
  rw [find?] at h
  split at h
  · next hnone =>
    cases h
    rw [hnone]
    rfl
  · next hone =>
    cases h
    rw [hone]
    rfl
  · cases h

theorem lookup_of_mapM_find? {entries : List (Option String × Document)}
    {slots : List (String × Slot)}
    (h : (members.mapM fun m => (find? entries m).map fun s => (m.name, s)) = some slots)
    (name : String) : ((slots.lookup name).getD .missing).document? =
      (Document.object entries).member? members name := by
  rw [Document.member?]
  induction members generalizing slots with
  | nil =>
    cases h
    rfl
  | cons m members ih =>
    rw [List.mapM_cons] at h
    obtain ⟨_, hslot, h⟩ := Option.bind_eq_some_iff.mp h
    obtain ⟨rest, hrest, h⟩ := Option.bind_eq_some_iff.mp h
    obtain ⟨s, hs, rfl⟩ := Option.map_eq_some_iff.mp hslot
    cases h
    by_cases hname : m.name = name
    · subst hname
      rw [List.lookup_cons_self, List.find?_cons_of_pos (by simp)]
      exact document?_of_find? hs
    · rw [List.lookup_cons, beq_false_of_ne (Ne.symm hname),
        List.find?_cons_of_neg (by simpa using hname)]
      exact ih hrest

theorem lookup_of_distribute {items : List Document} {slots : List (String × Slot)}
    (h : distribute members items = some slots) (name : String) :
    ((slots.lookup name).getD .missing).document? =
      (Document.array items).member? members name := by
  rw [Document.member?]
  induction members generalizing items slots with
  | nil =>
    cases items with
    | nil =>
      cases h
      rfl
    | cons d items => cases h
  | cons m members ih =>
    cases items with
    | nil =>
      obtain ⟨rest, hrest, rfl⟩ := Option.map_eq_some_iff.mp h
      by_cases hname : m.name = name
      · subst hname
        rw [List.lookup_cons_self]
        rfl
      · rw [List.lookup_cons, beq_false_of_ne (Ne.symm hname)]
        exact ih hrest
    | cons d items =>
      obtain ⟨rest, hrest, rfl⟩ := Option.map_eq_some_iff.mp h
      by_cases hname : m.name = name
      · subst hname
        rw [List.lookup_cons_self, List.findIdx_cons, beq_self_eq_true]
        rfl
      · rw [List.lookup_cons, beq_false_of_ne (Ne.symm hname), List.findIdx_cons,
          beq_false_of_ne hname]
        exact ih hrest

/-- **What a record has for a member is what stands for it in the document.** -/
theorem document?_slot (h : ofDocument? members levels d = some r) (name : String) :
    (r.slot name).document? = d.member? members name := by
  cases levels with
  | zero => cases d <;> cases h
  | succ levels =>
    cases d with
    | object entries =>
      rw [ofDocument?] at h
      split at h
      · obtain ⟨slots, hslots, rfl⟩ := Option.map_eq_some_iff.mp h
        exact lookup_of_mapM_find? hslots name
      · cases h
    | array items =>
      obtain ⟨slots, hslots, rfl⟩ := Option.map_eq_some_iff.mp h
      exact lookup_of_distribute hslots name
    | _ => cases h

/-- The members of a record are nested one level less deep than the record. -/
theorem levels_of_ofDocument? (h : ofDocument? members levels d = some r) :
    levels = r.levels + 1 := by
  cases levels with
  | zero => cases d <;> cases h
  | succ levels =>
    cases d with
    | object entries =>
      rw [ofDocument?] at h
      split at h
      · obtain ⟨slots, -, rfl⟩ := Option.map_eq_some_iff.mp h
        rfl
      · cases h
    | array items =>
      obtain ⟨slots, -, rfl⟩ := Option.map_eq_some_iff.mp h
      rfl
    | _ => cases h

/-- In an object that is read as a record, every key has a value. -/
theorem keys_of_ofDocument? {entries : List (Option String × Document)}
    (h : ofDocument? members levels (.object entries) = some r) :
    entries.all (·.1.isSome) = true := by
  cases levels with
  | zero => cases h
  | succ levels =>
    rw [ofDocument?, Option.ite_none_right_eq_some] at h
    exact h.1

variable {α : Type} [FromJson α] {name : String}

/-- A member with a value of its own is read from its place. -/
theorem orElse_eq (h : ofDocument? members levels d = some r) (name : String) (default : α) :
    r.orElse name default = (d.member? members name).elim (some default) (read? r.levels) := by
  rw [orElse, ← document?_slot h]
  cases r.slot name <;> rfl

/-- A member that may be lacking is read from its place. -/
theorem elim_of_optional (h : ofDocument? members levels d = some r) {o : Option α}
    (ho : r.optional name = some o) :
    (d.member? members name).elim (some none) (read? r.levels) = some o := by
  rw [optional] at ho
  rw [← document?_slot h]
  cases hslot : r.slot name <;> rw [hslot] at ho
  · exact ho
  · exact ho
  · cases ho

end Record
end ScanService
