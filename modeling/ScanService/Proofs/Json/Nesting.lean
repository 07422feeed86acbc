import ScanService.Proofs.Json.Members

/-!
# How deep a document is nested

A document is read as a value if it is not nested too deep, everything in it has a value, and the
texts that are embedded in it can be read.  This file takes the three apart: `depth` tells how deep a
document is nested, and where more nesting is allowed than that, how much more does not matter.

## What is here

* `depth`, `isReadable_congr`, `toJson?_congr` — **a limit that is not reached does not matter.**
* `isReadable_of_toJson?` — in what is read as a value, everything has a value.
* `isPlain`, `exists_toJson?` — **where no text is embedded, that is all it takes.**
-/

namespace ScanService
namespace Json
namespace Document

/-! ## Depth -/

mutual

/-- How many arrays and objects stand around the innermost part of a document. -/
def depth : Document → Nat
  | null | bool _ | number _ | text _ | broken => 0
  | array items => itemsDepth items + 1
  | object entries => entriesDepth entries + 1

/-- How deep the deepest of some items is nested. -/
def itemsDepth : List Document → Nat
  | [] => 0
  | d :: rest => max (depth d) (itemsDepth rest)

/-- How deep the deepest of some entries is nested. -/
def entriesDepth : List (Option String × Document) → Nat
  | [] => 0
  | (_, d) :: rest => max (depth d) (entriesDepth rest)

end

mutual

/-- **A limit that is not reached does not matter** for whether everything has a value. -/
theorem isReadable_congr {levels more : Nat} {d : Document} (hlevels : d.depth ≤ levels)
    (hmore : d.depth ≤ more) : d.isReadable levels = d.isReadable more := by
  match d with
  | null | bool _ | number _ | text _ | broken => rfl
  | array items =>
    rw [depth] at hlevels hmore
    have hitems : itemsReadable (levels - 1) items = itemsReadable (more - 1) items :=
      itemsReadable_congr (by omega) (by omega)
    rw [isReadable, isReadable, hitems, bne_iff_ne.mpr (by omega : levels ≠ 0),
      bne_iff_ne.mpr (by omega : more ≠ 0)]
  | object entries =>
    rw [depth] at hlevels hmore
    have hentries : entriesReadable (levels - 1) entries = entriesReadable (more - 1) entries :=
      entriesReadable_congr (by omega) (by omega)
    rw [isReadable, isReadable, hentries, bne_iff_ne.mpr (by omega : levels ≠ 0),
      bne_iff_ne.mpr (by omega : more ≠ 0)]

theorem itemsReadable_congr {levels more : Nat} {items : List Document}
    (hlevels : itemsDepth items ≤ levels) (hmore : itemsDepth items ≤ more) :
    itemsReadable levels items = itemsReadable more items := by
  match items with
  | [] => rfl
  | d :: rest =>
    rw [itemsDepth, Nat.max_le] at hlevels hmore
    rw [itemsReadable, itemsReadable, isReadable_congr hlevels.1 hmore.1,
      itemsReadable_congr hlevels.2 hmore.2]

theorem entriesReadable_congr {levels more : Nat} {entries : List (Option String × Document)}
    (hlevels : entriesDepth entries ≤ levels) (hmore : entriesDepth entries ≤ more) :
    entriesReadable levels entries = entriesReadable more entries := by
  match entries with
  | [] => rfl
  | (key, d) :: rest =>
    rw [entriesDepth, Nat.max_le] at hlevels hmore
    rw [entriesReadable, entriesReadable, isReadable_congr hlevels.1 hmore.1,
      entriesReadable_congr hlevels.2 hmore.2]

end

section

variable {embedded : String → Option Json}

mutual

theorem valueWith?_congr {levels more : Nat} {d : Document} (hlevels : d.depth ≤ levels)
    (hmore : d.depth ≤ more) :
    valueWith? embedded levels d = valueWith? embedded more d := by
  match d with
  | null | bool _ | number _ | text _ | broken => rfl
  | array items =>
    rw [depth] at hlevels hmore
    have hitems : itemsWith? embedded (levels - 1) items = itemsWith? embedded (more - 1) items :=
      itemsWith?_congr (by omega) (by omega)
    rw [valueWith?, valueWith?, if_neg (by omega : levels ≠ 0), if_neg (by omega : more ≠ 0),
      hitems]
  | object entries =>
    rw [depth] at hlevels hmore
    have hentries : entriesWith? embedded (levels - 1) entries [] =
        entriesWith? embedded (more - 1) entries [] :=
      entriesWith?_congr (by omega) (by omega) []
    rw [valueWith?, valueWith?, if_neg (by omega : levels ≠ 0), if_neg (by omega : more ≠ 0),
      hentries]

theorem itemsWith?_congr {levels more : Nat} {items : List Document}
    (hlevels : itemsDepth items ≤ levels) (hmore : itemsDepth items ≤ more) :
    itemsWith? embedded levels items = itemsWith? embedded more items := by
  match items with
  | [] => rfl
  | d :: rest =>
    rw [itemsDepth, Nat.max_le] at hlevels hmore
    rw [itemsWith?, itemsWith?, valueWith?_congr hlevels.1 hmore.1,
      itemsWith?_congr hlevels.2 hmore.2]

theorem entriesWith?_congr {levels more : Nat} {entries : List (Option String × Document)}
    (hlevels : entriesDepth entries ≤ levels) (hmore : entriesDepth entries ≤ more)
    (done : List (String × Json)) :
    entriesWith? embedded levels entries done = entriesWith? embedded more entries done := by
  match entries with
  | [] => rfl
  | (none, d) :: rest => rfl
  | (some key, d) :: rest =>
    rw [entriesDepth, Nat.max_le] at hlevels hmore
    rw [entriesWith?, entriesWith?, valueWith?_congr hlevels.1 hmore.1]
    cases valueWith? embedded more d with
    | none => rfl
    | some v => exact entriesWith?_congr hlevels.2 hmore.2 _

end

/-- **A limit that is not reached does not matter** for the value that is read. -/
theorem toJson?_congr {levels more : Nat} {d : Document} (hlevels : d.depth ≤ levels)
    (hmore : d.depth ≤ more) : d.toJson? levels = d.toJson? more :=
  valueWith?_congr hlevels hmore

/-! ## Parts that have values -/

/-- An object that stands for another value holds the text of it and nothing else. -/
theorem entriesReadable_of_soleText? {levels : Nat} {entries : List (Option String × Document)}
    {s : String} (hembedding : isEmbedding entries = true) (h : soleText? entries = some s) :
    entriesReadable levels entries = true := by
  match entries, h with
  | [(some key, .text (some s))], _ => rfl
  | [(some key, .text none)], h => cases h

mutual

theorem isReadable_of_valueWith? {levels : Nat} {d : Document} {v : Json}
    (h : valueWith? embedded levels d = some v) : d.isReadable levels = true := by
  match d with
  | null | bool _ => rfl
  | number n | text n =>
    obtain ⟨_, rfl, -⟩ := Option.map_eq_some_iff.mp h
    rfl
  | broken => cases h
  | array items =>
    rw [valueWith?, Option.ite_none_left_eq_some] at h
    obtain ⟨vs, hvs, -⟩ := Option.map_eq_some_iff.mp h.2
    rw [isReadable, itemsReadable_of_itemsWith? hvs, bne_iff_ne.mpr h.1, Bool.and_true]
  | object entries =>
    rw [valueWith?, Option.ite_none_left_eq_some] at h
    obtain ⟨hlevels, h⟩ := h
    have hentries : entriesReadable (levels - 1) entries = true := by
      split at h
      · next hembedding =>
        obtain ⟨s, hs, -⟩ := Option.bind_eq_some_iff.mp h
        exact entriesReadable_of_soleText? hembedding hs
      · obtain ⟨vs, hvs, -⟩ := Option.map_eq_some_iff.mp h
        exact entriesReadable_of_entriesWith? hvs
    rw [isReadable, hentries, bne_iff_ne.mpr hlevels, Bool.and_true]

theorem itemsReadable_of_itemsWith? {levels : Nat} {items : List Document} {vs : List Json}
    (h : itemsWith? embedded levels items = some vs) : itemsReadable levels items = true := by
  match items with
  | [] => rfl
  | d :: rest =>
    rw [itemsWith?] at h
    split at h
    · cases h
    · next v hv =>
      obtain ⟨ws, hws, -⟩ := Option.map_eq_some_iff.mp h
      rw [itemsReadable, isReadable_of_valueWith? hv, itemsReadable_of_itemsWith? hws,
        Bool.and_true]

theorem entriesReadable_of_entriesWith? {levels : Nat}
    {entries : List (Option String × Document)} {done read : List (String × Json)}
    (h : entriesWith? embedded levels entries done = some read) :
    entriesReadable levels entries = true := by
  match entries with
  | [] => rfl
  | (none, _) :: _ => cases h
  | (some key, d) :: rest =>
    rw [entriesWith?] at h
    split at h
    · cases h
    · next v hv =>
      rw [entriesReadable, isReadable_of_valueWith? hv, entriesReadable_of_entriesWith? h]
      rfl

end

/-- **In what is read as a value, everything has a value.** -/
theorem isReadable_of_toJson? {levels : Nat} {d : Document} {v : Json}
    (h : d.toJson? levels = some v) : d.isReadable levels = true :=
  isReadable_of_valueWith? h

end

/-! ## Documents without embedded texts -/

mutual

/-- Whether no object in a document stands for another value. -/
def isPlain : Document → Bool
  | null | bool _ | number _ | text _ | broken => true
  | array items => itemsPlain items
  | object entries => !isEmbedding entries && entriesPlain entries

/-- Whether no object in some items stands for another value. -/
def itemsPlain : List Document → Bool
  | [] => true
  | d :: rest => isPlain d && itemsPlain rest

/-- Whether no object in some entries stands for another value. -/
def entriesPlain : List (Option String × Document) → Bool
  | [] => true
  | (_, d) :: rest => isPlain d && entriesPlain rest

end

section

variable {embedded : String → Option Json}

mutual

theorem exists_valueWith? {levels : Nat} {d : Document} (h : d.isReadable levels = true)
    (hplain : d.isPlain = true) : ∃ v, valueWith? embedded levels d = some v := by
  match d with
  | null | bool _ | number (some _) | text (some _) => exact ⟨_, rfl⟩
  | number none | text none | broken => cases h
  | array items =>
    rw [isReadable, Bool.and_eq_true, bne_iff_ne] at h
    obtain ⟨vs, hvs⟩ := exists_itemsWith? h.2 hplain
    exact ⟨.array vs, by rw [valueWith?, if_neg h.1, hvs, Option.map_some]⟩
  | object entries =>
    rw [isReadable, Bool.and_eq_true, bne_iff_ne] at h
    rw [isPlain, Bool.and_eq_true, Bool.not_eq_true'] at hplain
    obtain ⟨vs, hvs⟩ := exists_entriesWith? h.2 hplain.2 []
    exact ⟨.object vs, by
      rw [valueWith?, if_neg h.1, if_neg (Bool.eq_false_iff.mp hplain.1), hvs, Option.map_some]⟩

theorem exists_itemsWith? {levels : Nat} {items : List Document}
    (h : itemsReadable levels items = true) (hplain : itemsPlain items = true) :
    ∃ vs, itemsWith? embedded levels items = some vs := by
  match items with
  | [] => exact ⟨[], rfl⟩
  | d :: rest =>
    rw [itemsReadable, Bool.and_eq_true] at h
    rw [itemsPlain, Bool.and_eq_true] at hplain
    obtain ⟨v, hv⟩ := exists_valueWith? h.1 hplain.1
    obtain ⟨vs, hvs⟩ := exists_itemsWith? h.2 hplain.2
    exact ⟨v :: vs, by rw [itemsWith?, hv, hvs]; rfl⟩

theorem exists_entriesWith? {levels : Nat} {entries : List (Option String × Document)}
    (h : entriesReadable levels entries = true) (hplain : entriesPlain entries = true)
    (done : List (String × Json)) : ∃ vs, entriesWith? embedded levels entries done = some vs := by
  match entries with
  | [] => exact ⟨done, rfl⟩
  | (none, _) :: _ => cases h
  | (some key, d) :: rest =>
    rw [entriesReadable, Bool.and_eq_true, Bool.and_eq_true] at h
    rw [entriesPlain, Bool.and_eq_true] at hplain
    obtain ⟨v, hv⟩ := exists_valueWith? h.1.2 hplain.1
    obtain ⟨vs, hvs⟩ := exists_entriesWith? h.2 hplain.2 (putEntry done key v)
    exact ⟨vs, by rw [entriesWith?, hv]; exact hvs⟩

end

/-- **Where no text is embedded, a document is read as a value** if everything in it has one. -/
theorem exists_toJson? {levels : Nat} {d : Document} (h : d.isReadable levels = true)
    (hplain : d.isPlain = true) : ∃ v, d.toJson? levels = some v :=
  exists_valueWith? h hplain

end

end Document
end Json
end ScanService
