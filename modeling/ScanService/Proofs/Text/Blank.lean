import Mathlib.Data.List.DropRight
import ScanService.Proofs.Text.Lowercase
import ScanService.Text.Blank

/-!
# Blank ends and lowercase

Names, languages and addresses lose their blank ends, and most of them their capitals.  Neither
undoes the other: no character that is not blank has a blank in its lowercase form, so a text
without blank ends has none in lowercase either.  Whoever does both twice has done them once.

## What is here

* `IsTrimmed` — a text that neither begins nor ends with a blank character.
* `isTrimmed_strip`, `strip_eq_nil_iff` — what is left of a text without its blank ends.
* `isBlank_of_mem_lowerChar` — only blank characters have blanks in their forms.
* `IsTrimmed.lower` — **a text without blank ends has none in lowercase**, and
  `lowercase_trim_twice`: to cut blank ends off and go to lowercase twice is to do it once.
-/

namespace ScanService
namespace Text

/-! ## Cutting blank ends off -/

/-- A text that neither begins nor ends with a blank character. -/
structure IsTrimmed (s : List Char) : Prop where
  /-- It does not begin with one. -/
  head : ∀ c ∈ s.head?, isBlank c = false
  /-- It does not end with one. -/
  last : ∀ c ∈ s.getLast?, isBlank c = false

theorem strip_eq_rdropWhile (s : List Char) :
    strip s = (s.dropWhile isBlank).rdropWhile isBlank := rfl

theorem isTrimmed_strip (s : List Char) : IsTrimmed (strip s) where
  head c hc := by
    obtain ⟨rest, hrest⟩ := List.head?_eq_some_iff.mp hc
    obtain ⟨behind, hbehind⟩ := List.rdropWhile_prefix isBlank (s.dropWhile isBlank)
    rw [← strip_eq_rdropWhile, hrest] at hbehind
    exact head_dropWhile_isBlank hbehind.symm
  last c hc := by
    obtain ⟨hne, rfl⟩ := List.mem_getLast?_eq_getLast hc
    exact Bool.eq_false_iff.mpr (List.rdropWhile_last_not isBlank (s.dropWhile isBlank) hne)

theorem IsTrimmed.strip_eq {s : List Char} (h : IsTrimmed s) : strip s = s := by
  have hhead : s.dropWhile isBlank = s := by
    cases s with
    | nil => rfl
    | cons c rest => rw [List.dropWhile_cons_of_neg (by simp [h.head c rfl])]
  rw [strip_eq_rdropWhile, hhead, List.rdropWhile_eq_self_iff]
  intro hne
  simp [h.last _ (List.getLast?_eq_some_getLast hne)]

/-- Cutting blank ends off twice is cutting them off once. -/
theorem trim_trim (s : String) : trim (trim s) = trim s := by
  rw [trim, toList_trim, (isTrimmed_strip _).strip_eq, ← trim]

/-- Nothing is left exactly of what is all blank. -/
theorem strip_eq_nil_iff {s : List Char} : strip s = [] ↔ ∀ c ∈ s, isBlank c = true := by
  rw [strip_eq_rdropWhile, List.rdropWhile_eq_nil_iff]
  constructor
  · intro h
    rw [← List.dropWhile_eq_nil_iff]
    cases hrest : s.dropWhile isBlank with
    | nil => rfl
    | cons c rest =>
      -- what is not dropped does not begin with a blank character
      have hblank : isBlank c = true := h c (by rw [hrest]; exact List.mem_cons_self)
      exact absurd (head_dropWhile_isBlank hrest) (by simp [hblank])
  · intro h c hc
    exact h c ((List.dropWhile_suffix isBlank).subset hc)

theorem trim_eq_empty_iff {s : String} : trim s = "" ↔ ∀ c ∈ s.toList, isBlank c = true := by
  rw [← strip_eq_nil_iff, ← toList_trim, String.toList_eq_nil_iff]

/-! ## Blank characters and lowercase -/

/-- The first and the last code of each run of blank characters. -/
def blankRuns : List (Nat × Nat) :=
  [(0x09, 0x0D), (0x20, 0x20), (0x85, 0x85), (0xA0, 0xA0), (0x1680, 0x1680), (0x2000, 0x200A),
    (0x2028, 0x2029), (0x202F, 0x202F), (0x205F, 0x205F), (0x3000, 0x3000)]

/-- The blank characters are those of the runs. -/
theorem isBlank_iff {c : Char} :
    isBlank c = true ↔ ∃ run ∈ blankRuns, run.1 ≤ c.toNat ∧ c.toNat ≤ run.2 := by
  simp only [isBlank, blankRuns, Bool.or_eq_true, Bool.and_eq_true, decide_eq_true_eq, beq_iff_eq,
    List.mem_cons, List.not_mem_nil, or_false, exists_eq_or_imp, exists_eq_left]
  omega

/-- **No row of the table leads to a blank character.** -/
theorem blankRuns_of_mem :
    (lowerRanges.all fun row => blankRuns.all fun run =>
      run.2.blt row.2.2.2 || (row.2.2.2 + (row.2.1 - row.1)).blt run.1) = true := by
  decide +kernel

/-- The character of a code outside the runs is not blank. -/
theorem isBlank_ofNat {n : Nat} (h : ∀ run ∈ blankRuns, ¬(run.1 ≤ n ∧ n ≤ run.2)) :
    isBlank (Char.ofNat n) = false := by
  rcases toNat_ofNat_or_eq n with hcode | hzero
  · rw [Bool.eq_false_iff]
    intro hblank
    obtain ⟨run, hrun, hbounds⟩ := isBlank_iff.mp hblank
    exact h run hrun (hcode ▸ hbounds)
  · rw [hzero]
    rfl

/-- **A character that is not blank has no blank in its lowercase form.** -/
theorem isBlank_of_mem_lowerChar {c d : Char} (hc : isBlank c = false) (hd : d ∈ lowerChar c) :
    isBlank d = false := by
  rw [lowerChar] at hd
  split at hd
  · next hascii =>
    rw [List.mem_singleton.mp hd]
    exact forall_ascii (p := fun c => isBlank c = false → isBlank c.toLower = false) (by decide)
      hascii hc
  · rw [mapChar] at hd
    split at hd
    · next n word hfind =>
      obtain ⟨rfl, rfl⟩ : n = 0x130 ∧ word = [0x69, 0x307] := by
        simpa [lowerWords] using List.mem_of_find?_eq_some hfind
      have hword : d = 'i' ∨ d = Char.ofNat 0x307 := by simpa using hd
      rcases hword with rfl | rfl <;> decide
    · split at hd
      · next image himage =>
        obtain ⟨⟨first, last, step, start⟩, hrow, rfl⟩ := Option.map_eq_some_iff.mp himage
        rw [List.mem_singleton.mp hd]
        have hmeets := List.find?_some hrow
        simp only [Bool.and_eq_true, decide_eq_true_eq] at hmeets
        refine isBlank_ofNat fun run hrun hbounds => ?_
        simp only at hbounds
        have hrows := List.all_eq_true.mp (List.all_eq_true.mp blankRuns_of_mem _
          (List.mem_of_find?_eq_some hrow)) run hrun
        simp only [Bool.or_eq_true, Nat.blt_eq] at hrows
        omega
      · rw [List.mem_singleton.mp hd]
        exact hc

/-! ## Texts in lowercase -/

/-- The form of a character between `before` and `rest`. -/
def formBetween (before rest : List Char) (c : Char) : List Char :=
  if c = 'Σ' then [lowerSigma before rest] else lowerChar c

theorem lowerFrom_cons (before rest : List Char) (c : Char) :
    lowerFrom before (c :: rest) = formBetween before rest c ++ lowerFrom (c :: before) rest := rfl

theorem lowerChar_ne_nil (c : Char) : lowerChar c ≠ [] := by
  rw [lowerChar]
  split
  · exact List.cons_ne_nil _ _
  · rw [mapChar]
    split
    · next n word hfind =>
      obtain ⟨-, rfl⟩ : n = 0x130 ∧ word = [0x69, 0x307] := by
        simpa [lowerWords] using List.mem_of_find?_eq_some hfind
      exact List.cons_ne_nil _ _
    · split <;> exact List.cons_ne_nil _ _

theorem formBetween_ne_nil (before rest : List Char) (c : Char) :
    formBetween before rest c ≠ [] := by
  rw [formBetween]
  split
  · exact List.cons_ne_nil _ _
  · exact lowerChar_ne_nil c

/-- A character that is not blank has no blank in its form, wherever it stands. -/
theorem isBlank_of_mem_formBetween {before rest : List Char} {c d : Char}
    (hc : isBlank c = false) (hd : d ∈ formBetween before rest c) : isBlank d = false := by
  rw [formBetween] at hd
  split at hd
  · rw [List.mem_singleton.mp hd, lowerSigma]
    split <;> decide
  · exact isBlank_of_mem_lowerChar hc hd

/-- The last character of a text has the last form. -/
theorem exists_lowerFrom_concat (before s : List Char) (c : Char) :
    ∃ front before', lowerFrom before (s ++ [c]) = front ++ formBetween before' [] c := by
  induction s generalizing before with
  | nil => exact ⟨[], before, by rw [List.nil_append, lowerFrom_cons]; simp [lowerFrom]⟩
  | cons d s ih =>
    obtain ⟨front, before', h⟩ := ih (d :: before)
    exact ⟨formBetween before (s ++ [c]) d ++ front, before', by
      rw [List.cons_append, lowerFrom_cons, h, List.append_assoc]⟩

/-- **A text without blank ends has none in lowercase.** -/
theorem IsTrimmed.lower {s : List Char} (h : IsTrimmed s) : IsTrimmed (lower s) where
  head c hc := by
    cases s with
    | nil => cases hc
    | cons d rest =>
      have hne := formBetween_ne_nil [] rest d
      rw [Text.lower, lowerFrom_cons, List.head?_append_of_ne_nil _ hne] at hc
      exact isBlank_of_mem_formBetween (h.head d rfl) (List.mem_of_head? hc)
  last c hc := by
    rcases s.eq_nil_or_concat with rfl | ⟨front, d, rfl⟩
    · cases hc
    · obtain ⟨front', before, hform⟩ := exists_lowerFrom_concat [] front d
      have hne := formBetween_ne_nil before [] d
      rw [List.concat_eq_append, Text.lower, hform, List.getLast?_append_of_ne_nil _ hne] at hc
      exact isBlank_of_mem_formBetween (h.last d (by simp)) (List.mem_of_getLast? hc)

theorem lower_eq_nil_iff {s : List Char} : lower s = [] ↔ s = [] := by
  cases s with
  | nil => exact iff_of_true rfl rfl
  | cons c rest =>
    refine iff_of_false (fun h => ?_) (List.cons_ne_nil _ _)
    rw [lower, lowerFrom_cons] at h
    exact formBetween_ne_nil _ _ _ (List.append_eq_nil_iff.mp h).1

/-- Only the empty text is empty in lowercase. -/
theorem lowercase_eq_empty_iff {s : String} : lowercase s = "" ↔ s = "" := by
  rw [← String.toList_eq_nil_iff, toList_lowercase, lower_eq_nil_iff, String.toList_eq_nil_iff]

/-- **What has lost its blank ends and its capitals does not have any.** -/
theorem lowercase_trim_twice (s : String) :
    lowercase (trim (lowercase (trim s))) = lowercase (trim s) := by
  have htrimmed : trim (lowercase (trim s)) = lowercase (trim s) := by
    rw [trim, toList_lowercase, toList_trim, (isTrimmed_strip _).lower.strip_eq, lowercase,
      toList_trim]
  rw [htrimmed, lowercase_lowercase]

end Text
end ScanService
