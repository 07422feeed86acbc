import ScanService.Text.Case

/-!
# Lowercase twice

The lowercase form of a text is its own lowercase form.  What has to be seen is that no row of the
tables leads to a character that a row starts from.  The rows are compared with each other as
ranges, so that no character has to be looked up for it (`isOutside`).

## What is here

* `IsLower` — a character that stays as it is, wherever it stands.
* `isLower_of_mem_lowerChar` — the lowercase form of a character has only such characters.
* `lowercase_lowercase` — **lowercasing twice is lowercasing once.**
-/

namespace ScanService
namespace Text

/-- A character that is its own lowercase form, and that is so wherever it stands. -/
def IsLower (c : Char) : Prop := c ≠ 'Σ' ∧ lowerChar c = [c]

/-! ## ASCII -/

/-- What holds of the first codes holds of the characters of ASCII. -/
theorem forall_ascii {p : Char → Prop} (h : ∀ n < 0x80, p (Char.ofNat n)) {c : Char}
    (hc : c.toNat < 0x80) : p c :=
  Char.ofNat_toNat c ▸ h c.toNat hc

theorem toLower_of_ascii {c : Char} (hc : c.toNat < 0x80)
    (h : ¬(0x41 ≤ c.toNat ∧ c.toNat ≤ 0x5A)) : c.toLower = c :=
  forall_ascii (p := fun c => ¬(0x41 ≤ c.toNat ∧ c.toNat ≤ 0x5A) → c.toLower = c) (by decide) hc h

theorem isLower_toLower {c : Char} (hc : c.toNat < 0x80) : IsLower c.toLower := by
  obtain ⟨hascii, hlower⟩ := forall_ascii
    (p := fun c => c.toLower.toNat < 0x80 ∧ c.toLower.toLower = c.toLower) (by decide) hc
  refine ⟨fun he => ?_, ?_⟩
  · rw [he] at hascii
    exact absurd hascii (by decide)
  · rw [lowerChar, if_pos hascii, hlower]

/-! ## Rows of the table -/

/-- Where lowercasing changes something: the capital letters of ASCII, the one character whose form
is a word, and the rows of the table. -/
def changedRanges : List (Nat × Nat × Nat × Nat) :=
  (0x41, 0x5A, 1, 0x61) :: (0x130, 0x130, 1, 0x69) :: lowerRanges

/-- Whether a code is one of those that a row starts from. -/
def Meets (n : Nat) (row : Nat × Nat × Nat × Nat) : Prop :=
  row.1 ≤ n ∧ n ≤ row.2.1 ∧ (n - row.1) % row.2.2.1 = 0

/-- Whether no code that one row leads to is one that another row starts from: the first ones all
lie behind the others or before them, or the others are all odd where these are even. -/
def isOutside (row other : Nat × Nat × Nat × Nat) : Bool :=
  other.2.1.blt row.2.2.2 || (row.2.2.2 + (row.2.1 - row.1)).blt other.1 ||
    other.2.2.1 == 2 && (row.2.2.1 == 2 || row.1 == row.2.1) && row.2.2.2 % 2 != other.1 % 2

theorem not_meets_of_isOutside {row other : Nat × Nat × Nat × Nat} {n : Nat}
    (h : isOutside row other = true) (hn : Meets n row) :
    ¬Meets (row.2.2.2 + (n - row.1)) other := by
  obtain ⟨first, last, step, image⟩ := row
  obtain ⟨first', last', step', image'⟩ := other
  simp only [isOutside, Bool.or_eq_true, Bool.and_eq_true, beq_iff_eq, bne_iff_ne, Nat.blt_eq] at h
  simp only [Meets] at hn ⊢
  rintro ⟨hle, hge, hmod⟩
  rcases h with (h | h) | ⟨⟨rfl, rfl | rfl⟩, h⟩ <;> omega

/-- **No row leads to where a row starts.** -/
theorem isOutside_of_mem :
    (lowerRanges.all fun row => changedRanges.all fun other => isOutside row other) = true := by
  decide +kernel

/-- A character that no row starts from stays as it is. -/
theorem isLower_of_not_meets {c : Char} (h : ∀ row ∈ changedRanges, ¬Meets c.toNat row) :
    IsLower c := by
  have hrange : rangeImage lowerRanges c.toNat = none := by
    rw [rangeImage, Option.map_eq_none_iff, List.find?_eq_none]
    intro row hrow hmeets
    refine h row (List.mem_cons_of_mem _ (List.mem_cons_of_mem _ hrow)) ?_
    simpa [Meets, and_assoc] using hmeets
  have hword : c.toNat ≠ 0x130 := by
    intro hc
    exact h (0x130, 0x130, 1, 0x69) (by simp [changedRanges])
      ⟨Nat.le_of_eq hc.symm, Nat.le_of_eq hc, Nat.mod_one _⟩
  refine ⟨?_, ?_⟩
  · rintro rfl
    exact absurd hrange (by decide)
  · rw [lowerChar]
    split
    · next hascii =>
      have hlower : ¬(0x41 ≤ c.toNat ∧ c.toNat ≤ 0x5A) := fun hc =>
        h (0x41, 0x5A, 1, 0x61) (by simp [changedRanges]) ⟨hc.1, hc.2, Nat.mod_one _⟩
      rw [toLower_of_ascii hascii hlower]
    · have hfind : lowerWords.find? (·.1 == c.toNat) = none := by
        simp [lowerWords, Ne.symm hword]
      rw [mapChar, hfind, hrange]

/-- A code that is no character's stands for the first character of all. -/
theorem toNat_ofNat_or_eq (n : Nat) : (Char.ofNat n).toNat = n ∨ Char.ofNat n = Char.ofNat 0 := by
  by_cases hvalid : n.isValidChar
  · rw [Char.ofNat, dif_pos hvalid]
    exact .inl rfl
  · rw [Char.ofNat, dif_neg hvalid]
    exact .inr rfl

/-- The character of a code that no row starts from stays as it is. -/
theorem isLower_ofNat {n : Nat} (h : ∀ row ∈ changedRanges, ¬Meets n row) :
    IsLower (Char.ofNat n) := by
  rcases toNat_ofNat_or_eq n with hcode | hzero
  · refine isLower_of_not_meets ?_
    rwa [hcode]
  · rw [hzero]
    exact ⟨by decide, by decide⟩

/-! ## Forms of one character -/

/-- A word for a character is made of such characters. -/
theorem isLower_of_mem_lowerWords {n : Nat} {word : List Nat} (h : (n, word) ∈ lowerWords)
    {c : Char} (hc : c ∈ word.map Char.ofNat) : IsLower c := by
  obtain ⟨rfl, rfl⟩ : n = 0x130 ∧ word = [0x69, 0x307] := by simpa [lowerWords] using h
  have hword : c = 'i' ∨ c = Char.ofNat 0x307 := by simpa using hc
  rcases hword with rfl | rfl
  · exact ⟨by decide, by decide⟩
  · exact ⟨by decide, by decide⟩

/-- **The lowercase form of a character consists of characters that stay as they are.** -/
theorem isLower_of_mem_lowerChar {c d : Char} (hc : c ≠ 'Σ') (hd : d ∈ lowerChar c) :
    IsLower d := by
  rw [lowerChar] at hd
  split at hd
  · next hascii =>
    rw [List.mem_singleton.mp hd]
    exact isLower_toLower hascii
  · next hascii =>
    rw [mapChar] at hd
    split at hd
    · next n word hfind => exact isLower_of_mem_lowerWords (List.mem_of_find?_eq_some hfind) hd
    · next hword =>
      split at hd
      · next image himage =>
        obtain ⟨row, hrow, rfl⟩ := Option.map_eq_some_iff.mp himage
        rw [List.mem_singleton.mp hd]
        have hmeets : Meets c.toNat row := by
          simpa [Meets, and_assoc] using List.find?_some hrow
        refine isLower_ofNat fun other hother => not_meets_of_isOutside ?_ hmeets
        exact List.all_eq_true.mp
          (List.all_eq_true.mp isOutside_of_mem row (List.mem_of_find?_eq_some hrow)) other hother
      · next hrange =>
        obtain rfl := List.mem_singleton.mp hd
        refine ⟨hc, ?_⟩
        rw [lowerChar, if_neg hascii, mapChar, hword, hrange]

/-! ## Texts -/

/-- The form of a sigma stays as it is. -/
theorem isLower_lowerSigma (before after : List Char) : IsLower (lowerSigma before after) := by
  rw [lowerSigma]
  split <;> exact ⟨by decide, by decide⟩

theorem isLower_of_mem_lowerFrom {before s : List Char} {c : Char} (h : c ∈ lowerFrom before s) :
    IsLower c := by
  induction s generalizing before with
  | nil => cases h
  | cons d rest ih =>
    rw [lowerFrom, List.mem_append] at h
    rcases h with h | h
    · split at h
      · rw [List.mem_singleton.mp h]
        exact isLower_lowerSigma before rest
      · next hd => exact isLower_of_mem_lowerChar hd h
    · exact ih h

theorem lowerFrom_of_isLower {s : List Char} (h : ∀ c ∈ s, IsLower c) (before : List Char) :
    lowerFrom before s = s := by
  induction s generalizing before with
  | nil => rfl
  | cons c rest ih =>
    obtain ⟨hsigma, hlower⟩ := h c List.mem_cons_self
    rw [lowerFrom, if_neg hsigma, hlower, ih fun d hd => h d (List.mem_cons_of_mem _ hd)]
    rfl

/-- **Lowercasing twice is lowercasing once.** -/
theorem lowercase_lowercase (s : String) : lowercase (lowercase s) = lowercase s := by
  rw [lowercase, toList_lowercase, lower, lower,
    lowerFrom_of_isLower fun c hc => isLower_of_mem_lowerFrom hc]
  rfl

end Text
end ScanService
