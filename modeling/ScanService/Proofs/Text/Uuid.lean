import ScanService.Proofs.Text.Numeral
import ScanService.Uuid

/-!
# Identifiers that are read back

An identifier is written in groups.  Cutting the hyphens out of that form leaves its digits, none of
which is a hyphen, and each digit is read as what it stands for.

## What is here

* `ofSimple?_simple` — the form without hyphens is read back.
* `parse?_chars` — **the form in groups is read back.**
-/

namespace ScanService
namespace Uuid

theorem readDigit_digitChar (d : Fin 16) : readDigit (digitChar d) = some d := by
  rw [readDigit, digitChar, Text.hexValue_digitChar d.isLt]
  exact dif_pos d.isLt

theorem digitChar_ne_hyphen (d : Fin 16) : digitChar d ≠ '-' := by
  revert d
  decide

theorem mapM_readDigit_map (digits : List (Fin 16)) :
    (digits.map digitChar).mapM readDigit = some digits := by
  induction digits with
  | nil => rfl
  | cons d digits ih => simp [List.mapM_cons, readDigit_digitChar, ih]

/-- The form without hyphens is read back. -/
theorem ofSimple?_simple (u : Uuid) : ofSimple? u.simple = some u := by
  rw [ofSimple?, simple, mapM_readDigit_map]
  exact dif_pos u.length_digits

@[simp] theorem length_simple (u : Uuid) : u.simple.length = 32 := by
  rw [simple, List.length_map, u.length_digits]

theorem ne_hyphen_of_mem_simple {u : Uuid} {c : Char} (h : c ∈ u.simple) : c ≠ '-' := by
  obtain ⟨d, -, rfl⟩ := List.mem_map.mp h
  exact digitChar_ne_hyphen d

/-- Without its hyphens, the form in groups is the form without hyphens. -/
theorem filter_chars (u : Uuid) : u.chars.filter (· != '-') = u.simple := by
  have hkeep : ∀ s : List Char, s.Sublist u.simple → s.filter (· != '-') = s := fun s hs =>
    List.filter_eq_self.mpr fun c hc => by simpa using ne_hyphen_of_mem_simple (hs.subset hc)
  have htail : ∀ m, ((u.simple.drop m).take 4).Sublist u.simple := fun m =>
    (List.take_sublist _ _).trans (List.drop_sublist _ _)
  have hjoin : ∀ m, (u.simple.drop m).take 4 ++ u.simple.drop (m + 4) = u.simple.drop m := by
    intro m
    rw [← List.drop_drop, List.take_append_drop]
  simp only [chars, List.append_assoc, List.cons_append, List.filter_append, List.filter_cons,
    bne_self_eq_false, Bool.false_eq_true, if_false, hkeep _ (List.take_sublist _ _),
    hkeep _ (htail _), hkeep _ (List.drop_sublist _ _)]
  rw [hjoin 16, hjoin 12, hjoin 8, List.take_append_drop]

/-- **An identifier that is written is read back.** -/
theorem parse?_chars (u : Uuid) : parse? u.chars = some u := by
  have hlength : u.chars.length = 36 := by simp [chars]
  have hhyphens : u.chars[8]? = some '-' ∧ u.chars[13]? = some '-' ∧ u.chars[18]? = some '-' ∧
      u.chars[23]? = some '-' := by
    simp [chars]
  rw [parse?, if_neg (by omega), if_pos hlength, ofGroups?, if_pos ⟨hlength, hhyphens⟩,
    filter_chars, ofSimple?_simple]

end Uuid
end ScanService
