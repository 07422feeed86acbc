import Mathlib.Data.Nat.Digits.Defs
import ScanService.Text.Numeral

/-!
# Numerals that are read back

Numbers are written with `Nat.toDigits`, in decimal or hexadecimal, and filled up with zeros where a
width is due.  Here the digits of what is written are told by their values, so that whatever reads
digits needs only be shown to read those of a list of values.

## What is here

* `decimalValue_digitChar`, `hexValue_digitChar` — a digit that is written has its value.
* `exists_toDigits` — **the digits of a number:** their values, no zero in front, and what they come
  to; `exists_zeroPad` is the same for a number that is filled up to a width.
* `takeDigits_map_digitChar` — digits are split off whole in front of anything else.
-/

namespace ScanService
namespace Text

variable {base n d width : Nat} {values : List Nat} {rest : List Char}

/-! ## Single digits -/

theorem decimalValue_digitChar (h : d < 10) : decimalValue (Nat.digitChar d) = some d := by
  revert d
  decide

theorem hexValue_digitChar (h : d < 16) : hexValue (Nat.digitChar d) = some d := by
  revert d
  decide

/-! ## What digits come to -/

@[simp] theorem ofDigits_nil : ofDigits base [] = 0 := rfl

theorem foldl_digits_eq (m : Nat) (values : List Nat) :
    values.foldl (fun n v => base * n + v) m = m * base ^ values.length + ofDigits base values := by
  rw [ofDigits]
  induction values generalizing m with
  | nil => simp
  | cons v rest ih =>
    rw [List.foldl_cons, List.foldl_cons, ih, ih (base * 0 + v), List.length_cons, Nat.pow_succ]
    ring

theorem ofDigits_cons (v : Nat) (values : List Nat) :
    ofDigits base (v :: values) = v * base ^ values.length + ofDigits base values := by
  rw [ofDigits, List.foldl_cons, foldl_digits_eq, Nat.mul_zero, Nat.zero_add]

theorem ofDigits_append (values more : List Nat) : ofDigits base (values ++ more) =
    ofDigits base values * base ^ more.length + ofDigits base more := by
  rw [ofDigits, List.foldl_append, foldl_digits_eq, ← ofDigits]

/-- Zeros in front count for nothing. -/
theorem ofDigits_replicate_append (k : Nat) (values : List Nat) :
    ofDigits base (List.replicate k 0 ++ values) = ofDigits base values := by
  induction k with
  | zero => rfl
  | succ k ih => rw [List.replicate_succ, List.cons_append, ofDigits_cons, ih, Nat.zero_mul,
      Nat.zero_add]

/-- Zeros behind raise the power. -/
theorem ofDigits_append_replicate (k : Nat) (values : List Nat) :
    ofDigits base (values ++ List.replicate k 0) = ofDigits base values * base ^ k := by
  rw [ofDigits_append, ← List.append_nil (List.replicate k 0), ofDigits_replicate_append,
    List.append_nil, List.length_replicate]
  rfl

/-! ## Digits that are written -/

/-- **The digits of a number:** their values, with no zero in front of another. -/
theorem exists_toDigits (hb : 1 < base) (n : Nat) : ∃ values : List Nat,
    Nat.toDigits base n = values.map Nat.digitChar ∧ (∀ v ∈ values, v < base) ∧
      ofDigits base values = n ∧ values ≠ [] ∧ (values.head? = some 0 → values = [0]) := by
  induction n using Nat.strongRecOn with
  | _ n ih =>
    by_cases hn : n < base
    · refine ⟨[n], Nat.toDigits_of_lt_base hn, by simpa using hn, ?_, by simp, fun h => ?_⟩
      · simp [ofDigits]
      · simpa using h
    · have hpos : 0 < n / base := Nat.div_pos (Nat.le_of_not_lt hn) (by omega)
      obtain ⟨values, hwritten, hlt, hvalue, hne, hzero⟩ :=
        ih (n / base) (Nat.div_lt_self (by omega) hb)
      have hlast : n % base < base := Nat.mod_lt _ (by omega)
      refine ⟨values ++ [n % base], ?_, ?_, ?_, by simp, fun h => ?_⟩
      · rw [List.map_append, ← hwritten, List.map_singleton, ← Nat.toDigits_of_lt_base hlast,
          Nat.toDigits_append_toDigits hb hpos hlast, Nat.div_add_mod]
      · intro v hv
        rcases List.mem_append.mp hv with hv | hv
        · exact hlt v hv
        · exact List.mem_singleton.mp hv ▸ hlast
      · rw [ofDigits_append, hvalue, List.length_singleton, Nat.pow_one, ofDigits_cons]
        simp [Nat.div_add_mod']
      · -- a zero in front would make all but the last digit come to zero
        obtain ⟨v, more, rfl⟩ := List.exists_cons_of_ne_nil hne
        rw [hzero (by simpa using h)] at hvalue
        exact absurd hvalue (Nat.ne_of_lt hpos)

/-- The digits of a number that is filled up with zeros; there are as many as the width says if the
number fits it. -/
theorem exists_zeroPad (hb : 1 < base) (width n : Nat) : ∃ values : List Nat,
    zeroPad width (Nat.toDigits base n) = values.map Nat.digitChar ∧ (∀ v ∈ values, v < base) ∧
      ofDigits base values = n ∧ values ≠ [] ∧
      (0 < width → n < base ^ width → values.length = width) := by
  obtain ⟨values, hwritten, hlt, hvalue, hne, -⟩ := exists_toDigits hb n
  refine ⟨List.replicate (width - values.length) 0 ++ values, ?_, ?_, ?_, by simp [hne], ?_⟩
  · rw [zeroPad, hwritten, List.length_map, List.map_append, List.map_replicate]
    rfl
  · intro v hv
    rcases List.mem_append.mp hv with hv | hv
    · rw [List.eq_of_mem_replicate hv]
      omega
    · exact hlt v hv
  · rw [ofDigits_replicate_append, hvalue]
  · intro hw hn
    have hlength := (Nat.length_toDigits_le_iff hb hw).mpr hn
    rw [hwritten, List.length_map] at hlength
    rw [List.length_append, List.length_replicate]
    omega

/-! ## Digits that are read -/

/-- **Digits are split off whole**, if no other digit follows. -/
theorem takeDigits_map_digitChar (h : ∀ v ∈ values, v < 10)
    (hrest : ∀ c ∈ rest.head?, decimalValue c = none) :
    takeDigits (values.map Nat.digitChar ++ rest) = (values, rest) := by
  induction values with
  | nil =>
    cases rest with
    | nil => rfl
    | cons c rest => rw [List.map_nil, List.nil_append, takeDigits, hrest c rfl]
  | cons v values ih =>
    rw [List.forall_mem_cons] at h
    rw [List.map_cons, List.cons_append, takeDigits, decimalValue_digitChar h.1, ih h.2]

end Text
end ScanService
