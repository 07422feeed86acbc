import Mathlib.Tactic.IntervalCases
import ScanService.Proofs.Text.Numeral
import ScanService.Time.Timestamp

/-!
# Points in time that are read back

A point in time is written in one form, and that form is among those that are read.  Each reader
is shown to take what the writer of the same part has written off the front of a text, and to leave
what follows.

## What is here

* `readNumber_twoDigits`, `readYear_yearText`, `readFraction_fractionText` — the parts.
* `parse?_chars` — **what is written is read back.**
-/

namespace ScanService
namespace Timestamp

variable {d n width : Nat} {values : List Nat} {rest : List Char} {c mark : Char}

/-! ## Blanks and marks -/

theorem isBlank_digitChar (h : d < 10) : Text.isBlank (Nat.digitChar d) = false := by
  revert d
  decide

theorem skipBlank_cons (h : Text.isBlank c = false) : skipBlank (c :: rest) = c :: rest := by
  rw [skipBlank, List.dropWhile_cons, h, if_neg Bool.false_ne_true]

theorem readMark_cons (h : Text.isBlank mark = false) :
    readMark mark (mark :: rest) = some rest := by
  rw [readMark, skipBlank_cons h]
  exact if_pos rfl

/-! ## Numbers -/

/-- A number is read off the front, however many digits follow. -/
theorem readNumber_map_digitChar (hw : 0 < width) (hl : values.length = width)
    (h : ∀ v ∈ values, v < 10) : readNumber width (values.map Nat.digitChar ++ rest) =
      some (Text.ofDigits 10 values, rest) := by
  cases values with
  | nil => exact absurd hl (Nat.ne_of_lt hw)
  | cons v more =>
    have hblank := isBlank_digitChar (h v List.mem_cons_self)
    have hskip : skipBlank ((v :: more).map Nat.digitChar ++ rest) =
        (v :: more).map Nat.digitChar ++ rest := skipBlank_cons hblank
    have hlength : ((v :: more).map Nat.digitChar).length = width := by rw [List.length_map, hl]
    have hdigits : Text.takeDigits ((v :: more).map Nat.digitChar) = (v :: more, []) := by
      have hread := Text.takeDigits_map_digitChar h (show ∀ c ∈ [].head?, _ from nofun)
      rwa [List.append_nil] at hread
    rw [readNumber, hskip, List.take_left' hlength, List.drop_left' hlength, hdigits]
    rfl

theorem readNumber_twoDigits (h : n < 100) :
    readNumber 2 (twoDigits n ++ rest) = some (n, rest) := by
  obtain ⟨values, hwritten, hlt, rfl, -, hl⟩ := Text.exists_zeroPad (by decide : 1 < 10) 2 n
  rw [twoDigits, Text.decimal, hwritten,
    readNumber_map_digitChar (by decide) (hl (by decide) h) hlt]

/-- All digits behind a sign are read. -/
theorem signed_zeroPad (sign : Int) (hrest : ∀ c ∈ rest.head?, Text.decimalValue c = none) :
    readYear.signed sign (Text.zeroPad 4 (Text.decimal n) ++ rest) = some (sign * n, rest) := by
  obtain ⟨values, hwritten, hlt, rfl, hne, -⟩ := Text.exists_zeroPad (by decide : 1 < 10) 4 n
  rw [Text.decimal, hwritten, readYear.signed, Text.takeDigits_map_digitChar hlt hrest]
  cases values with
  | nil => exact absurd rfl hne
  | cons v more => rfl

/-- A year that starts with a digit has no sign. -/
theorem readYear_digitChar (h : d < 10) : readYear (Nat.digitChar d :: rest) =
    (readNumber 4 (Nat.digitChar d :: rest)).map fun (n, rest) => ((n : Int), rest) := by
  rw [readYear, skipBlank_cons (isBlank_digitChar h)]
  interval_cases d <;> rfl

theorem readYear_yearText (year : Int) :
    readYear (yearText year ++ '-' :: rest) = some (year, '-' :: rest) := by
  have hstop : ∀ c ∈ ('-' :: rest).head?, Text.decimalValue c = none := by
    intro c hc
    cases hc
    rfl
  by_cases h : 0 ≤ year ∧ year ≤ 9999
  · obtain ⟨values, hwritten, hlt, hvalue, hne, hl⟩ :=
      Text.exists_zeroPad (by decide : 1 < 10) 4 year.toNat
    have hlength := hl (by decide) (by omega)
    obtain ⟨v, more, rfl⟩ := List.exists_cons_of_ne_nil hne
    rw [yearText, if_pos h, Text.decimal, hwritten, List.map_cons, List.cons_append,
      readYear_digitChar (hlt v List.mem_cons_self), ← List.cons_append, ← List.map_cons,
      readNumber_map_digitChar (by decide) hlength hlt, hvalue]
    exact congrArg (fun n => some (n, _)) (Int.toNat_of_nonneg h.1)
  · rw [yearText, if_neg h, List.cons_append]
    by_cases hneg : year < 0
    · rw [if_pos hneg, readYear, skipBlank_cons (by decide)]
      refine (signed_zeroPad (-1) hstop).trans ?_
      rw [show (-1 : Int) * (year.natAbs : Int) = year by omega]
    · rw [if_neg hneg, readYear, skipBlank_cons (by decide)]
      refine (signed_zeroPad 1 hstop).trans ?_
      rw [show (1 : Int) * (year.natAbs : Int) = year by omega]

/-! ## Decimals -/

/-- Decimals are read up to the ninth. -/
theorem readFraction_zeroPad {k : Nat} (hk : width + k = 9) (hw : 0 < width) (hn : n < 10 ^ width)
    (hrest : ∀ c ∈ rest.head?, Text.decimalValue c = none) :
    readFraction ('.' :: (Text.zeroPad width (Text.decimal n) ++ rest)) =
      some (n * 10 ^ k, rest) := by
  obtain ⟨values, hwritten, hlt, rfl, hne, hl⟩ :=
    Text.exists_zeroPad (by decide : 1 < 10) width n
  have hlength := hl hw hn
  have htake : (values ++ List.replicate 9 0).take 9 = values ++ List.replicate k 0 := by
    rw [List.take_append, List.take_of_length_le (by omega), List.take_replicate]
    congr 2
    omega
  rw [Text.decimal, hwritten, readFraction, Text.takeDigits_map_digitChar hlt hrest]
  obtain ⟨v, more, rfl⟩ := List.exists_cons_of_ne_nil hne
  simp only [htake, Text.ofDigits_append_replicate]

theorem readFraction_fractionText (h : n < 1000000000) :
    readFraction (fractionText n ++ 'Z' :: rest) = some (n, 'Z' :: rest) := by
  have hstop : ∀ c ∈ ('Z' :: rest).head?, Text.decimalValue c = none := by
    intro c hc
    cases hc
    rfl
  rw [fractionText]
  split
  · next hzero =>
    rw [hzero]
    rfl
  · split
    · next hmillis =>
      rw [List.cons_append, readFraction_zeroPad (k := 6) rfl (by decide) (by omega) hstop]
      congr 2
      omega
    · split
      · next hmicros =>
        rw [List.cons_append, readFraction_zeroPad (k := 3) rfl (by decide) (by omega) hstop]
        congr 2
        omega
      · rw [List.cons_append, readFraction_zeroPad (k := 0) rfl (by decide) (by omega) hstop,
          Nat.pow_zero, Nat.mul_one]

/-! ## Points in time -/

/-- At no offset, the local time is the time in UTC. -/
theorem ofLocal?_zero (t : Timestamp) :
    ofLocal? t.date t.hour t.minute t.second t.nanosecond 0 = some t := by
  obtain ⟨hhour, hminute, hsecond, hnano⟩ := t.isClockTime
  have hnotbefore : ¬ ((60 * t.hour + t.minute - 0 : Int) < 0) := by omega
  have hnotafter : ¬ ((1440 : Int) ≤ 60 * t.hour + t.minute - 0) := by omega
  have hminutes : ((60 * t.hour + t.minute - 0 : Int) % 1440).toNat = 60 * t.hour + t.minute := by
    omega
  have hh : (60 * t.hour + t.minute) / 60 = t.hour := by omega
  have hm : (60 * t.hour + t.minute) % 60 = t.minute := by omega
  simp only [ofLocal?, if_neg hnotbefore, if_neg hnotafter, hminutes, hh, hm]
  exact dif_pos t.isClockTime

/-- **A point in time that is written is read back.** -/
theorem parse?_chars (t : Timestamp) : parse? t.chars = some t := by
  obtain ⟨hhour, hminute, hsecond, hnano⟩ := t.isClockTime
  obtain ⟨-, -, -, hmonth, -, hday⟩ := t.date.isDate
  have hday' := Date.daysInMonth_le t.date.year t.date.month
  simp only [chars, List.append_assoc, List.cons_append]
  refine Option.bind_eq_some_iff.mpr ⟨_, readYear_yearText _, ?_⟩
  refine Option.bind_eq_some_iff.mpr ⟨_, readMark_cons rfl, ?_⟩
  refine Option.bind_eq_some_iff.mpr ⟨_, readNumber_twoDigits (by omega), ?_⟩
  refine Option.bind_eq_some_iff.mpr ⟨_, readMark_cons rfl, ?_⟩
  refine Option.bind_eq_some_iff.mpr ⟨_, readNumber_twoDigits (by omega), ?_⟩
  refine Option.bind_eq_some_iff.mpr ⟨_, rfl, ?_⟩
  refine Option.bind_eq_some_iff.mpr ⟨_, readNumber_twoDigits (by omega), ?_⟩
  refine Option.bind_eq_some_iff.mpr ⟨_, readMark_cons rfl, ?_⟩
  refine Option.bind_eq_some_iff.mpr ⟨_, readNumber_twoDigits (by omega), ?_⟩
  refine Option.bind_eq_some_iff.mpr ⟨_, readMark_cons rfl, ?_⟩
  refine Option.bind_eq_some_iff.mpr ⟨_, readNumber_twoDigits (by omega), ?_⟩
  refine Option.bind_eq_some_iff.mpr ⟨_, readFraction_fractionText hnano, ?_⟩
  refine Option.bind_eq_some_iff.mpr ⟨(0, []), by rw [skipBlank_cons rfl]; rfl, ?_⟩
  refine Option.bind_eq_some_iff.mpr ⟨_, Date.of?_eq_some t.date, ?_⟩
  rw [if_pos t.isClockTime, ofLocal?_zero]

end Timestamp
end ScanService
