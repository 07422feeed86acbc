import ScanService.Text.Case.Table

/-!
# Full case mappings

`lowercase` and `uppercase` follow the full (locale-free) Unicode mappings: a character may become
a word of several characters, and a capital sigma becomes the final form exactly at the end of a
word.  ASCII characters are decided without the tables, so that closed terms over ASCII compute.
-/

namespace ScanService
namespace Text

/-- Membership of a character in a table of runs, each given by its first and last code. -/
def inRanges (table : List (Nat × Nat)) (c : Char) : Bool :=
  table.any fun run => run.1 ≤ c.toNat && c.toNat ≤ run.2

/-- The image of a code in a table of strided ranges. -/
def rangeImage (table : List (Nat × Nat × Nat × Nat)) (n : Nat) : Option Nat :=
  (table.find? fun (first, last, step, _) => first ≤ n && n ≤ last && (n - first) % step == 0).map
    fun (first, _, _, image) => image + (n - first)

/-- The mapping of one character: a word if it has one, else a single character, else itself. -/
def mapChar (words : List (Nat × List Nat)) (ranges : List (Nat × Nat × Nat × Nat)) (c : Char) :
    List Char :=
  match words.find? (·.1 == c.toNat) with
  | some (_, word) => word.map Char.ofNat
  | none =>
    match rangeImage ranges c.toNat with
    | some image => [Char.ofNat image]
    | none => [c]

/-- The lowercase form of one character, outside any context. -/
def lowerChar (c : Char) : List Char :=
  if c.toNat < 0x80 then [c.toLower] else mapChar lowerWords lowerRanges c

/-- The uppercase form of one character. -/
def upperChar (c : Char) : List Char :=
  if c.toNat < 0x80 then [c.toUpper] else mapChar upperWords upperRanges c

/-- Whether a letter follows once the characters without a say in the matter are passed over. -/
def meetsLetter (s : List Char) : Bool :=
  match s.dropWhile (inRanges caseIgnorableRanges) with
  | c :: _ => inRanges casedRanges c
  | [] => false

/-- The form of a capital sigma between `before` (nearest first) and `after`. -/
def lowerSigma (before after : List Char) : Char :=
  if meetsLetter before && !meetsLetter after then 'ς' else 'σ'

/-- Lowercases a text whose characters already passed are `before`, nearest first. -/
def lowerFrom (before : List Char) : List Char → List Char
  | [] => []
  | c :: rest =>
    (if c = 'Σ' then [lowerSigma before rest] else lowerChar c) ++ lowerFrom (c :: before) rest

/-- The lowercase form of a list of characters. -/
def lower (s : List Char) : List Char := lowerFrom [] s

/-- The lowercase form of a text. -/
def lowercase (s : String) : String := String.ofList (lower s.toList)

/-- The uppercase form of a text. -/
def uppercase (s : String) : String := String.ofList (s.toList.flatMap upperChar)

@[simp]
theorem toList_lowercase (s : String) : (lowercase s).toList = lower s.toList := by
  simp [lowercase]

/-- On ASCII texts lowercasing works character by character. -/
theorem lowerFrom_of_ascii {s : List Char} (h : ∀ c ∈ s, c.toNat < 0x80) (before : List Char) :
    lowerFrom before s = s.map Char.toLower := by
  induction s generalizing before with
  | nil => rfl
  | cons c r ih =>
    have hc : c.toNat < 0x80 := h c (by simp)
    have hs : c ≠ 'Σ' := by
      rintro rfl
      exact absurd hc (by decide)
    rw [lowerFrom, if_neg hs, ih (fun d hd => h d (by simp [hd])), lowerChar, if_pos hc]
    rfl

end Text
end ScanService
