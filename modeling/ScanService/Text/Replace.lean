/-!
# Looking for a word in a text, and putting another in its place

* `occursIn`: the word stands somewhere in the text.
* `substitute`: every occurrence, taken from the left and without overlap, becomes the
  replacement; a text in which the word does not occur stays as it is.
-/

namespace ScanService
namespace Text

/-- The word stands somewhere in the text. -/
def occursIn (word : List Char) : List Char → Bool
  | [] => word.isEmpty
  | c :: rest => word.isPrefixOf (c :: rest) || occursIn word rest

/-- Walks a text, `skip` characters of which belong to an occurrence already replaced. -/
def substituteFrom (word replacement : List Char) : Nat → List Char → List Char
  | _, [] => []
  | skip + 1, _ :: rest => substituteFrom word replacement skip rest
  | 0, c :: rest =>
    if word.isPrefixOf (c :: rest) then
      replacement ++ substituteFrom word replacement (word.length - 1) rest
    else
      c :: substituteFrom word replacement 0 rest

/-- Puts `replacement` for every occurrence of the (non-empty) `word`. -/
def substitute (word replacement : List Char) (s : List Char) : List Char :=
  substituteFrom word replacement 0 s

/-- The word stands somewhere in the text. -/
def contains (s word : String) : Bool := occursIn word.toList s.toList

/-- The text with `replacement` for every occurrence of `word`. -/
def replaceAll (s word replacement : String) : String :=
  String.ofList (substitute word.toList replacement.toList s.toList)

/-- Without an occurrence there is nothing to replace. -/
theorem substitute_of_not_occursIn {word s : List Char} (h : occursIn word s = false)
    (replacement : List Char) : substitute word replacement s = s := by
  unfold substitute
  induction s with
  | nil => rfl
  | cons c r ih =>
    rw [occursIn, Bool.or_eq_false_iff] at h
    rw [substituteFrom, h.1, ih h.2]
    rfl

end Text
end ScanService
