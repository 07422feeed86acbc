/-!
# Blank characters, and texts without blank ends

A character is blank when it has the Unicode property `White_Space`.  Names, languages and
addresses are compared after their blank ends are cut off.

* `strip` works on a list of characters, `trim` is the same on a text.
-/

namespace ScanService
namespace Text

/-- The characters with the property `White_Space`. -/
def isBlank (c : Char) : Bool :=
  let n := c.toNat
  (0x09 ≤ n && n ≤ 0x0D) || n == 0x20 || n == 0x85 || n == 0xA0 || n == 0x1680
    || (0x2000 ≤ n && n ≤ 0x200A) || n == 0x2028 || n == 0x2029 || n == 0x202F || n == 0x205F
    || n == 0x3000

/-- Cuts the blank characters off both ends. -/
def strip (s : List Char) : List Char :=
  (((s.dropWhile isBlank).reverse).dropWhile isBlank).reverse

/-- The text without its blank ends. -/
def trim (s : String) : String :=
  String.ofList (strip s.toList)

@[simp]
theorem toList_trim (s : String) : (trim s).toList = strip s.toList := by
  simp [trim]

/-- Dropping from the front never keeps a blank first character. -/
theorem head_dropWhile_isBlank {s : List Char} {c : Char} {r : List Char}
    (h : s.dropWhile isBlank = c :: r) : isBlank c = false := by
  induction s with
  | nil => cases h
  | cons d s ih =>
    rw [List.dropWhile_cons] at h
    split at h
    · exact ih h
    · next hd =>
      obtain ⟨rfl, -⟩ := List.cons.inj h
      simpa using hd

end Text
end ScanService
