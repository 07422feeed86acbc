import ScanService.Text.Numeral

/-!
# Universally unique identifiers

A `Uuid` is its thirty-two hexadecimal digits.  It is written in small letters in groups of 8, 4,
4, 4 and 12; it is read in that form, without the hyphens, in braces, or as a URN, in either case.
-/

namespace ScanService

/-- A universally unique identifier, by its hexadecimal digits. -/
structure Uuid where
  /-- The digits, most significant first. -/
  digits : List (Fin 16)
  /-- There are thirty-two of them. -/
  length_digits : digits.length = 32
  deriving DecidableEq

namespace Uuid

/-- A hexadecimal digit as a small letter. -/
def digitChar (d : Fin 16) : Char := Nat.digitChar d.val

/-- The form without hyphens. -/
def simple (u : Uuid) : List Char := u.digits.map digitChar

/-- The form in groups. -/
def chars (u : Uuid) : List Char :=
  let s := u.simple
  s.take 8 ++ '-' :: (s.drop 8).take 4 ++ '-' :: (s.drop 12).take 4 ++ '-' :: (s.drop 16).take 4
    ++ '-' :: s.drop 20

/-- The form in groups, as a text. -/
def text (u : Uuid) : String := String.ofList u.chars

/-- A digit of either case. -/
def readDigit (c : Char) : Option (Fin 16) :=
  match Text.hexValue c with
  | some v => if h : v < 16 then some ⟨v, h⟩ else none
  | none => none

/-- Reads thirty-two digits and nothing else. -/
def ofSimple? (s : List Char) : Option Uuid :=
  match s.mapM readDigit with
  | some digits => if h : digits.length = 32 then some ⟨digits, h⟩ else none
  | none => none

/-- Reads the form in groups. -/
def ofGroups? (s : List Char) : Option Uuid :=
  if s.length = 36 ∧ s[8]? = some '-' ∧ s[13]? = some '-' ∧ s[18]? = some '-' ∧ s[23]? = some '-'
  then ofSimple? (s.filter (· != '-'))
  else none

/-- Reads any of the accepted forms, told apart by their lengths. -/
def parse? (s : List Char) : Option Uuid :=
  if s.length = 32 then ofSimple? s
  else if s.length = 36 then ofGroups? s
  else if s.length = 38 then
    if s.head? = some '\x7b' ∧ s.getLast? = some '\x7d' then ofGroups? (s.tail.dropLast) else none
  else if s.length = 45 ∧ (s.take 9).map Char.toLower = "urn:uuid:".toList then
    ofGroups? (s.drop 9)
  else none

/-- The last `width` hexadecimal digits of a number, before some others. -/
def digitsOf : Nat → Nat → List (Fin 16) → List (Fin 16)
  | 0, _, rest => rest
  | width + 1, n, rest => digitsOf width (n / 16) (Fin.ofNat 16 n :: rest)

theorem length_digitsOf (width n : Nat) (rest : List (Fin 16)) :
    (digitsOf width n rest).length = width + rest.length := by
  induction width generalizing n rest with
  | zero => simp [digitsOf]
  | succ w ih => rw [digitsOf, ih, List.length_cons]; omega

/-- The identifier with the digits of a number. -/
def ofNat (n : Nat) : Uuid := ⟨digitsOf 32 n [], by simp [length_digitsOf]⟩

/-- The identifier all of whose digits are zero. -/
def zero : Uuid := ⟨List.replicate 32 0, by simp⟩

instance : Inhabited Uuid := ⟨zero⟩

end Uuid
end ScanService
