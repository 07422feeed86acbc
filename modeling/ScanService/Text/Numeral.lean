/-!
# Numerals

Reading and writing natural numbers by their digits.  `digits base n` has no leading zero;
`padded base width n` fills up with zeros to a width, as dates and identifiers need.
-/

namespace ScanService
namespace Text

/-- The value of a decimal digit. -/
def decimalValue (c : Char) : Option Nat :=
  if '0' ≤ c ∧ c ≤ '9' then some (c.toNat - 48) else none

/-- The value of a hexadecimal digit of either case. -/
def hexValue (c : Char) : Option Nat :=
  if '0' ≤ c ∧ c ≤ '9' then some (c.toNat - 48)
  else if 'a' ≤ c ∧ c ≤ 'f' then some (c.toNat - 87)
  else if 'A' ≤ c ∧ c ≤ 'F' then some (c.toNat - 55)
  else none

/-- The number written by digits of the given values, most significant first. -/
def ofDigits (base : Nat) (values : List Nat) : Nat :=
  values.foldl (fun n v => base * n + v) 0

/-- The decimal numeral of a number. -/
def decimal (n : Nat) : List Char := Nat.toDigits 10 n

/-- The hexadecimal numeral of a number, in small letters. -/
def hexadecimal (n : Nat) : List Char := Nat.toDigits 16 n

/-- Fills up with zeros on the left. -/
def zeroPad (width : Nat) (numeral : List Char) : List Char :=
  List.replicate (width - numeral.length) '0' ++ numeral

/-- The decimal numeral of a number as a text. -/
def decimalText (n : Nat) : String := String.ofList (decimal n)

/-- Splits the decimal digits off the front of a text, as values. -/
def takeDigits : List Char → List Nat × List Char
  | [] => ([], [])
  | c :: rest =>
    match decimalValue c with
    | some v => (v :: (takeDigits rest).1, (takeDigits rest).2)
    | none => ([], c :: rest)

/-- Reads a whole text as decimal digits, at least one. -/
def readDecimal (s : List Char) : Option Nat :=
  match takeDigits s with
  | (v :: vs, []) => some (ofDigits 10 (v :: vs))
  | _ => none

end Text
end ScanService
