import ScanService.Text.Numeral

/-!
# Percent signs in addresses

A character that an address cannot hold is written as the bytes of its UTF-8 form, each a percent sign
with two hexadecimal digits.  `percentEncode` writes so whatever is not kept; `percentDecode` reads
each such triple as the character of that number, and everything else as itself.
-/

namespace ScanService
namespace Text

/-- A byte as a percent sign and two capital digits. -/
def percentByte (b : UInt8) : List Char :=
  '%' :: (zeroPad 2 (hexadecimal b.toNat)).map Char.toUpper

/-- Writes the bytes of all characters that are not kept. -/
def percentEncode (kept : Char → Bool) (s : List Char) : List Char :=
  s.flatMap fun c => if kept c then [c] else (String.utf8EncodeChar c).flatMap percentByte

/-- Reads every percent sign with two hexadecimal digits behind it. -/
def percentDecode : List Char → List Char
  | '%' :: a :: b :: rest =>
    match hexValue a, hexValue b with
    | some m, some n => Char.ofNat (16 * m + n) :: percentDecode rest
    | _, _ => '%' :: percentDecode (a :: b :: rest)
  | c :: rest => c :: percentDecode rest
  | [] => []

end Text
end ScanService
