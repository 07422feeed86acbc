import ScanService.Text.Case
import ScanService.Text.Numeral
import ScanService.Text.Quoted.Table

/-!
# Quoted texts

The form in which a text stands in a diagnostic line: between double quotes, with a backslash
before quotes, backslashes and the common controls, and with every hidden character written by
its number.
-/

namespace ScanService
namespace Text

/-- One character inside quotes. -/
def quotedChar (c : Char) : List Char :=
  if c = '"' then ['\\', '"']
  else if c = '\\' then ['\\', '\\']
  else if c = '\t' then ['\\', 't']
  else if c = '\n' then ['\\', 'n']
  else if c = '\r' then ['\\', 'r']
  else if c.toNat = 0 then ['\\', '0']
  else if inRanges hiddenRanges c then
    ['\\', 'u', '\x7b'] ++ hexadecimal c.toNat ++ ['\x7d']
  else [c]

/-- A text between quotes. -/
def quoted (s : String) : String :=
  String.ofList ('"' :: s.toList.flatMap quotedChar ++ ['"'])

end Text
end ScanService
