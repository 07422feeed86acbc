import ScanService.Binary64
import ScanService.Text.Numeral

/-!
# JSON values and their text

A `Json` value keeps the entries of an object in order.  `Json.text` writes it without blanks; in
texts only quotes, backslashes and controls are escaped.
-/

namespace ScanService

/-- A number of a JSON text: whole if it was written so and fits sixty-four bits, else a double. -/
inductive Number where
  /-- A whole number. -/
  | whole (n : Int)
  /-- A double-precision number. -/
  | double (x : Binary64)
  deriving DecidableEq, Repr

/-- A JSON value. -/
inductive Json where
  /-- The value `null`. -/
  | null
  /-- A truth value. -/
  | bool (b : Bool)
  /-- A number. -/
  | number (n : Number)
  /-- A text. -/
  | text (s : String)
  /-- A list of values. -/
  | array (items : List Json)
  /-- A list of entries. -/
  | object (entries : List (String × Json))
  deriving Repr

instance : Inhabited Json := ⟨.null⟩

namespace Number

/-- The text of a number. -/
def chars : Number → List Char
  | whole n => if n < 0 then '-' :: Text.decimal n.natAbs else Text.decimal n.toNat
  | double x => x.chars

end Number

namespace Json

/-- A whole number. -/
def whole (n : Int) : Json := .number (.whole n)

/-- One character inside a JSON text. -/
def escape (c : Char) : List Char :=
  if c = '"' then ['\\', '"']
  else if c = '\\' then ['\\', '\\']
  else if c = '\n' then ['\\', 'n']
  else if c = '\r' then ['\\', 'r']
  else if c = '\t' then ['\\', 't']
  else if c.toNat = 8 then ['\\', 'b']
  else if c.toNat = 12 then ['\\', 'f']
  else if c.toNat < 32 then ['\\', 'u'] ++ Text.zeroPad 4 (Text.hexadecimal c.toNat)
  else [c]

/-- A text between quotes. -/
def textChars (s : String) : List Char := '"' :: s.toList.flatMap escape ++ ['"']

mutual

/-- The characters of the text of a value. -/
def chars : Json → List Char
  | null => "null".toList
  | bool true => "true".toList
  | bool false => "false".toList
  | number n => n.chars
  | text s => textChars s
  | array items => '[' :: itemChars items ++ [']']
  | object entries => '\x7b' :: entryChars entries ++ ['\x7d']

/-- Items with commas between them. -/
def itemChars : List Json → List Char
  | [] => []
  | [v] => chars v
  | v :: w :: rest => chars v ++ ',' :: itemChars (w :: rest)

/-- Entries with commas between them. -/
def entryChars : List (String × Json) → List Char
  | [] => []
  | [(k, v)] => textChars k ++ ':' :: chars v
  | (k, v) :: e :: rest => textChars k ++ ':' :: chars v ++ ',' :: entryChars (e :: rest)

end

/-- The text of a value, without blanks. -/
def toText (v : Json) : String := String.ofList v.chars

/-- The value of the first entry with a key. -/
def get? (v : Json) (key : String) : Option Json :=
  match v with
  | object entries => (entries.find? (·.1 == key)).map (·.2)
  | _ => none

/-- The text that a value is, if it is one. -/
def text? : Json → Option String
  | text s => some s
  | _ => none

end Json

/-- Types whose values are written as JSON. -/
class ToJson (α : Type) where
  /-- The JSON value that stands for a value. -/
  toJson : α → Json

export ToJson (toJson)

instance : ToJson Json := ⟨id⟩
instance : ToJson String := ⟨.text⟩
instance : ToJson Bool := ⟨.bool⟩
instance : ToJson Nat := ⟨fun n => .whole n⟩
instance : ToJson Int := ⟨.whole⟩
instance : ToJson Int32 := ⟨fun n => .whole n.toInt⟩

instance {α : Type} [ToJson α] : ToJson (Option α) where
  toJson
    | some a => toJson a
    | none => .null

instance {α : Type} [ToJson α] : ToJson (List α) := ⟨fun l => .array (l.map toJson)⟩

end ScanService
