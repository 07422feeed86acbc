/-!
# Media types

A media type is two words with a slash between them, and parameters behind them.  The second word may
end in a suffix behind a plus sign, which tells the format.  Case does not matter.

* `MediaType.parse?` reads the text of a media type.
* `MediaType.isJson` tells those whose format is JSON.
-/

namespace ScanService
namespace Api

/-- A media type without its parameters, in small letters. -/
structure MediaType where
  /-- The word in front of the slash. -/
  kind : List Char
  /-- The word behind the slash, without its suffix. -/
  subtype : List Char
  /-- What stands behind the last plus sign. -/
  suffix : Option (List Char)
  deriving DecidableEq, Repr

namespace MediaType

/-- Characters of the words of a media type. -/
def isWordChar (c : Char) : Bool := c.isAlphanum || "!#$%&'*+-.^_\x60|~".toList.contains c

/-- Characters between quotes. -/
def isQuotedChar (c : Char) : Bool := 32 ≤ c.toNat && c.toNat < 127

/-- Where the scan of the parameters stands. -/
inductive Scan where
  /-- In front of a name. -/
  | start
  /-- In a name. -/
  | name
  /-- In front of a value. -/
  | equals
  /-- In a value. -/
  | value
  /-- Behind the quote that opens a value. -/
  | opened
  /-- In a value between quotes. -/
  | quoted
  /-- Behind the quote that closes a value. -/
  | closed
  deriving DecidableEq, Repr

/-- One character of the parameters. -/
def Scan.step : Scan → Char → Option Scan
  | start, c => if c = ' ' then some start else if isWordChar c then some name else none
  | name, c => if c = '=' then some equals else if isWordChar c then some name else none
  | equals, c => if c = '"' then some opened else if isWordChar c then some value else none
  | value, c => if c = ';' then some start else if isWordChar c then some value else none
  | opened, c => if isQuotedChar c then some quoted else none
  | quoted, c => if c = '"' then some closed else if isQuotedChar c then some quoted else none
  | closed, c => if c = ';' then some start else if c = ' ' then some closed else none

/-- The parameters may end here. -/
def Scan.isEnd : Scan → Bool
  | start | equals | value | closed => true
  | name | opened | quoted => false

/-- Whether a text is a list of parameters with semicolons between them. -/
def areParameters (s : List Char) : Bool := (s.foldlM Scan.step .start).any Scan.isEnd

/-- Takes the suffix off a word: what follows the last plus sign, unless the word begins with that. -/
def splitSuffix (s : List Char) : List Char × Option (List Char) :=
  let suffix := (s.reverse.takeWhile (· != '+')).reverse
  let rest := s.take (s.length - suffix.length - 1)
  if suffix.length < s.length ∧ rest ≠ [] then (rest, some suffix) else (s, none)

/-- Reads the text of a media type. -/
def parse? (s : List Char) : Option MediaType :=
  let kind := s.takeWhile isWordChar
  match kind, s.dropWhile isWordChar with
  | _ :: _, '/' :: s =>
    let word := (s.takeWhile isWordChar).map Char.toLower
    let (subtype, suffix) := splitSuffix word
    match word, s.dropWhile isWordChar with
    | _, [] => some ⟨kind.map Char.toLower, subtype, suffix⟩
    | _ :: _, ';' :: s =>
      if areParameters s then some ⟨kind.map Char.toLower, subtype, suffix⟩ else none
    | _, _ => none
  | _, _ => none

/-- Whether the format of a media type is JSON. -/
def isJson (m : MediaType) : Bool :=
  m.kind == "application".toList
    && (m.subtype == "json".toList || m.suffix == some "json".toList)

end MediaType
end Api
end ScanService
