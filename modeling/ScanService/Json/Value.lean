import ScanService.Json.Document

/-!
# Documents and values

`Document.toJson?` reads a document as a value.  Everything in the document must have a value, and it
may be nested only so deep; of equal keys the first keeps the place and the last gives the value.

An object that begins with `embeddingKey` is not read as an object.  It stands for another value, whose
text it holds under that key, and it may hold nothing else.  That text is read as a text of its own:
it may have blanks around it, it is nested as deep as any other, and there may be texts embedded in it
in turn.

* `Document.toEntries?` reads the entries of an object as they are, whatever the first key; the values
  in them are read as above.
* `Document.isReadable` says whether everything in a document has a value, without looking for
  embedded texts.
* `Document.ofJson` is the document that a value is written as.
-/

namespace ScanService

/-- How deep a document may be nested where it is read. -/
def nestingLimit : Nat := 127

namespace Json
namespace Document

/-! ## Embedded texts -/

/-- The key under which an object holds the text of the value it stands for. -/
def embeddingKey : String := "$serde_json::private::RawValue"

/-- Whether an object with these entries stands for another value. -/
def isEmbedding : List (Option String × Document) → Bool
  | (some key, _) :: _ => key == embeddingKey
  | _ => false

/-- The text that the only entry of an object holds. -/
def soleText? : List (Option String × Document) → Option String
  | [(_, .text s)] => s
  | _ => none

/-! ## Reading as a value -/

/-- Gives a key a value: in its place if it is there, else behind all others. -/
def putEntry (entries : List (String × Json)) (key : String) (value : Json) :
    List (String × Json) :=
  match entries with
  | [] => [(key, value)]
  | (k, v) :: rest => if k = key then (k, value) :: rest else (k, v) :: putEntry rest key value

mutual

/-- Reads a document as a value, nested at most `levels` deep; `embedded` reads embedded texts. -/
def valueWith? (embedded : String → Option Json) (levels : Nat) : Document → Option Json
  | null => some .null
  | bool b => some (.bool b)
  | number n => n.map .number
  | text s => s.map .text
  | array items =>
    if levels = 0 then none else (itemsWith? embedded (levels - 1) items).map .array
  | object entries =>
    if levels = 0 then none
    else if isEmbedding entries then (soleText? entries).bind embedded
    else (entriesWith? embedded (levels - 1) entries []).map .object
  | broken => none

/-- Reads items in order. -/
def itemsWith? (embedded : String → Option Json) (levels : Nat) :
    List Document → Option (List Json)
  | [] => some []
  | d :: rest =>
    match valueWith? embedded levels d with
    | none => none
    | some v => (itemsWith? embedded levels rest).map (v :: ·)

/-- Reads entries in order, behind those of `done`. -/
def entriesWith? (embedded : String → Option Json) (levels : Nat) :
    List (Option String × Document) → List (String × Json) → Option (List (String × Json))
  | [], done => some done
  | (none, _) :: _, _ => none
  | (some key, d) :: rest, done =>
    match valueWith? embedded levels d with
    | none => none
    | some v => entriesWith? embedded levels rest (putEntry done key v)

end

/-- Reads a text as a value, there being at most `depth` texts inside one another, itself included. -/
def textWithin? : Nat → String → Option Json
  | 0, _ => none
  | depth + 1, s => (parse? s.toList).bind (valueWith? (textWithin? depth) nestingLimit)

/-- Reads an embedded text.  A text is shorter than the one it is embedded in, so there cannot be more
of them inside one another than the outermost has characters. -/
def embedded? (s : String) : Option Json := textWithin? s.length s

/-- Reads a document as a value, nested at most `levels` deep. -/
def toJson? (levels : Nat) (d : Document) : Option Json := valueWith? embedded? levels d

/-- Reads the entries of an object, nested at most `levels` deep. -/
def toEntries? : Nat → Document → Option (List (String × Json))
  | levels + 1, object entries => entriesWith? embedded? levels entries []
  | _, _ => none

/-! ## Documents without faults -/

mutual

/-- Whether everything in a document has a value, and it is nested at most `levels` deep. -/
def isReadable (levels : Nat) : Document → Bool
  | null | bool _ => true
  | number n => n.isSome
  | text s => s.isSome
  | array items => levels != 0 && itemsReadable (levels - 1) items
  | object entries => levels != 0 && entriesReadable (levels - 1) entries
  | broken => false

/-- Whether everything in some items has a value. -/
def itemsReadable (levels : Nat) : List Document → Bool
  | [] => true
  | d :: rest => isReadable levels d && itemsReadable levels rest

/-- Whether everything in some entries has a value. -/
def entriesReadable (levels : Nat) : List (Option String × Document) → Bool
  | [] => true
  | (key, d) :: rest => key.isSome && isReadable levels d && entriesReadable levels rest

end

/-! ## Values as documents -/

mutual

/-- The document that a value is written as. -/
def ofJson : Json → Document
  | .null => null
  | .bool b => bool b
  | .number n => number (some n)
  | .text s => text (some s)
  | .array items => array (ofItems items)
  | .object entries => object (ofEntries entries)

/-- Items as documents. -/
def ofItems : List Json → List Document
  | [] => []
  | v :: rest => ofJson v :: ofItems rest

/-- Entries as documents. -/
def ofEntries : List (String × Json) → List (Option String × Document)
  | [] => []
  | (k, v) :: rest => (some k, ofJson v) :: ofEntries rest

end

end Document
end Json
end ScanService
