import ScanService.Json.Token

/-!
# JSON documents, as written

A `Document` is the tree of a JSON text before anything is read from it: repeated keys are still
there, and so are texts and numbers without a value.  What is skipped in reading is never looked at
more closely, so all this can stand in a document that is read.

* `Document.ofTokens?` builds the tree, one token at a time.
* `Document.parse?` is the tree of a text.
-/

namespace ScanService
namespace Json

/-- The tree of a JSON text. -/
inductive Document where
  | null
  | bool (b : Bool)
  | number (n : Option Number)
  | text (s : Option String)
  | array (items : List Document)
  | object (entries : List (Option String × Document))
  /-- The place where a text breaks off; `Document.parse?` never puts it in a tree. -/
  | broken
  deriving Repr

instance : Inhabited Document := ⟨.null⟩

namespace Document

/-- An array or object that is not closed yet, its parts latest first. -/
inductive Frame where
  | items (done : List Document)
  | entries (done : List (Option String × Document)) (key : Option String)
  deriving Repr

/-- What is due next, inside the open arrays and objects. -/
inductive Due where
  /-- A value. -/
  | value (open_ : List Frame)
  /-- The first item of an array, or its end. -/
  | firstItem (open_ : List Frame)
  /-- The first key of an object, or its end. -/
  | firstKey (open_ : List Frame)
  /-- A further key. -/
  | key (done : List (Option String × Document)) (open_ : List Frame)
  /-- The colon behind a key. -/
  | colon (done : List (Option String × Document)) (key : Option String) (open_ : List Frame)
  /-- A comma or the end of an array. -/
  | itemEnd (done : List Document) (open_ : List Frame)
  /-- A comma or the end of an object. -/
  | entryEnd (done : List (Option String × Document)) (open_ : List Frame)
  /-- Nothing: the document is complete. -/
  | nothing (document : Document)
  deriving Repr

/-- What is due behind a value. -/
def deliver (d : Document) : List Frame → Due
  | [] => .nothing d
  | .items done :: rest => .itemEnd (d :: done) rest
  | .entries done key :: rest => .entryEnd ((key, d) :: done) rest

/-- A token where a value is due. -/
def beginValue (open_ : List Frame) : Token → Option Due
  | .null => some (deliver .null open_)
  | .bool b => some (deliver (.bool b) open_)
  | .number n => some (deliver (.number n) open_)
  | .text s => some (deliver (.text s) open_)
  | .openArray => some (.firstItem open_)
  | .openObject => some (.firstKey open_)
  | _ => none

/-- One token. -/
def step : Due → Token → Option Due
  | .value open_, t => beginValue open_ t
  | .firstItem open_, .closeArray => some (deliver (.array []) open_)
  | .firstItem open_, t => beginValue (.items [] :: open_) t
  | .firstKey open_, .closeObject => some (deliver (.object []) open_)
  | .firstKey open_, .text k => some (.colon [] k open_)
  | .key done open_, .text k => some (.colon done k open_)
  | .colon done k open_, .colon => some (.value (.entries done k :: open_))
  | .itemEnd done open_, .comma => some (.value (.items done :: open_))
  | .itemEnd done open_, .closeArray => some (deliver (.array done.reverse) open_)
  | .entryEnd done open_, .comma => some (.key done open_)
  | .entryEnd done open_, .closeObject => some (deliver (.object done.reverse) open_)
  | _, _ => none

/-- The tree of a list of tokens. -/
def ofTokens? (tokens : List Token) : Option Document :=
  match tokens.foldlM step (.value []) with
  | some (.nothing d) => some d
  | _ => none

/-- The tree of a text. -/
def parse? (s : List Char) : Option Document :=
  (Token.ofChars? s).bind ofTokens?

end Document
end Json
end ScanService
