import ScanService.Json.Read

/-!
# Why a text is not read as a record

A text that is not read as a record has a first place at which reading it cannot go on.  The fault
there is one of `syntax`, when the text is no JSON text or a part that is needed has no value, or of
`data`, when a part is there but is not what the record wants.

`Shape.faultOf` finds that place: it walks the document in the order of the text, with a `Shape` that
says what the record wants.  A text that breaks off is walked as the document in front of the break,
with `Document.broken` in the place where it breaks.
-/

namespace ScanService
namespace Json

/-- The kinds of faults of a text. -/
inductive Fault where
  /-- The text is no JSON text, or a part of it has no value. -/
  | syntaxError
  /-- A part of the text is not what is wanted. -/
  | data
  deriving DecidableEq, Repr

/-- When a member of a record need not be there. -/
inductive Presence where
  /-- It always has to be there. -/
  | required
  /-- An object may lack it. -/
  | optional
  /-- An object may lack it, and an array may break off before it. -/
  | defaulted
  deriving DecidableEq, Repr

/-- What is wanted of a document. -/
inductive Shape where
  | text
  | bool
  | int32
  /-- A document that may be `null`. -/
  | nullable (shape : Shape)
  | list (shape : Shape)
  /-- An object with these members, or the array of them. -/
  | record (members : List (Member × Presence × Shape))

namespace Document

/-- Closes the open arrays and objects behind a part. -/
def close (d : Document) : List Frame → Document
  | [] => d
  | .items done :: rest => close (.array (d :: done).reverse) rest
  | .entries done key :: rest => close (.object ((key, d) :: done).reverse) rest

/-- The document that breaks off where something is due. -/
def abandon : Due → Document
  | .value open_ => close .broken open_
  | .firstItem open_ => close (.array [.broken]) open_
  | .firstKey open_ => close (.object [(none, .broken)]) open_
  | .key done open_ | .entryEnd done open_ =>
    close (.object ((none, .broken) :: done).reverse) open_
  | .colon done key open_ => close (.object ((key, .broken) :: done).reverse) open_
  | .itemEnd done open_ => close (.array (.broken :: done).reverse) open_
  | .nothing d => d

/-- Builds a document as far as the tokens allow it. -/
def salvageTokens (due : Due) : List Token → Document
  | [] => abandon due
  | t :: rest =>
    match step due t with
    | some next => salvageTokens next rest
    | none => abandon due

/-- The document of a text up to the place where it breaks off. -/
def salvage (s : List Char) : Document := salvageTokens (.value []) (Token.salvage s)

mutual

/-- Whether a document that is skipped breaks off. -/
def breaks : Document → Bool
  | .broken => true
  | .array items => itemsBreak items
  | .object entries => entriesBreak entries
  | _ => false

/-- Whether one of some items breaks off. -/
def itemsBreak : List Document → Bool
  | [] => false
  | d :: rest => breaks d || itemsBreak rest

/-- Whether one of some entries breaks off. -/
def entriesBreak : List (Option String × Document) → Bool
  | [] => false
  | (_, d) :: rest => breaks d || entriesBreak rest

end

/-- The fault of a document where something else is wanted; its value is looked at first. -/
def mismatch : Document → Fault
  | .broken | .number none | .text none => .syntaxError
  | _ => .data

end Document

open Document (mismatch breaks)

mutual

/-- The first fault of a document, nested at most `levels` deep. -/
def Shape.fault? (levels : Nat) : Shape → Document → Option Fault
  | .nullable _, .null => none
  | .nullable shape, d => shape.fault? levels d
  | .text, .text (some _) | .bool, .bool _ => none
  | .int32, .number (some (.whole n)) =>
    if -2147483648 ≤ n ∧ n ≤ 2147483647 then none else some .data
  | .list shape, .array items =>
    if levels = 0 then some .syntaxError else shape.listFault? (levels - 1) items
  | .record members, .array items =>
    if levels = 0 then some .syntaxError else membersFault? (levels - 1) members items
  | .record members, .object entries =>
    if levels = 0 then some .syntaxError else entriesFault? (levels - 1) members [] entries
  | _, d => some (mismatch d)
termination_by s d => (sizeOf d, sizeOf s)

/-- The first fault of the items of a list. -/
def Shape.listFault? (levels : Nat) (shape : Shape) : List Document → Option Fault
  | [] => none
  | d :: rest =>
    match shape.fault? levels d with
    | some f => some f
    | none => shape.listFault? levels rest
termination_by ds => (sizeOf ds, 0)

/-- The first fault of the items of an array that stands for a record. -/
def membersFault? (levels : Nat) :
    List (Member × Presence × Shape) → List Document → Option Fault
  | [], [] => none
  | [], _ :: _ => some .syntaxError
  | members, [] => if members.all fun m => m.2.1 = .defaulted then none else some .data
  | (_, _, shape) :: members, d :: rest =>
    match shape.fault? levels d with
    | some f => some f
    | none => membersFault? levels members rest
termination_by _ ds => (sizeOf ds, 0)

/-- The first fault of the entries of an object, behind those that gave the members `seen`. -/
def entriesFault? (levels : Nat) (members : List (Member × Presence × Shape))
    (seen : List String) : List (Option String × Document) → Option Fault
  | [] =>
    if members.all fun m => m.2.1 ≠ .required || seen.contains m.1.name then none else some .data
  | (none, _) :: _ => some .syntaxError
  | (some key, d) :: rest =>
    match members.find? fun m => m.1.isNamed key with
    | some (m, _, shape) =>
      if seen.contains m.name then some .data
      else
        match shape.fault? levels d with
        | some f => some f
        | none => entriesFault? levels members (m.name :: seen) rest
    | none => if breaks d then some .syntaxError else entriesFault? levels members seen rest
termination_by es => (sizeOf es, 0)

end

/-- The fault of a text that is not read.  If there is none in its document, the fault is behind
it. -/
def Shape.faultOf (shape : Shape) (s : String) : Fault :=
  (shape.fault? nestingLimit (Document.salvage s.toList)).getD .syntaxError

end Json
end ScanService
