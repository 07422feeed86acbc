import ScanService.Json.Value
import ScanService.Time.Timestamp
import ScanService.Uuid

/-!
# Reading records from JSON documents

`FromJson` says how a type is read from a document.  A record is written as an object, or as the
array of its members in the order of their declaration:

* in an object, unknown members are skipped, and a known one must not be there twice, under
  whichever of its names;
* an array may not be longer than the record, and may break off only before members that have a
  value of their own for that case.

`Record.required`, `Record.optional` and `Record.orElse` are the three kinds of members.
-/

namespace ScanService

open Json (Document)

/-- Types that are read from JSON documents. -/
class FromJson (α : Type) where
  /-- Reads a value from a document, nested at most `levels` deep. -/
  read? (levels : Nat) (d : Document) : Option α

namespace FromJson

/-- Reads a value from a text. -/
def ofText? {α : Type} [FromJson α] (s : String) : Option α :=
  (Document.parse? s.toList).bind (read? nestingLimit)

/-- Reads the entries of an object from a text. -/
def entriesOfText? (s : String) : Option (List (String × Json)) :=
  (Document.parse? s.toList).bind (Document.toEntries? nestingLimit)

/-- Reads a word that stands for a value, written as a text or as the key of a `null`. -/
def readWord? {α : Type} (words : List (String × α)) (levels : Nat) : Document → Option α
  | .text (some s) => words.lookup s
  | .object [(some s, .null)] => if levels = 0 then none else words.lookup s
  | _ => none

end FromJson

open FromJson (read?)

instance : FromJson Json := ⟨fun levels d => d.toJson? levels⟩

instance : FromJson String where
  read?
    | _, .text s => s
    | _, _ => none

instance : FromJson Bool where
  read?
    | _, .bool b => some b
    | _, _ => none

/-- A whole number of either sign. -/
def readWhole? : Document → Option Int
  | .number (some (.whole n)) => some n
  | _ => none

instance : FromJson Nat where
  read? _ d := (readWhole? d).bind fun n => if 0 ≤ n then some n.toNat else none

instance : FromJson Int32 where
  read? _ d := (readWhole? d).bind fun n =>
    if -2147483648 ≤ n ∧ n ≤ 2147483647 then some (Int32.ofInt n) else none

instance : FromJson Int64 where
  read? _ d := (readWhole? d).bind fun n =>
    if -9223372036854775808 ≤ n ∧ n ≤ 9223372036854775807 then some (Int64.ofInt n) else none

instance {α : Type} [FromJson α] : FromJson (Option α) where
  read?
    | _, .null => some none
    | levels, d => (read? levels d).map some

instance {α : Type} [FromJson α] : FromJson (List α) where
  read?
    | levels + 1, .array items => items.mapM (read? levels)
    | _, _ => none

instance : ToJson Timestamp := ⟨fun t => .text t.text⟩
instance : ToJson Uuid := ⟨fun u => .text u.text⟩

instance : FromJson Timestamp where
  read? levels d := (read? levels d : Option String).bind fun s => Timestamp.parse? s.toList

instance : FromJson Uuid where
  read? levels d := (read? levels d : Option String).bind fun s => Uuid.parse? s.toList

/-! ## Records -/

/-- A member of a record: its name, and other names under which it is read. -/
structure Member where
  /-- The name it is written under. -/
  name : String
  /-- Further names it is read under. -/
  aliases : List String := []
  deriving DecidableEq, Repr

namespace Member

/-- Whether a key names the member. -/
def isNamed (m : Member) (key : String) : Bool := key == m.name || m.aliases.contains key

end Member

/-- What a record's document says about a member. -/
inductive Slot where
  /-- It is there. -/
  | given (d : Document)
  /-- An object lacks it. -/
  | missing
  /-- An array broke off before it. -/
  | beyond
  deriving Repr, Inhabited

/-- The members of a record as found in a document. -/
structure Record where
  /-- How deep the members may be nested. -/
  levels : Nat
  /-- What there is for each member, by its name. -/
  slots : List (String × Slot)
  deriving Repr

namespace Record

/-- The entries of an object for one member: none or one. -/
def find? (entries : List (Option String × Document)) (m : Member) : Option Slot :=
  match entries.filter fun e => e.1.any m.isNamed with
  | [] => some .missing
  | [(_, d)] => some (.given d)
  | _ => none

/-- Distributes the items of an array over the members. -/
def distribute : List Member → List Document → Option (List (String × Slot))
  | [], [] => some []
  | [], _ :: _ => none
  | m :: ms, [] => (distribute ms []).map ((m.name, .beyond) :: ·)
  | m :: ms, d :: ds => (distribute ms ds).map ((m.name, .given d) :: ·)

/-- Reads the members of a record. -/
def ofDocument? (members : List Member) : Nat → Document → Option Record
  | levels + 1, .object entries =>
    if entries.all (·.1.isSome) then
      (members.mapM fun m => (find? entries m).map fun s => (m.name, s)).map fun slots =>
        ⟨levels, slots⟩
    else none
  | levels + 1, .array items => (distribute members items).map fun slots => ⟨levels, slots⟩
  | _, _ => none

/-- What there is for a member. -/
def slot (r : Record) (name : String) : Slot := (r.slots.lookup name).getD .missing

/-- A member that has to be there. -/
def required {α : Type} [FromJson α] (r : Record) (name : String) : Option α :=
  match r.slot name with
  | .given d => read? r.levels d
  | _ => none

/-- A member that an object may lack. -/
def optional {α : Type} [FromJson α] (r : Record) (name : String) : Option (Option α) :=
  match r.slot name with
  | .given d => read? r.levels d
  | .missing => some none
  | .beyond => none

/-- A member with a value of its own where it is not there. -/
def orElse {α : Type} [FromJson α] (r : Record) (name : String) (default : α) : Option α :=
  match r.slot name with
  | .given d => read? r.levels d
  | _ => some default

end Record

end ScanService
