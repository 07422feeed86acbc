import ScanService.Error
import ScanService.Json.Basic
import ScanService.Program
import ScanService.Time.Timestamp
import ScanService.Uuid

/-!
# Statements to the database

A statement is a text with numbered placeholders, and the data that stand for them.  Its text is made
of pieces that are fixed and of placeholders, never of data.

* `Statement.sql` is the text, with the placeholder of the `n`-th datum written `$n`.
* `database` is what a client may ask the database: rows, the number of rows a statement has changed,
  and the bounds of a transaction.
-/

namespace ScanService
namespace Store
namespace Postgres

/-- What a column of a row holds, or what stands for a placeholder. -/
inductive Datum where
  | null
  | text (s : String)
  | bool (b : Bool)
  | int (n : Int32)
  | json (v : Json)
  | time (t : Timestamp)
  | uuid (u : Uuid)
  | uuids (us : List Uuid)
  /-- A value of an enumeration, by its label. -/
  | label (s : String)

namespace Datum

/-- A datum that may be missing. -/
def ofOption {α : Type} (f : α → Datum) : Option α → Datum
  | some a => f a
  | none => null

/-- A datum of JSON. -/
def ofRecord {α : Type} [ToJson α] (a : α) : Datum := json (toJson a)

/-- A point in time, as precise as the database is. -/
def ofTime (t : Timestamp) : Datum := time t.toMicros

end Datum

/-- A piece of the text of a statement. -/
inductive Piece where
  /-- A fixed text. -/
  | words (s : String)
  /-- The place of a datum. -/
  | slot (n : Nat)
  deriving DecidableEq, Repr

namespace Piece

/-- The text of a piece. -/
def text : Piece → String
  | words s => s
  | slot n => "$" ++ Text.decimalText n

/-- The number of a placeholder. -/
def slot? : Piece → Option Nat
  | slot n => some n
  | words _ => none

end Piece

/-- A text with placeholders and the data that stand for them. -/
structure Statement where
  /-- The pieces of the text. -/
  pieces : List Piece
  /-- The data. -/
  data : List Datum

namespace Statement

/-- The text of a statement. -/
def sql (s : Statement) : String := String.join (s.pieces.map Piece.text)

/-- The numbers of the placeholders of a statement, as they occur. -/
def slots (s : Statement) : List Nat := s.pieces.filterMap Piece.slot?

end Statement

/-- A row, by the names of its columns. -/
abbrev Row := List (String × Datum)

/-- A question to the database. -/
inductive Call where
  /-- The rows that a statement selects. -/
  | fetch (s : Statement)
  /-- How many rows a statement changes. -/
  | execute (s : Statement)
  /-- Begins a transaction. -/
  | openTransaction
  /-- Ends a transaction, and keeps what it did. -/
  | commit
  /-- Ends a transaction, and undoes what it did. -/
  | rollback

namespace Call

/-- The text of a question. -/
def sql : Call → String
  | fetch s | execute s => s.sql
  | openTransaction => "BEGIN"
  | commit => "COMMIT"
  | rollback => "ROLLBACK"

/-- The data of a question, if it takes any. -/
def data? : Call → Option (List Datum)
  | fetch s | execute s => some s.data
  | openTransaction | commit | rollback => none

/-- The answer to a question. -/
def Answer : Call → Type
  | fetch _ => Except DatabaseError (List Row)
  | execute _ => Except DatabaseError Nat
  | openTransaction | commit | rollback => Except DatabaseError Unit

end Call

/-- The questions to the database. -/
def database : Interface := ⟨Call, Call.Answer⟩

end Postgres
end Store
end ScanService
