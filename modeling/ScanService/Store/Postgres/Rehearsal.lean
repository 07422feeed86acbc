import ScanService.Store.Postgres.Statement

/-!
# A database that follows a script

`Rehearsal` answers the statements of a client from a list of replies, in order, and remembers what it
was sent.  Where the list leaves a reply open, and when it is used up, a query finds no rows and any
other statement changes one.  The bounds of a transaction always succeed, and use up no reply.
-/

namespace ScanService
namespace Store
namespace Postgres

/-- A reply to a statement. -/
inductive Reply where
  /-- These rows. -/
  | rows (rows : List Row)
  /-- So many rows changed. -/
  | count (n : Nat)
  /-- A refusal, with the code of its reason. -/
  | refusal (code message : String)

namespace Reply

/-- A reply to a query. -/
def toRows : Reply → Except DatabaseError (List Row)
  | rows rs => .ok rs
  | count _ => .ok []
  | refusal code message => .error (.reported code message)

/-- A reply to a statement that changes rows. -/
def toCount : Reply → Except DatabaseError Nat
  | rows rs => .ok rs.length
  | count n => .ok n
  | refusal code message => .error (.reported code message)

end Reply

/-- A database on script. -/
structure Rehearsal where
  /-- The replies to come. -/
  replies : List (Option Reply)
  /-- What it was sent, latest first. -/
  sent : List Call

namespace Rehearsal

/-- A database at the beginning of its script. -/
def start (replies : List (Option Reply)) : Rehearsal := ⟨replies, []⟩

/-- Takes the next reply, or a default where it is open. -/
def take (c : Call) (default : Reply) (s : Rehearsal) : Reply × Rehearsal :=
  ((s.replies.head?.join).getD default, ⟨s.replies.tail, c :: s.sent⟩)

/-- The answer to a question, and the database after it. -/
def answer : (c : Call) → Rehearsal → c.Answer × Rehearsal
  | .fetch q, s =>
    let (r, s) := s.take (.fetch q) (.rows [])
    (r.toRows, s)
  | .execute q, s =>
    let (r, s) := s.take (.execute q) (.count 1)
    (r.toCount, s)
  | .openTransaction, s => (.ok (), { s with sent := .openTransaction :: s.sent })
  | .commit, s => (.ok (), { s with sent := .commit :: s.sent })
  | .rollback, s => (.ok (), { s with sent := .rollback :: s.sent })

end Rehearsal
end Postgres
end Store
end ScanService
