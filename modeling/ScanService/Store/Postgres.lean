import ScanService.Store.Postgres.Query
import ScanService.Store.Postgres.Row

/-!
# The store in a database

`Postgres.answer` answers the calls of the store by statements to the database.  A filter that a table
cannot be filtered by fails before anything is sent; an insertion that meets a key already there is a
conflict; an update that changes no row has found nothing.
-/

namespace ScanService
namespace Store
namespace Postgres

/-- Work with the database that may fail. -/
abbrev Session (α : Type) : Type := ExceptT ServiceError (Program database) α

namespace Session

/-- Asks for rows. -/
def fetch (s : Statement) : Session (List Row) :=
  ExceptT.mk (.ask (I := database) (.fetch s) fun (r : Except DatabaseError (List Row)) =>
    .done (r.mapError .database))

/-- Asks for the number of rows changed; `onError` says what a failure means. -/
def execute (s : Statement) (onError : DatabaseError → ServiceError) : Session Nat :=
  ExceptT.mk (.ask (I := database) (.execute s) fun (r : Except DatabaseError Nat) =>
    .done (r.mapError onError))

/-- Begins a transaction. -/
def openTransaction : Session Unit :=
  ExceptT.mk (.ask (I := database) .openTransaction fun (r : Except DatabaseError Unit) =>
    .done (r.mapError .database))

/-- Ends a transaction, and keeps what it did. -/
def commit : Session Unit :=
  ExceptT.mk (.ask (I := database) .commit fun (r : Except DatabaseError Unit) =>
    .done (r.mapError .database))

/-- Runs a session as a transaction, which is undone if it fails. -/
def transaction (session : Session Unit) : Session Unit := do
  openTransaction
  ExceptT.mk (session.run.bind fun
    | .ok () => commit.run
    | .error e =>
      .ask (I := database) .rollback fun (_ : Except DatabaseError Unit) => .done (.error e))

end Session

/-- The code of the reason that a key is there already. -/
def uniqueViolation : String := "23505"

/-- What a failed insertion means. -/
def insertionError (what : String) : DatabaseError → ServiceError
  | .reported code message =>
    if code = uniqueViolation then .conflict (what ++ " already exists")
    else .database (.reported code message)
  | e => .database e

/-- A decoding that fails as the database does. -/
def decoded {α : Type} (r : Except DatabaseError α) : Except ServiceError α := r.mapError .database

/-- The record of the first row, if there is a row. -/
def firstOf {α : Type} (read : Row → Except DatabaseError α) :
    List Row → Except ServiceError (Option α)
  | [] => .ok none
  | row :: _ => (decoded (read row)).map some

/-- Runs an update; one that changes nothing has not found what was to be changed. -/
def update (s : Except ServiceError Statement) (onError : DatabaseError → ServiceError)
    (missing : ServiceError) : Session Unit := do
  let s ← s
  let count ← Session.execute s onError
  if count = 0 then throw missing

/-- Runs an insertion. -/
def insert (s : Statement) (what : String) : Session Unit := do
  let _ ← Session.execute s (insertionError what)
  return ()

/-- The analyses that a filter finds, with their jobs. -/
def analyses (f : Filter) (limit : String) : Session (List Analysis) := do
  let s ← selectAnalyses f limit
  let rows ← Session.fetch s
  let found ← decoded (rows.mapM Row.analysis)
  let jobRows ← Session.fetch (selectJobs (found.map (·.rid)))
  let jobs ← decoded (jobRows.mapM Row.job)
  return assemble found jobs

/-- Inserts the jobs of an analysis. -/
def insertJobs (rid : Uuid) : List Job → Session Unit
  | [] => return ()
  | j :: rest => do
    insert (insertJob rid j) "Job entry"
    insertJobs rid rest

/-- No job meets the filter. -/
def noJob : ServiceError := .notFound "Job not found"

/-- What a call of the store does. -/
def session : (c : Store.Call) → Session c.Result
  | .findRepository f => do
    let s ← selectRepository f
    let rows ← Session.fetch s
    firstOf Row.repository rows
  | .insertRepository r => insert (insertRepository r) ("Repository '" ++ r.url ++ "'")
  | .updateRepository f p => update (updateRepository f p) .database repositoryMissing
  | .findSecurityTest f => do
    let s ← selectSecurityTests f " LIMIT 1"
    let rows ← Session.fetch s
    firstOf Row.securityTest rows
  | .findSecurityTests f => do
    let s ← selectSecurityTests f " ORDER BY name ASC"
    let rows ← Session.fetch s
    decoded (rows.mapM Row.securityTest)
  | .insertSecurityTest t => insert (insertSecurityTest t) ("Security test '" ++ t.name ++ "'")
  | .findAnalysis f => do
    let found ← analyses f " LIMIT 1"
    return found.head?
  | .findAnalyses f => analyses f ""
  | .insertAnalysis a => Session.transaction (do
    insert (insertAnalysis a) ("Analysis " ++ a.rid.text)
    insertJobs a.rid a.jobs)
  | .updateAnalysis f p => update (updateAnalysis f p) .database analysisMissing
  | .pushJob f j => update (pushJob f j) (insertionError "Job entry") analysisMissing
  | .updateJob f p =>
    if (f.valueOf? .executionId).isNone then throw jobUnnamed
    else update (updateJob f p) .database noJob
  | .ping => do
    let _ ← Session.execute ⟨[.words "SELECT 1"], []⟩ .database
    return ()

/-- Answers a call of the store by statements to the database. -/
def answer (c : Store.Call) : Program database c.Answer := (session c).run

end Postgres
end Store
end ScanService
