import ScanService.Store.Memory

/-!
# A store that fails on purpose

`Faulty` is a store in memory some of whose calls fail as they are told to.  A call that is made to
fail does nothing; calls are counted for each operation.
-/

namespace ScanService
namespace Store

/-- An error to answer some calls with. -/
structure Fault where
  /-- The operation that fails. -/
  operation : String
  /-- Which of its calls fail, counted from zero; all of them if none are named. -/
  calls : Option (List Nat)
  /-- The error. -/
  error : ServiceError
  deriving DecidableEq

/-- A store in memory with faults. -/
structure Faulty where
  /-- What is stored. -/
  memory : Memory
  /-- The faults; the first that applies counts. -/
  faults : List Fault
  /-- The operations of all calls so far. -/
  history : List String
  deriving DecidableEq

namespace Faulty

/-- The error that the next call of an operation is answered with. -/
def error? (s : Faulty) (operation : String) : Option ServiceError :=
  let n := s.history.count operation
  (s.faults.find? fun f => f.operation == operation && (f.calls.all fun ns => ns.contains n)).map
    (·.error)

/-- The answer to a call, and the store after it. -/
def answer (c : Call) (s : Faulty) : c.Answer × Faulty :=
  let s' := { s with history := c.operation :: s.history }
  match s.error? c.operation with
  | some e => (.error e, s')
  | none =>
    let r := s.memory.answer c
    (r.1, { s' with memory := r.2 })

end Faulty
end Store
end ScanService
