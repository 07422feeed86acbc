import ScanService.Service.Activity

/-!
# Repeating calls to the backend

Pulling an image, creating a unit and starting it are tried again after a failure that may pass, a
limited number of times and with a pause before each further attempt.  All other calls are made once.
-/

namespace ScanService
namespace Service

/-- How often a call is made, and how long to pause before it is made again. -/
structure RetryPolicy where
  /-- The number of attempts, the first one included; none counts as one. -/
  attempts : Nat
  /-- The pause between two attempts. -/
  delay : Duration
  deriving DecidableEq

/-- Makes a call, and again up to `more` times. -/
def attempt (delay : Duration) (c : Execution.Call) : Nat → Task c.Answer
  | 0 => Task.backend c
  | more + 1 => do
    match ← Task.backend c with
    | .ok v => return .ok v
    | .error e =>
      if e.isTransient then
        Task.sleep delay
        attempt delay c more
      else return .error e

namespace RetryPolicy

/-- Whether a call is made again after a failure that may pass. -/
def repeats : Execution.Call → Bool
  | .pullImage _ | .createUnit _ _ _ | .startUnit _ => true
  | _ => false

/-- Makes a call as often as the policy wants. -/
def backend (p : RetryPolicy) (c : Execution.Call) : Task c.Answer :=
  attempt p.delay c (if repeats c then p.attempts - 1 else 0)

/-- A task all of whose calls to the backend follow the policy. -/
def apply {α : Type} (p : RetryPolicy) (t : Task α) : Task α :=
  Program.refine (I := activity) (J := activity)
    (fun
      | .backend c => p.backend c
      | c => Program.call (I := activity) c) t

end RetryPolicy
end Service
end ScanService
