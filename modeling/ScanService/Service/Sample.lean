import ScanService.Service.Config
import ScanService.Service.Defaults
import ScanService.Service.Registration

/-!
# Sample data

`populate` fills a store for development: with the built-in tests, and with repositories to try them
on.  What is there already is passed over, so it can be done again.

`seed` is the program that does it: it fills the store that the environment names, and begins with
nothing if the environment names none.
-/

namespace ScanService
namespace Service

/-- The sample repositories. -/
def sampleRepositories : List RepositoryForm :=
  [{ url := "https://github.com/globocom/huskyCI.git", vm := none, securityTestNames := [] },
    { url := "https://github.com/PyCQA/bandit.git", vm := none,
      securityTestNames := ["bandit", "safety"] }]

/-- What is told while a store is filled. -/
inductive Progress where
  /-- The work begins. -/
  | begun
  /-- So many built-in tests were missing. -/
  | defaultsRegistered (count : Nat)
  /-- A repository has been registered. -/
  | repositoryRegistered (url : String) (tests : Nat)
  /-- A repository was there already. -/
  | repositoryKnown (url : String)
  /-- The work is done. -/
  | ended
  deriving DecidableEq, Repr

/-- The lines that tell of a piece of work. -/
def Progress.lines : Progress → List String
  | begun => ["=== scanforge Seed Script ==="]
  | defaultsRegistered 0 => ["[skip] Default security tests already exist"]
  | defaultsRegistered count =>
    ["[done] Inserted " ++ Text.decimalText count ++ " default security tests"]
  | repositoryRegistered url tests =>
    ["[done] Registered " ++ url ++ " with " ++ Text.decimalText tests ++ " security tests"]
  | repositoryKnown url => ["[skip] " ++ url ++ " already registered"]
  | ended => ["", "=== Seed complete! ==="]

/-- Why a store is not filled. -/
inductive PopulationError where
  /-- The environment names no database. -/
  | unconfigured (why : ConfigError)
  /-- Something could not be registered. -/
  | failed (why : ServiceError)
  deriving DecidableEq, Repr

/-- The text of an error. -/
def PopulationError.message : PopulationError → String
  | unconfigured why => why.message
  | failed why => why.message

/-- What came of filling a store. -/
structure Population where
  /-- What was told, in order. -/
  progress : List Progress
  /-- What it failed with, if it did. -/
  failure : Option PopulationError
  deriving DecidableEq, Repr

/-- The same with something told before. -/
def Population.after (p : Progress) (q : Population) : Population :=
  { q with progress := p :: q.progress }

/-- Registers repositories, until that fails. -/
def registerSamples : List RepositoryForm → Task Population
  | [] => return ⟨[.ended], none⟩
  | form :: rest => do
    match ← (registerRepository form).run with
    | .ok r =>
      return (← registerSamples rest).after (.repositoryRegistered r.url r.securityTests.length)
    | .error e =>
      if e.isConflict then return (← registerSamples rest).after (.repositoryKnown form.url)
      else return ⟨[], some (.failed e)⟩

/-- Fills a store. -/
def populate : Task Population := do
  let ensured ← ensureTests builtinTests
  match ensured.failure with
  | some e => return ⟨[.begun], some (.failed e)⟩
  | none =>
    let samples ← registerSamples sampleRepositories
    return (samples.after (.defaultsRegistered ensured.registered.length)).after .begun

/-- Fills the store that an environment names. -/
def seed (env : String → Variable) : Task Population :=
  match Config.databaseUrl? env with
  | .error e => return ⟨[], some (.unconfigured e)⟩
  | .ok _ => populate

end Service
end ScanService
