import ScanService.Distinct
import ScanService.Service.Activity

/-!
# Registering repositories and security tests

A repository is registered under its URL without blank ends.  Its form may name tests: of the
different names the first eight are looked up, and those that are unknown are passed over.  A form
that names none gets the generic default tests.
-/

namespace ScanService
namespace Service

/-- How many different tests a repository's form may name. -/
def maxNamedTests : Nat := 8

/-- A form that breaks rules is refused. -/
def checkForm (violations : List Violation) : Action Unit :=
  if violations.isEmpty then pure () else throw (.validation (Violation.report violations))

/-- The names that a form asks for, as they are looked up. -/
def requestedNames (names : List String) : List String :=
  (distinct ((names.map fun n => Text.lowercase (Text.trim n)).filter fun n => !n.isEmpty)).take
    maxNamedTests

/-- The registered tests of some names. -/
def testsNamed : List String → Action (List SecurityTest)
  | [] => return []
  | name :: rest => do
    let test : Option SecurityTest ← Action.store (.findSecurityTest (.name name))
    let tests ← testsNamed rest
    return test.toList ++ tests

/-- The tests to attach to a repository whose form asks for some names. -/
def testsToAttach (names : List String) : Action (List SecurityTest) :=
  if names.isEmpty then
    Action.store (.findSecurityTests (.defaultsFor SecurityTest.genericLanguage))
  else testsNamed names

/-- Registers a repository. -/
def registerRepository (form : RepositoryForm) : Action Repository := do
  checkForm form.violations
  let url := Text.trim form.url
  if url.isEmpty then throw (.validation "repositoryURL must not be blank")
  let tests ← testsToAttach (requestedNames form.securityTestNames)
  let now ← Action.ofTask Task.readClock
  let repository : Repository :=
    { url, vm := form.vm, securityTests := tests, languages := [], createdAt := now,
      deletedAt := none }
  let _ ← Action.store (.insertRepository repository)
  return repository

/-- Registers a security test. -/
def registerSecurityTest (form : SecurityTestForm) : Action SecurityTest := do
  checkForm form.violations
  let test := form.normalise
  let _ ← Action.store (.insertSecurityTest test)
  return test

end Service
end ScanService
