import ScanService.Service.Activity
import ScanService.Text.Case

/-!
# Selecting tests by language

The default tests of each detected language are selected, in the order of detection, and the generic
ones last.  Nothing is removed that occurs twice.  A look-up that fails contributes nothing.
-/

namespace ScanService
namespace Service

/-- The default tests of one language; none if they cannot be looked up. -/
def defaultsFor (language : String) : Task (List SecurityTest) := do
  match ← Task.store (.findSecurityTests (.defaultsFor language)) with
  | .ok tests => return tests
  | .error _ => return []

/-- The default tests of some languages, one after the other. -/
def defaultsForAll : List String → Task (List SecurityTest)
  | [] => return []
  | language :: rest => do
    let tests ← defaultsFor language
    let more ← defaultsForAll rest
    return tests ++ more

/-- The languages that are looked up for detected ones: these in lowercase, and the generic one. -/
def lookups (languages : List String) : List String :=
  languages.map Text.lowercase ++ [SecurityTest.genericLanguage]

/-- The tests selected for detected languages. -/
def selectTests (languages : List String) : Task (List SecurityTest) :=
  defaultsForAll (lookups languages)

end Service
end ScanService
