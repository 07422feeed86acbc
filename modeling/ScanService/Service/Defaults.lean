import ScanService.Service.Activity

/-!
# The built-in security tests

They are registered whenever the service starts and finds one missing.  Somebody else may register
one at the same time; that is as good.
-/

namespace ScanService
namespace Service

/-- How every built-in command begins: it fetches the source, or prints the marker and stops. -/
def cloneStep : String :=
  "mkdir -p ~/.ssh && echo 'GIT_PRIVATE_SSH_KEY' > ~/.ssh/id_rsa && chmod 600 ~/.ssh/id_rsa && "
    ++ "git clone -q %GIT_REPO% code 2>/dev/null || \x7b echo 'ERROR_CLONING'; exit 1; \x7d; cd code"

/-- A built-in test. -/
def builtinTest (name language command : String) (timeoutSeconds : Int32) : SecurityTest where
  name := name
  image := "huskyci/" ++ name
  imageTag := "latest"
  cmd := cloneStep ++ " && " ++ command
  language := language
  isDefault := true
  timeoutSeconds := timeoutSeconds

/-- The built-in tests. -/
def builtinTests : List SecurityTest :=
  [builtinTest SecurityTest.detectorName SecurityTest.genericLanguage "enry --json" 60,
    builtinTest "gosec" "go" "gosec -quiet -fmt=json ./... 2>/dev/null" 360,
    builtinTest "bandit" "python" "bandit -r . -f json 2>/dev/null" 360,
    builtinTest "safety" "python" "safety check -r requirements.txt --json 2>/dev/null" 360,
    builtinTest "brakeman" "ruby" "brakeman -q --no-exit-on-warn -f json ." 360,
    builtinTest "retirejs" "javascript"
      "retire --outputformat json --outputpath /dev/stdout 2>/dev/null" 360]

/-- Registers a test if there is none of its name; gives the names registered. -/
def ensureTest (t : SecurityTest) : Action (List String) := do
  let found : Option SecurityTest ← Action.store (.findSecurityTest (.name t.name))
  match found with
  | some _ => return []
  | none =>
    match ← Action.ofTask (Task.store (.insertSecurityTest t)) with
    | .ok _ => return [t.name]
    | .error e => if e.isConflict then return [] else throw e

/-- What came of registering tests that are missing. -/
structure Ensured where
  /-- The names registered, in order. -/
  registered : List String
  /-- What it failed with, if it did. -/
  failure : Option ServiceError
  deriving DecidableEq, Repr

/-- Registers those of some tests that are missing, until that fails. -/
def ensureTests : List SecurityTest → Task Ensured
  | [] => return ⟨[], none⟩
  | t :: rest => do
    match ← (ensureTest t).run with
    | .error e => return ⟨[], some e⟩
    | .ok names =>
      let more ← ensureTests rest
      return { more with registered := names ++ more.registered }

/-- Registers the built-in tests that are missing; gives their names. -/
def ensureDefaults : Action (List String) := do
  let ensured ← Action.ofTask (ensureTests builtinTests)
  match ensured.failure with
  | some e => throw e
  | none => return ensured.registered

end Service
end ScanService
