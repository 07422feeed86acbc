import ScanService.Aggregate
import ScanService.Service.Activity

/-!
# Admitting analyses

An analysis of a registered repository is admitted unless another one of it is running.  Running ones
that have in fact ended are stored as ended first.  Admissions pass a gate one at a time, so that no
two of them find the same repository idle.
-/

namespace ScanService
namespace Service

open Execution (UnitContext)

/-- There is no repository with this URL. -/
def unknownRepository (url : String) : ServiceError :=
  .notFound ("Repository '" ++ url ++ "' not found")

/-- There is no analysis with this identifier. -/
def unknownAnalysis (rid : Uuid) : ServiceError :=
  .notFound ("Analysis " ++ rid.text ++ " not found")

/-- An analysis of the repository is running. -/
def alreadyRunning (rid : Uuid) (url : String) : ServiceError :=
  .conflict ("Analysis " ++ rid.text ++ " is already running for '" ++ url ++ "'")

/-- The patch that stores an analysis as its readers are told of it. -/
def finalization (a : Analysis) : Store.AnalysisPatch where
  status := some a.aggregate.status
  result := a.aggregate.result
  finishedAt := a.aggregate.finishedAt

/-- Stores analyses as ended, until one of them has not. -/
def finalizeEnded (url : String) : List Analysis → Action Unit
  | [] => pure ()
  | a :: rest => do
    if a.aggregate.status = .running then throw (alreadyRunning a.rid url)
    let _ ← Action.store (.updateAnalysis (.rid a.rid) (finalization a))
    finalizeEnded url rest

/-- The tests that an analysis of a repository is to run.  Before the languages are known the detector
is one of them, the first unless the repository lists it. -/
def testsToRun (r : Repository) : Action (List SecurityTest) :=
  if r.languages.isEmpty && !r.securityTests.any (·.name == SecurityTest.detectorName) then do
    let detector : Option SecurityTest ←
      Action.store (.findSecurityTest (.name SecurityTest.detectorName))
    return detector.toList ++ r.securityTests
  else return r.securityTests

/-- Admits an analysis, nobody else being about to. -/
def admitAlone (url : String) : Action Uuid := do
  let found : Option Repository ← Action.store (.findRepository (.url url))
  let some repository := found | throw (unknownRepository url)
  let running : List Analysis ← Action.store (.findAnalyses (.runningFor url))
  finalizeEnded url running
  let tests ← testsToRun repository
  let rid ← Action.ofTask Task.drawRid
  let now ← Action.ofTask Task.readClock
  let _ ← Action.store (.insertAnalysis (.admitted rid repository.url tests now))
  Action.ofTask (Program.forEach (Task.launch ⟨rid, repository.url⟩) tests)
  return rid

/-- Admits an analysis. -/
def admitAnalysis (url : String) : Action Uuid := ExceptT.mk (Task.gated (admitAlone url).run)

/-- What a reader is told of an analysis. -/
def status (rid : Uuid) : Action Analysis := do
  let found : Option Analysis ← Action.store (.findAnalysis (.rid rid))
  let some analysis := found | throw (unknownAnalysis rid)
  return analysis.snapshot

end Service
end ScanService
