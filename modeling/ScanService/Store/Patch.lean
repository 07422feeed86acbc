import ScanService.Analysis
import ScanService.Repository

/-!
# Patches

A patch changes some fields of a record and leaves the others as they are.  No patch touches what a
record is known by, and none touches the list of jobs of an analysis.
-/

namespace ScanService
namespace Store

/-- A change of what was detected in a repository. -/
structure RepositoryPatch where
  /-- The languages to record. -/
  languages : Option (List String) := none
  /-- The tests to record. -/
  securityTests : Option (List SecurityTest) := none
  deriving DecidableEq

/-- Applies a patch to a repository; lists are replaced. -/
def RepositoryPatch.apply (p : RepositoryPatch) (r : Repository) : Repository :=
  { r with
    languages := p.languages.getD r.languages
    securityTests := p.securityTests.getD r.securityTests }

/-- A change of an analysis. -/
structure AnalysisPatch where
  /-- The status to record. -/
  status : Option AnalysisStatus := none
  /-- The result to record. -/
  result : Option Verdict := none
  /-- The time of ending to record. -/
  finishedAt : Option Timestamp := none
  /-- Tests to append to those that are to run. -/
  append : List SecurityTest := []
  deriving DecidableEq

/-- Applies a patch to an analysis. -/
def AnalysisPatch.apply (p : AnalysisPatch) (a : Analysis) : Analysis :=
  { a with
    status := p.status.getD a.status
    result := p.result <|> a.result
    finishedAt := p.finishedAt <|> a.finishedAt
    securityTests := a.securityTests ++ p.append }

/-- A change of one job. -/
structure JobPatch where
  /-- The status to record. -/
  status : Option JobStatus := none
  /-- The verdict to record. -/
  verdict : Option Verdict := none
  /-- The output to record. -/
  output : Option String := none
  /-- The issues to record. -/
  issues : Option (List Issue) := none
  /-- The time of starting to record. -/
  startedAt : Option Timestamp := none
  /-- The time of ending to record. -/
  finishedAt : Option Timestamp := none
  deriving DecidableEq

/-- Applies a patch to a job. -/
def JobPatch.apply (p : JobPatch) (j : Job) : Job :=
  { j with
    status := p.status.getD j.status
    verdict := p.verdict <|> j.verdict
    output := p.output.getD j.output
    issues := p.issues.getD j.issues
    startedAt := p.startedAt <|> j.startedAt
    finishedAt := p.finishedAt <|> j.finishedAt }

/-! ## What patches leave alone -/

@[simp] theorem RepositoryPatch.url_apply (p : RepositoryPatch) (r : Repository) :
    (p.apply r).url = r.url := rfl

@[simp] theorem AnalysisPatch.rid_apply (p : AnalysisPatch) (a : Analysis) :
    (p.apply a).rid = a.rid := rfl

@[simp] theorem AnalysisPatch.url_apply (p : AnalysisPatch) (a : Analysis) :
    (p.apply a).url = a.url := rfl

@[simp] theorem AnalysisPatch.jobs_apply (p : AnalysisPatch) (a : Analysis) :
    (p.apply a).jobs = a.jobs := rfl

@[simp] theorem JobPatch.executionId_apply (p : JobPatch) (j : Job) :
    (p.apply j).executionId = j.executionId := rfl

@[simp] theorem JobPatch.securityTest_apply (p : JobPatch) (j : Job) :
    (p.apply j).securityTest = j.securityTest := rfl

end Store
end ScanService
