import ScanService.Error
import ScanService.Program
import ScanService.Store.Filter
import ScanService.Store.Patch

/-!
# What a store is asked

A store keeps repositories, security tests and analyses.  Finding nothing is an answer; updating
nothing is an error, and so is inserting what is there already.
-/

namespace ScanService
namespace Store

/-- A question to a store. -/
inductive Call where
  | findRepository (f : Filter)
  | insertRepository (r : Repository)
  | updateRepository (f : Filter) (p : RepositoryPatch)
  | findSecurityTest (f : Filter)
  | findSecurityTests (f : Filter)
  | insertSecurityTest (t : SecurityTest)
  | findAnalysis (f : Filter)
  | findAnalyses (f : Filter)
  | insertAnalysis (a : Analysis)
  | updateAnalysis (f : Filter) (p : AnalysisPatch)
  /-- Appends a job to the analysis that the filter finds. -/
  | pushJob (f : Filter) (j : Job)
  /-- Changes the one job whose execution identifier the filter names. -/
  | updateJob (f : Filter) (p : JobPatch)
  | ping

namespace Call

/-- What a call gives when it succeeds. -/
@[reducible]
def Result : Call → Type
  | findRepository _ => Option Repository
  | findSecurityTest _ => Option SecurityTest
  | findSecurityTests _ => List SecurityTest
  | findAnalysis _ => Option Analysis
  | findAnalyses _ => List Analysis
  | _ => Unit

/-- The answer to a call. -/
abbrev Answer (c : Call) : Type := Except ServiceError c.Result

/-- The operation that a call uses. -/
def operation : Call → String
  | findRepository _ => "find_repository"
  | insertRepository _ => "insert_repository"
  | updateRepository _ _ => "update_repository"
  | findSecurityTest _ => "find_security_test"
  | findSecurityTests _ => "find_security_tests"
  | insertSecurityTest _ => "insert_security_test"
  | findAnalysis _ => "find_analysis"
  | findAnalyses _ => "find_analyses"
  | insertAnalysis _ => "insert_analysis"
  | updateAnalysis _ _ => "update_analysis"
  | pushJob _ _ => "push_job"
  | updateJob _ _ => "update_job"
  | ping => "ping"

end Call

/-! ## Why a call fails -/

/-- There is a repository with this URL. -/
def repositoryExists (url : String) : ServiceError :=
  .conflict ("Repository '" ++ url ++ "' already exists")

/-- There is a security test of this name. -/
def securityTestExists (name : String) : ServiceError :=
  .conflict ("Security test '" ++ name ++ "' already exists")

/-- There is an analysis with this identifier. -/
def analysisExists (rid : Uuid) : ServiceError :=
  .conflict ("Analysis " ++ rid.text ++ " already exists")

/-- No repository meets the filter. -/
def repositoryMissing : ServiceError := .notFound "Repository not found"

/-- No analysis meets the filter. -/
def analysisMissing : ServiceError := .notFound "Analysis not found"

/-- No job meets the filter. -/
def jobMissing (executionId : String) : ServiceError :=
  .notFound ("Job '" ++ executionId ++ "' not found")

/-- The filter does not say which job to change. -/
def jobUnnamed : ServiceError :=
  .validation "Job updates must be addressed by execution identifier"

end Store
end ScanService
