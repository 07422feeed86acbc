import ScanService.Analysis
import ScanService.Repository
import ScanService.Store.Postgres.Statement

/-!
# Rows of the database

The records that rows hold.  The jobs of an analysis are rows of their own, which `assemble` puts
together with the rows of the analyses.
-/

namespace ScanService
namespace Store
namespace Postgres

/-- Types that a column can hold. -/
class Column (α : Type) where
  /-- Reads a column. -/
  read? : Datum → Option α

instance : Column String where
  read?
    | .text s => some s
    | _ => none

instance : Column Bool where
  read?
    | .bool b => some b
    | _ => none

instance : Column Int32 where
  read?
    | .int n => some n
    | _ => none

instance : Column Timestamp where
  read?
    | .time t => some t
    | _ => none

instance : Column Uuid where
  read?
    | .uuid u => some u
    | _ => none

instance : Column AnalysisStatus where
  read?
    | .label s => AnalysisStatus.words.lookup s
    | _ => none

instance : Column JobStatus where
  read?
    | .label s => JobStatus.words.lookup s
    | _ => none

instance : Column Verdict where
  read?
    | .label s => Verdict.words.lookup s
    | _ => none

instance {α : Type} [Column α] : Column (Option α) where
  read?
    | .null => some none
    | d => (Column.read? d).map some

namespace Row

/-- What a column of a row holds; without the column it holds nothing. -/
def datum (r : Row) (name : String) : Datum := (r.lookup name).getD .null

/-- Reads a column of a row. -/
def read {α : Type} [Column α] (r : Row) (name : String) : Except DatabaseError α :=
  match (Column.read? (datum r name) : Option α) with
  | some a => .ok a
  | none => .error .undecodable

/-- Reads a column that holds JSON. -/
def readJson {α : Type} [FromJson α] (r : Row) (name : String) : Except DatabaseError α :=
  match datum r name with
  | .json v =>
    match (FromJson.read? nestingLimit (Json.Document.ofJson v) : Option α) with
    | some a => .ok a
    | none => .error .undecodable
  | _ => .error .undecodable

/-- The repository of a row. -/
def repository (r : Row) : Except DatabaseError Repository := do
  return {
    url := ← read r "url"
    vm := ← read r "vm"
    securityTests := ← readJson r "security_tests"
    languages := ← readJson r "languages"
    createdAt := ← read r "created_at"
    deletedAt := ← read r "deleted_at" }

/-- The security test of a row. -/
def securityTest (r : Row) : Except DatabaseError SecurityTest := do
  return {
    name := ← read r "name"
    image := ← read r "image"
    imageTag := ← read r "image_tag"
    cmd := ← read r "cmd"
    language := ← read r "language"
    isDefault := ← read r "is_default"
    timeoutSeconds := ← read r "timeout_seconds" }

/-- The analysis of a row, without its jobs. -/
def analysis (r : Row) : Except DatabaseError Analysis := do
  return {
    rid := ← read r "rid"
    url := ← read r "url"
    securityTests := ← readJson r "security_tests"
    jobs := []
    status := ← read r "status"
    result := ← read r "result"
    startedAt := ← read r "started_at"
    finishedAt := ← read r "finished_at" }

/-- The job of a row, and the analysis it belongs to. -/
def job (r : Row) : Except DatabaseError (Uuid × Job) := do
  return (← read r "rid", {
    executionId := ← read r "execution_id"
    securityTest := ← readJson r "security_test"
    status := ← read r "status"
    verdict := ← read r "verdict"
    output := ← read r "output"
    issues := ← readJson r "issues"
    startedAt := ← read r "started_at"
    finishedAt := ← read r "finished_at" })

end Row

/-- Puts analyses and jobs together: each job goes to the first analysis it belongs to, and the jobs
of an analysis keep their order. -/
def assemble : List Analysis → List (Uuid × Job) → List Analysis
  | [], _ => []
  | a :: rest, jobs =>
    let (own, others) := jobs.partition fun j => j.1 = a.rid
    { a with jobs := own.map (·.2) } :: assemble rest others

end Postgres
end Store
end ScanService
