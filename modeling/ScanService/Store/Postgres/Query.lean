import ScanService.Store.Call
import ScanService.Store.Postgres.Statement

/-!
# The statements of the store

Each call of the store has its statement.  The conditions of a filter become the conditions of a
clause; a table has its own for each field that it can be filtered by, and others are refused before
anything is sent.  The placeholders of a clause are numbered behind those of its statement.
-/

namespace ScanService
namespace Store
namespace Postgres

/-- The tables. -/
inductive Table where
  | repositories
  | securityTests
  | analyses
  | jobs
  deriving DecidableEq, Repr

namespace Table

/-- The name of a table. -/
def name : Table → String
  | repositories => "repositories"
  | securityTests => "security_tests"
  | analyses => "analyses"
  | jobs => "analysis_jobs"

/-- The column of a table that a field is compared in, by what stands in front of and behind the
datum. -/
def column? : Table → Field → Option (String × String)
  | repositories, .url | analyses, .url => some ("url = ", "")
  | securityTests, .name => some ("name = ", "")
  | securityTests, .language => some ("language = ", "")
  | securityTests, .isDefault => some ("is_default = ", "")
  | analyses, .rid | jobs, .rid => some ("rid = ", "")
  | analyses, .status => some ("status::text = ", "")
  | analyses, .executionId =>
    some ("rid IN (SELECT rid FROM analysis_jobs WHERE execution_id = ", ")")
  | jobs, .executionId => some ("execution_id = ", "")
  | _, _ => none

/-- A table cannot be filtered by a field. -/
def refusal (t : Table) (f : Field) : ServiceError :=
  .persistence ("Field '" ++ f.label ++ "' cannot filter " ++ t.name)

end Table

/-- The datum that a value is compared as. -/
def Datum.ofValue : Value → Datum
  | .text s => .text s
  | .bool b => .bool b
  | .uuid u => .uuid u

/-- The conditions of a clause, the first of them with the placeholder `n`; `lead` stands in front of
the first and "AND" in front of the others. -/
def conditions (t : Table) (lead : String) (n : Nat) :
    List (Field × Value) → Except ServiceError (List Piece)
  | [] => .ok []
  | (f, _) :: rest =>
    match t.column? f with
    | none => .error (t.refusal f)
    | some (front, back) =>
      (conditions t " AND " (n + 1) rest).map fun more =>
        [.words lead, .words front, .slot n, .words back] ++ more

/-- The clause of a filter, behind `used` placeholders. -/
def whereClause (t : Table) (f : Filter) (used : Nat) : Except ServiceError (List Piece) :=
  conditions t " WHERE " (used + 1) f.conditions

/-- The data of a filter. -/
def filterData (f : Filter) : List Datum := f.conditions.map fun c => .ofValue c.2

/-- A statement with a clause in the middle: what stands in front of it, the data for that, and what
stands behind it. -/
def filtered (t : Table) (front : List Piece) (data : List Datum) (f : Filter) (back : String) :
    Except ServiceError Statement :=
  (whereClause t f data.length).map fun clause =>
    ⟨front ++ clause ++ [.words back], data ++ filterData f⟩

/-- Placeholders from `n` on, with commas between them. -/
def slotList (n : Nat) : Nat → List Piece
  | 0 => []
  | 1 => [.slot n]
  | count + 2 => .slot n :: .words ", " :: slotList (n + 1) (count + 1)

/-- A statement that inserts a row. -/
def insertion (table columns : String) (data : List Datum) : Statement :=
  ⟨.words ("INSERT INTO " ++ table ++ " (" ++ columns ++ ") VALUES (") ::
    slotList 1 data.length ++ [.words ")"], data⟩

/-- Changes of columns, from the placeholder `n` on: a missing datum leaves a column as it is. -/
def changes (n : Nat) : List String → List Piece
  | [] => []
  | [column] => [.words (column ++ " = COALESCE("), .slot n, .words (", " ++ column ++ ")")]
  | column :: rest =>
    [.words (column ++ " = COALESCE("), .slot n, .words (", " ++ column ++ "), ")]
      ++ changes (n + 1) rest

/-! ## Repositories -/

/-- The columns of repositories. -/
def repositoryColumns : String := "url, vm, security_tests, languages, created_at, deleted_at"

/-- Selects a repository. -/
def selectRepository (f : Filter) : Except ServiceError Statement :=
  filtered .repositories [.words ("SELECT " ++ repositoryColumns ++ " FROM repositories")] [] f
    " LIMIT 1"

/-- Inserts a repository. -/
def insertRepository (r : Repository) : Statement :=
  insertion "repositories" repositoryColumns
    [.text r.url, .ofOption .text r.vm, .ofRecord r.securityTests, .ofRecord r.languages,
      .ofTime r.createdAt, .ofOption .ofTime r.deletedAt]

/-- Changes a repository. -/
def updateRepository (f : Filter) (p : RepositoryPatch) : Except ServiceError Statement :=
  filtered .repositories
    ([.words "UPDATE repositories SET "] ++ changes 1 ["languages", "security_tests"]
      ++ [.words " WHERE url = (SELECT url FROM repositories"])
    [.ofOption .ofRecord p.languages, .ofOption .ofRecord p.securityTests] f " LIMIT 1)"

/-! ## Security tests -/

/-- The columns of security tests. -/
def securityTestColumns : String :=
  "name, image, image_tag, cmd, language, is_default, timeout_seconds"

/-- Selects security tests, in the order that the end of the statement asks for. -/
def selectSecurityTests (f : Filter) (back : String) : Except ServiceError Statement :=
  filtered .securityTests [.words ("SELECT " ++ securityTestColumns ++ " FROM security_tests")] [] f
    back

/-- Inserts a security test. -/
def insertSecurityTest (t : SecurityTest) : Statement :=
  insertion "security_tests" securityTestColumns
    [.text t.name, .text t.image, .text t.imageTag, .text t.cmd, .text t.language,
      .bool t.isDefault, .int t.timeoutSeconds]

/-! ## Analyses and jobs -/

/-- The columns of analyses. -/
def analysisColumns : String :=
  "rid, url, security_tests, status, result, started_at, finished_at"

/-- The columns of jobs. -/
def jobColumns : String :=
  "rid, execution_id, security_test, status, verdict, output, issues, started_at, finished_at"

/-- Selects analyses, oldest first. -/
def selectAnalyses (f : Filter) (limit : String) : Except ServiceError Statement :=
  filtered .analyses [.words ("SELECT " ++ analysisColumns ++ " FROM analyses")] [] f
    (" ORDER BY started_at ASC" ++ limit)

/-- Selects the jobs of some analyses, in the order of their insertion. -/
def selectJobs (rids : List Uuid) : Statement :=
  ⟨[.words ("SELECT " ++ jobColumns ++ " FROM analysis_jobs WHERE rid = ANY("), .slot 1,
      .words ") ORDER BY id ASC"], [.uuids rids]⟩

/-- Inserts an analysis, without its jobs. -/
def insertAnalysis (a : Analysis) : Statement :=
  insertion "analyses" analysisColumns
    [.uuid a.rid, .text a.url, .ofRecord a.securityTests, .label a.status.name,
      .ofOption (fun v => .label v.name) a.result, .ofTime a.startedAt,
      .ofOption .ofTime a.finishedAt]

/-- Changes an analysis. -/
def updateAnalysis (f : Filter) (p : AnalysisPatch) : Except ServiceError Statement :=
  filtered .analyses
    ([.words "UPDATE analyses SET "] ++ changes 1 ["status", "result", "finished_at"]
      ++ [.words ", security_tests = security_tests || ", .slot 4,
        .words " WHERE rid = (SELECT rid FROM analyses"])
    [.ofOption (fun s => .label s.name) p.status, .ofOption (fun v => .label v.name) p.result,
      .ofOption .ofTime p.finishedAt, .ofRecord p.append] f " LIMIT 1)"

/-- The data of a job. -/
def jobData (j : Job) : List Datum :=
  [.ofOption .text j.executionId, .ofRecord j.securityTest, .label j.status.name,
    .ofOption (fun v => .label v.name) j.verdict, .text j.output, .ofRecord j.issues,
    .ofOption .ofTime j.startedAt, .ofOption .ofTime j.finishedAt]

/-- Inserts a job of an analysis. -/
def insertJob (rid : Uuid) (j : Job) : Statement :=
  insertion "analysis_jobs" jobColumns (.uuid rid :: jobData j)

/-- Inserts a job for the analysis that a filter finds. -/
def pushJob (f : Filter) (j : Job) : Except ServiceError Statement :=
  filtered .analyses
    ([.words ("INSERT INTO analysis_jobs (" ++ jobColumns ++ ") SELECT rid, ")] ++ slotList 1 8
      ++ [.words " FROM analyses"])
    (jobData j) f " LIMIT 1"

/-- Changes jobs. -/
def updateJob (f : Filter) (p : JobPatch) : Except ServiceError Statement :=
  filtered .jobs
    ([.words "UPDATE analysis_jobs SET "]
      ++ changes 1 ["status", "verdict", "output", "issues", "started_at", "finished_at"])
    [.ofOption (fun s => .label s.name) p.status, .ofOption (fun v => .label v.name) p.verdict,
      .ofOption .text p.output, .ofOption .ofRecord p.issues, .ofOption .ofTime p.startedAt,
      .ofOption .ofTime p.finishedAt] f ""

end Postgres
end Store
end ScanService
