import ScanService.Proofs.Json.Records
import ScanService.Proofs.Store.Statements
import ScanService.Store.Postgres.Row

/-!
# Rows that are read back

An insertion gives the columns of a row their data, under the names that the row is read by.  So a
row that holds the data of a record is read as the record, but for its points in time, which are as
precise as the database is.

## What is here

* `read_eq`, `readJson_ofRecord` — a column is read back.
* `Row.HoldsAnalysis`, `Row.HoldsJob` — the columns of a row hold the fields of a record.
* `repository_repositoryFields`, `securityTest_securityTestFields`, `holdsAnalysis_analysisFields`,
  `holdsJob_jobFields` — **inserted rows are read as the records they were inserted for.**
-/

namespace ScanService

/-- A repository as the database keeps it. -/
def Repository.toMicros (r : Repository) : Repository :=
  { r with createdAt := r.createdAt.toMicros, deletedAt := r.deletedAt.map Timestamp.toMicros }

/-- A job as the database keeps it. -/
def Job.toMicros (j : Job) : Job :=
  { j with
    startedAt := j.startedAt.map Timestamp.toMicros
    finishedAt := j.finishedAt.map Timestamp.toMicros }

/-- The row of an analysis as the database keeps it; its jobs have rows of their own. -/
def Analysis.toMicros (a : Analysis) : Analysis :=
  { a with
    jobs := []
    startedAt := a.startedAt.toMicros
    finishedAt := a.finishedAt.map Timestamp.toMicros }

namespace Store
namespace Postgres

/-! ## Columns -/

section

variable {α β : Type} {r : Row} {name : String} {d : Datum}

theorem read_eq [Column α] {a : α} (hname : r.lookup name = some d)
    (hread : Column.read? d = some a) : Row.read r name = .ok a := by
  rw [Row.read, Row.datum, hname, Option.getD_some, hread]

theorem readJson_ofRecord [ToJson α] [FromJson α] {a : α} {depth : Nat}
    (hname : r.lookup name = some (.ofRecord a)) (h : ReadsBack α depth)
    (hdepth : depth ≤ nestingLimit) : Row.readJson r name = .ok a := by
  rw [Row.readJson, Row.datum, hname, Option.getD_some, Datum.ofRecord]
  simp only [h.read?_ofJson a hdepth]

/-- A datum that may be missing is read back if no datum is taken for a missing one. -/
theorem read?_ofOption [Column β] {f : α → Datum} {g : α → β}
    (hread : ∀ a, Column.read? (f a) = some (g a)) (hnull : ∀ a, f a ≠ .null) (o : Option α) :
    Column.read? (Datum.ofOption f o) = some (o.map g) := by
  cases o with
  | none => rfl
  | some a =>
    have hsome := hread a
    have hne := hnull a
    change Column.read? (f a) = some (some (g a))
    generalize f a = d at hsome hne ⊢
    cases d with
    | null => exact absurd rfl hne
    | _ => exact congrArg (Option.map some) hsome

theorem read?_optionalText (o : Option String) :
    Column.read? (Datum.ofOption .text o) = some o := by
  rw [read?_ofOption (f := .text) (g := id) (fun _ => rfl) (fun _ => nofun), Option.map_id, id]

theorem read?_optionalTime (o : Option Timestamp) :
    Column.read? (Datum.ofOption .ofTime o) = some (o.map Timestamp.toMicros) :=
  read?_ofOption (f := .ofTime) (fun _ => rfl) (fun _ => nofun) o

theorem read?_analysisStatus (s : AnalysisStatus) : Column.read? (.label s.name) = some s := by
  cases s <;> decide

theorem read?_jobStatus (s : JobStatus) : Column.read? (.label s.name) = some s := by
  cases s <;> decide

theorem read?_optionalVerdict (o : Option Verdict) :
    Column.read? (Datum.ofOption (fun v => .label v.name) o) = some o := by
  have hread : ∀ v : Verdict, Column.read? (.label v.name) = some v := by
    intro v
    cases v <;> decide
  rw [read?_ofOption (g := id) hread (fun _ => nofun), Option.map_id, id]

end

/-! ## Rows -/

/-- **The row of a repository.** -/
theorem repository_repositoryFields (r : Repository) :
    Row.repository (repositoryFields r) = .ok r.toMicros := by
  have hurl : Row.read (repositoryFields r) "url" = .ok r.url := read_eq rfl rfl
  have hvm : Row.read (repositoryFields r) "vm" = .ok r.vm := read_eq rfl (read?_optionalText _)
  have htests : Row.readJson (repositoryFields r) "security_tests" = .ok r.securityTests :=
    readJson_ofRecord rfl readsBack_securityTest.list (by decide)
  have hlanguages : Row.readJson (repositoryFields r) "languages" = .ok r.languages :=
    readJson_ofRecord rfl readsBack_string.list (by decide)
  have hcreated : Row.read (repositoryFields r) "created_at" = .ok r.createdAt.toMicros :=
    read_eq rfl rfl
  have hdeleted : Row.read (repositoryFields r) "deleted_at" =
      .ok (r.deletedAt.map Timestamp.toMicros) := read_eq rfl (read?_optionalTime _)
  rw [Row.repository, hurl, hvm, htests, hlanguages, hcreated, hdeleted]
  rfl

/-- **The row of a security test.** -/
theorem securityTest_securityTestFields (t : SecurityTest) :
    Row.securityTest (securityTestFields t) = .ok t :=
  rfl

/-- The columns of a row hold the fields of an analysis, whose jobs have rows of their own. -/
structure Row.HoldsAnalysis (r : Row) (a : Analysis) : Prop where
  rid : read r "rid" = .ok a.rid
  url : read r "url" = .ok a.url
  securityTests : readJson r "security_tests" = .ok a.securityTests
  status : read r "status" = .ok a.status
  result : read r "result" = .ok a.result
  startedAt : read r "started_at" = .ok a.startedAt
  finishedAt : read r "finished_at" = .ok a.finishedAt
  jobs : a.jobs = []

/-- The columns of a row hold the fields of a job, and the analysis that it belongs to. -/
structure Row.HoldsJob (r : Row) (j : Uuid × Job) : Prop where
  rid : read r "rid" = .ok j.1
  executionId : read r "execution_id" = .ok j.2.executionId
  securityTest : readJson r "security_test" = .ok j.2.securityTest
  status : read r "status" = .ok j.2.status
  verdict : read r "verdict" = .ok j.2.verdict
  output : read r "output" = .ok j.2.output
  issues : readJson r "issues" = .ok j.2.issues
  startedAt : read r "started_at" = .ok j.2.startedAt
  finishedAt : read r "finished_at" = .ok j.2.finishedAt

theorem Row.HoldsAnalysis.analysis_eq {r : Row} {a : Analysis} (h : HoldsAnalysis r a) :
    analysis r = .ok a := by
  obtain ⟨hrid, hurl, htests, hstatus, hresult, hstarted, hfinished, hjobs⟩ := h
  rw [analysis, hrid, hurl, htests, hstatus, hresult, hstarted, hfinished]
  cases a
  cases hjobs
  rfl

theorem Row.HoldsJob.job_eq {r : Row} {j : Uuid × Job} (h : HoldsJob r j) : job r = .ok j := by
  obtain ⟨hrid, hid, htest, hstatus, hverdict, houtput, hissues, hstarted, hfinished⟩ := h
  rw [job, hrid, hid, htest, hstatus, hverdict, houtput, hissues, hstarted, hfinished]
  rfl

/-- **The row of an analysis.** -/
theorem holdsAnalysis_analysisFields (a : Analysis) :
    Row.HoldsAnalysis (analysisFields a) a.toMicros where
  rid := read_eq rfl rfl
  url := read_eq rfl rfl
  securityTests := readJson_ofRecord rfl readsBack_securityTest.list (by decide)
  status := read_eq rfl (read?_analysisStatus _)
  result := read_eq rfl (read?_optionalVerdict _)
  startedAt := read_eq rfl rfl
  finishedAt := read_eq rfl (read?_optionalTime _)
  jobs := rfl

/-- **The row of a job**, with the analysis that it belongs to. -/
theorem holdsJob_jobFields (rid : Uuid) (j : Job) :
    Row.HoldsJob (("rid", .uuid rid) :: jobFields j) (rid, j.toMicros) where
  rid := read_eq rfl rfl
  executionId := read_eq rfl (read?_optionalText _)
  securityTest := readJson_ofRecord rfl readsBack_securityTest (by decide)
  status := read_eq rfl (read?_jobStatus _)
  verdict := read_eq rfl (read?_optionalVerdict _)
  output := read_eq rfl rfl
  issues := readJson_ofRecord rfl readsBack_issue.list (by decide)
  startedAt := read_eq rfl (read?_optionalTime _)
  finishedAt := read_eq rfl (read?_optionalTime _)

end Postgres
end Store
end ScanService
