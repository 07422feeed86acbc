import ScanService.Aggregate
import ScanService.Analysis
import ScanService.Api.Form
import ScanService.Api.MediaType
import ScanService.Api.Response
import ScanService.Api.Router
import ScanService.Binary64
import ScanService.Distinct
import ScanService.Duration
import ScanService.Error
import ScanService.Execution.Backend
import ScanService.Execution.Docker
import ScanService.Execution.Image
import ScanService.Execution.Rehearsal
import ScanService.Http.Address
import ScanService.Http.Exchange
import ScanService.Http.Socket
import ScanService.Issue
import ScanService.Json.Basic
import ScanService.Json.Document
import ScanService.Json.Fault
import ScanService.Json.Read
import ScanService.Json.Token
import ScanService.Json.Value
import ScanService.Program
import ScanService.Report.Bandit
import ScanService.Report.Brakeman
import ScanService.Report.Enry
import ScanService.Report.Gosec
import ScanService.Report.Outcome
import ScanService.Report.Registry
import ScanService.Report.RetireJs
import ScanService.Report.Safety
import ScanService.Repository
import ScanService.SecurityTest
import ScanService.Service.Activity
import ScanService.Service.Admission
import ScanService.Service.Config
import ScanService.Service.Defaults
import ScanService.Service.Interleaving
import ScanService.Service.Registration
import ScanService.Service.Retry
import ScanService.Service.Runner
import ScanService.Service.Sample
import ScanService.Service.Selection
import ScanService.Service.Simulation
import ScanService.Service.Startup
import ScanService.Store.Call
import ScanService.Store.Faulty
import ScanService.Store.Filter
import ScanService.Store.Memory
import ScanService.Store.Patch
import ScanService.Store.Postgres
import ScanService.Store.Postgres.Query
import ScanService.Store.Postgres.Rehearsal
import ScanService.Store.Postgres.Row
import ScanService.Store.Postgres.Schema
import ScanService.Store.Postgres.Statement
import ScanService.Text.Blank
import ScanService.Text.Case
import ScanService.Text.Case.Table
import ScanService.Text.Numeral
import ScanService.Text.Percent
import ScanService.Text.Quoted
import ScanService.Text.Quoted.Table
import ScanService.Text.Replace
import ScanService.Time.Date
import ScanService.Time.Timestamp
import ScanService.Uuid
import ScanService.Main
import ScanService.Proofs.Turns
import ScanService.Proofs.Stages.Run
import ScanService.Proofs.Stages.Admission
import ScanService.Proofs.Stages.Plain
import ScanService.Proofs.Stages.Staging
import ScanService.Proofs.Stages.Entry
import ScanService.Proofs.Store.Answers
import ScanService.Proofs.Store.Repositories
import ScanService.Proofs.Ledger.Account
import ScanService.Proofs.Ledger.Balance
import ScanService.Proofs.Ledger.Effect
import ScanService.Proofs.Ledger.Kept
import ScanService.Proofs.Admission.Ends
import ScanService.Proofs.Admission.Gate
import ScanService.Proofs.Admission.Orderly
import ScanService.Proofs.Admission.Exclusion
import ScanService.Proofs.Admission.Finality
import ScanService.Proofs.Replay
import ScanService.Proofs.Ledger.Exact
import ScanService.Proofs.Ledger.Units
import ScanService.Proofs.Stages.Launches
import ScanService.Proofs.Jobs.Conservation
import ScanService.Proofs.Report.Builtin
import ScanService.Proofs.Report.Contract
import ScanService.Proofs.Aggregate
import ScanService.Proofs.Jobs.Coverage
import ScanService.Proofs.Jobs.Readings
import ScanService.Proofs.Jobs.Passed
import ScanService.Proofs.Schedule
import ScanService.Proofs.Secrecy
import ScanService.Proofs.Jobs.Guard
import ScanService.Proofs.Jobs.Progress
import ScanService.Proofs.Stages.Registration
import ScanService.Proofs.Jobs.Names
import ScanService.Proofs.Jobs.Fate
import ScanService.Proofs.Jobs.Detection
import ScanService.Proofs.Jobs.Phases
import ScanService.Proofs.Jobs.Confluence
import ScanService.Proofs.Store.Operations
import ScanService.Proofs.Store.Writers
import ScanService.Proofs.Jobs.Snapshots
import ScanService.Proofs.Jobs.Whole
import ScanService.Proofs.Admission.Refusal
import ScanService.Proofs.Jobs.Selections
import ScanService.Proofs.Text.Numeral
import ScanService.Proofs.Time.Timestamp
import ScanService.Proofs.Json.Documents
import ScanService.Proofs.Text.Uuid
import ScanService.Proofs.Json.Records
import ScanService.Proofs.Store.Sessions
import ScanService.Proofs.Store.Rows
import ScanService.Proofs.Conversations
import ScanService.Proofs.Jobs.Course
import ScanService.Proofs.Jobs.Record
import ScanService.Proofs.Jobs.FollowUps
import ScanService.Proofs.Json.Members
import ScanService.Proofs.Json.Edits
import ScanService.Proofs.Report.Layout
import ScanService.Proofs.Report.Grades
import ScanService.Proofs.Report.Flattening
import ScanService.Proofs.Report.Regrading
import ScanService.Proofs.Report.Composition
import ScanService.Proofs.Report.Formats
import ScanService.Proofs.Text.Blank
import ScanService.Proofs.Report.Findings
import ScanService.Proofs.Jobs.Retries
import ScanService.Proofs.Jobs.Images
import ScanService.Proofs.Forms
import ScanService.Proofs.Text.Names
import ScanService.Proofs.Report.Languages
import ScanService.Proofs.Failures
import ScanService.Proofs.Registration
import ScanService.Proofs.Boots
import ScanService.Proofs.Selection
import ScanService.Proofs.Text.Percent
import ScanService.Proofs.Http.Address
import ScanService.Proofs.Daemon
import ScanService.Proofs.References
import ScanService.Proofs.Store.Reassembly
import ScanService.Proofs.Json.Nesting
import ScanService.Proofs.Report.Advisories
