import ScanService.SecurityTest

/-!
# Repositories

A `Repository` is a registered scan target, known by its URL; a `RepositoryForm` is what a client
sends to register one.
-/

namespace ScanService

/-- A registered scan target. -/
structure Repository where
  /-- Where the source is fetched. -/
  url : String
  /-- The machine it belongs to. -/
  vm : Option String
  /-- The tests that an analysis of it runs. -/
  securityTests : List SecurityTest
  /-- The languages detected in it; none before the first detection. -/
  languages : List String
  /-- When it was registered. -/
  createdAt : Timestamp
  /-- When it was given up. -/
  deletedAt : Option Timestamp
  deriving DecidableEq

namespace Repository

/-- The members of a repository's record. -/
def members : List Member :=
  [⟨"repositoryURL", []⟩, ⟨"VM", []⟩, ⟨"securityTests", []⟩, ⟨"languages", []⟩,
    ⟨"createdAt", []⟩, ⟨"deletedAt", []⟩]

end Repository

instance : ToJson Repository where
  toJson r := .object
    [("repositoryURL", toJson r.url), ("VM", toJson r.vm),
      ("securityTests", toJson r.securityTests), ("languages", toJson r.languages),
      ("createdAt", toJson r.createdAt), ("deletedAt", toJson r.deletedAt)]

instance : FromJson Repository where
  read? levels d := do
    let r ← Record.ofDocument? Repository.members levels d
    return {
      url := ← r.required "repositoryURL"
      vm := ← r.optional "VM"
      securityTests := ← r.required "securityTests"
      languages := ← r.required "languages"
      createdAt := ← r.required "createdAt"
      deletedAt := ← r.optional "deletedAt" }

/-- What a client sends to register a repository. -/
structure RepositoryForm where
  /-- Where the source is fetched. -/
  url : String
  /-- The machine it belongs to. -/
  vm : Option String
  /-- The names of the tests to attach; none asks for the generic defaults. -/
  securityTestNames : List String
  deriving DecidableEq, Repr

namespace RepositoryForm

/-- The members of the form. -/
def members : List Member :=
  [⟨"repositoryURL", []⟩, ⟨"VM", []⟩, ⟨"securityTestName", []⟩]

/-- The rules the form breaks. -/
def violations (f : RepositoryForm) : List Violation :=
  Violation.check (1 ≤ f.url.length && f.url.length ≤ 2048) "url" .length

end RepositoryForm

instance : FromJson RepositoryForm where
  read? levels d := do
    let r ← Record.ofDocument? RepositoryForm.members levels d
    return {
      url := ← r.required "repositoryURL"
      vm := ← r.orElse "VM" none
      securityTestNames := ← r.orElse "securityTestName" [] }

end ScanService
