import ScanService.Store.Call

/-!
# The store in memory

`Memory` keeps the three collections as lists in order of insertion.  A call that fails leaves them
as they are; an update changes the first record that meets its filter.
-/

namespace ScanService
namespace Store

/-- The three collections. -/
structure Memory where
  /-- The repositories. -/
  repositories : List Repository
  /-- The security tests. -/
  securityTests : List SecurityTest
  /-- The analyses. -/
  analyses : List Analysis
  deriving DecidableEq

/-- Changes the first element with a property; `none` if there is none. -/
def updateFirst {α : Type} (p : α → Bool) (f : α → α) : List α → Option (List α)
  | [] => none
  | a :: rest => if p a then some (f a :: rest) else (updateFirst p f rest).map (a :: ·)

/-- Changes the first job with an execution identifier, among the analyses that meet a filter. -/
def updateJobIn (f : Filter) (executionId : String) (p : JobPatch) :
    List Analysis → Option (List Analysis)
  | [] => none
  | a :: rest =>
    let changed :=
      if f.accepts a then
        updateFirst (fun j => j.executionId == some executionId) p.apply a.jobs
      else none
    match changed with
    | some jobs => some ({ a with jobs := jobs } :: rest)
    | none => (updateJobIn f executionId p rest).map (a :: ·)

namespace Memory

/-- The store without records. -/
def empty : Memory := ⟨[], [], []⟩

/-- The answer to a call, and the store after it. -/
def answer : (c : Call) → Memory → c.Answer × Memory
  | .findRepository f, m => (.ok (m.repositories.find? f.accepts), m)
  | .insertRepository r, m =>
    if m.repositories.any (·.url == r.url) then (.error (repositoryExists r.url), m)
    else (.ok (), { m with repositories := m.repositories ++ [r] })
  | .updateRepository f p, m =>
    match updateFirst f.accepts p.apply m.repositories with
    | some rs => (.ok (), { m with repositories := rs })
    | none => (.error repositoryMissing, m)
  | .findSecurityTest f, m => (.ok (m.securityTests.find? f.accepts), m)
  | .findSecurityTests f, m => (.ok (m.securityTests.filter f.accepts), m)
  | .insertSecurityTest t, m =>
    if m.securityTests.any (·.name == t.name) then (.error (securityTestExists t.name), m)
    else (.ok (), { m with securityTests := m.securityTests ++ [t] })
  | .findAnalysis f, m => (.ok (m.analyses.find? f.accepts), m)
  | .findAnalyses f, m => (.ok (m.analyses.filter f.accepts), m)
  | .insertAnalysis a, m =>
    if m.analyses.any (·.rid == a.rid) then (.error (analysisExists a.rid), m)
    else (.ok (), { m with analyses := m.analyses ++ [a] })
  | .updateAnalysis f p, m =>
    match updateFirst f.accepts p.apply m.analyses with
    | some as => (.ok (), { m with analyses := as })
    | none => (.error analysisMissing, m)
  | .pushJob f j, m =>
    match updateFirst f.accepts (fun a => { a with jobs := a.jobs ++ [j] }) m.analyses with
    | some as => (.ok (), { m with analyses := as })
    | none => (.error analysisMissing, m)
  | .updateJob f p, m =>
    match (f.valueOf? .executionId).bind Value.text? with
    | none => (.error jobUnnamed, m)
    | some id =>
      match updateJobIn f id p m.analyses with
      | some as => (.ok (), { m with analyses := as })
      | none => (.error (jobMissing id), m)
  | .ping, m => (.ok (), m)

end Memory
end Store
end ScanService
