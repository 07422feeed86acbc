import ScanService.Report.Bandit
import ScanService.Report.Brakeman
import ScanService.Report.Enry
import ScanService.Report.Gosec
import ScanService.Report.RetireJs
import ScanService.Report.Safety
import ScanService.Text.Quoted

/-!
# The registry of readers

Readers are registered under the names of security tests, whatever their case; a later registration
replaces an earlier one of the same name.
-/

namespace ScanService
namespace Report

/-- Readers by the lowercase names of their tests, sorted. -/
structure Registry where
  /-- The readers. -/
  entries : List (String × Reader)

namespace Registry

/-- The registry without readers. -/
def empty : Registry := ⟨[]⟩

/-- Puts a reader in its place among entries sorted by name. -/
def put (name : String) (r : Reader) : List (String × Reader) → List (String × Reader)
  | [] => [(name, r)]
  | (n, old) :: rest =>
    if n = name then (name, r) :: rest
    else if n < name then (n, old) :: put name r rest
    else (name, r) :: (n, old) :: rest

/-- Registers a reader for a test. -/
def register (g : Registry) (name : String) (r : Reader) : Registry :=
  ⟨put (Text.lowercase name) r g.entries⟩

/-- The reader for a test. -/
def get? (g : Registry) (name : String) : Option Reader := g.entries.lookup (Text.lowercase name)

/-- What a job of a test records of its report. -/
def dispatch (g : Registry) (test report : String) : Except ServiceError Evaluation :=
  match g.get? test with
  | some r => .ok (r.evaluate report)
  | none => .error (.unknownTool test)

/-- The built-in readers. -/
def builtin : Registry :=
  (((((((empty.register "bandit" bandit).register "gosec" gosec).register "gas" gas).register
    "brakeman" brakeman).register "retirejs" retireJs).register "safety" safety).register
    "enry" enry)

/-- The diagnostic text of a registry. -/
def debugText (g : Registry) : String :=
  "ParserRegistry \x7b parsers: [" ++ ", ".intercalate (g.entries.map fun e => Text.quoted e.1)
    ++ "] \x7d"

/-- A name is found at the head of a list that begins with it, and in the rest otherwise. -/
theorem lookup_cons_eq_ite (key n : String) (r : Reader) (entries : List (String × Reader)) :
    ((n, r) :: entries).lookup key = if key = n then some r else entries.lookup key := by
  rw [List.lookup_cons]
  by_cases h : key = n
  · simp [h]
  · have : (key == n) = false := by simpa using h
    simp [h, this]

/-- Finding a name after putting a reader under one. -/
theorem lookup_put (name key : String) (r : Reader) (entries : List (String × Reader)) :
    (put name r entries).lookup key = if key = name then some r else entries.lookup key := by
  induction entries with
  | nil => rw [put, lookup_cons_eq_ite]
  | cons e rest ih =>
    obtain ⟨n, old⟩ := e
    rw [put]
    by_cases hn : n = name
    · subst hn
      by_cases h : key = n <;> simp [lookup_cons_eq_ite, h]
    · rw [if_neg hn]
      split
      · rw [lookup_cons_eq_ite, lookup_cons_eq_ite, ih]
        by_cases h : key = n
        · subst h
          simp [hn]
        · simp [h]
      · rw [lookup_cons_eq_ite]

/-- A test's reader is the one registered last under its name. -/
theorem get?_register (g : Registry) (name key : String) (r : Reader) :
    (g.register name r).get? key =
      if Text.lowercase key = Text.lowercase name then some r else g.get? key :=
  lookup_put _ _ _ _

end Registry
end Report
end ScanService
