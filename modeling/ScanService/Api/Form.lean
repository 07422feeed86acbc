import ScanService.Json.Fault
import ScanService.Repository

/-!
# Forms

A form is what a client sends to have something registered or started.  `Form.shape` says what its
text has to look like, so that a text which is not read can be refused for the right reason.
-/

namespace ScanService
namespace Api

open Json (Shape Fault)

/-- What a client sends to have an analysis started. -/
structure AnalysisForm where
  /-- The repository. -/
  url : String
  deriving DecidableEq, Repr

namespace AnalysisForm

/-- The members of the form. -/
def members : List Member := [⟨"repositoryURL", []⟩]

end AnalysisForm

instance : FromJson AnalysisForm where
  read? levels d := do
    let r ← Record.ofDocument? AnalysisForm.members levels d
    return { url := ← r.required "repositoryURL" }

/-- Records that clients send. -/
class Form (α : Type) extends FromJson α where
  /-- What the text of a form has to look like. -/
  shape : Shape

instance : Form AnalysisForm where
  shape := .record [(⟨"repositoryURL", []⟩, .required, .text)]

instance : Form RepositoryForm where
  shape := .record
    [(⟨"repositoryURL", []⟩, .required, .text), (⟨"VM", []⟩, .defaulted, .nullable .text),
      (⟨"securityTestName", []⟩, .defaulted, .list .text)]

instance : Form SecurityTestForm where
  shape := .record
    [(⟨"name", []⟩, .required, .text), (⟨"image", []⟩, .required, .text),
      (⟨"imageTag", []⟩, .defaulted, .nullable .text), (⟨"cmd", []⟩, .required, .text),
      (⟨"language", []⟩, .required, .text), (⟨"default", []⟩, .defaulted, .bool),
      (⟨"timeOutSeconds", []⟩, .required, .int32)]

/-- Reads the text of a form. -/
def Form.read {α : Type} [Form α] (s : String) : Except Fault α :=
  match (FromJson.ofText? s : Option α) with
  | some a => .ok a
  | none => .error ((Form.shape α).faultOf s)

end Api
end ScanService
