import ScanService.Error
import ScanService.Program
import ScanService.Text.Replace
import ScanService.Uuid

/-!
# What an execution backend is asked

A backend runs one scan tool at a time in a unit of its own: a unit is created from an image, started,
waited for, and its output read.  Images that are not there can be pulled.
-/

namespace ScanService
namespace Execution

/-- What a unit has to know about its analysis. -/
structure UnitContext where
  /-- The analysis. -/
  rid : Uuid
  /-- The repository to scan. -/
  repositoryUrl : String
  deriving DecidableEq

/-- The placeholder in a command for the URL of the repository. -/
def repositoryPlaceholder : String := "%GIT_REPO%"

/-- The command of a unit, with the URL in place of its placeholder. -/
def renderCommand (ctx : UnitContext) (command : String) : String :=
  Text.replaceAll command repositoryPlaceholder ctx.repositoryUrl

/-- A question to a backend. -/
inductive Call where
  /-- Whether an image is there. -/
  | imageIsLoaded (image : String)
  /-- Asks for an image to be fetched; when it has come shows in `imageIsLoaded`. -/
  | pullImage (image : String)
  /-- Creates a unit, and answers with its identifier. -/
  | createUnit (ctx : UnitContext) (image command : String)
  /-- Starts a unit. -/
  | startUnit (id : String)
  /-- Waits until a unit has ended, so long at most. -/
  | waitUnit (id : String) (timeout : Duration)
  /-- Reads what a unit has printed. -/
  | readOutput (id : String)
  /-- Whether the backend is there. -/
  | ping
  deriving DecidableEq

namespace Call

/-- What a call gives when it succeeds. -/
@[reducible]
def Result : Call → Type
  | imageIsLoaded _ => Bool
  | createUnit _ _ _ | readOutput _ => String
  | _ => Unit

/-- The answer to a call. -/
abbrev Answer (c : Call) : Type := Except BackendError c.Result

end Call
end Execution
end ScanService
