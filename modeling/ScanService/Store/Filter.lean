import ScanService.Analysis
import ScanService.Repository
import ScanService.Text.Quoted

/-!
# Filters

A `Filter` is a conjunction of conditions, each of which asks a field of a record for a value.  A
field that a record does not have meets no condition, nor does a value of another kind.  An analysis
has the execution identifiers of all its jobs.
-/

namespace ScanService
namespace Store

/-- The fields of records that filters can name. -/
inductive Field where
  | url
  | rid
  | status
  | name
  | language
  | isDefault
  | executionId
  deriving DecidableEq, Repr

namespace Field

/-- The name of a field. -/
def label : Field → String
  | url => "url"
  | rid => "rid"
  | status => "status"
  | name => "name"
  | language => "language"
  | isDefault => "default"
  | executionId => "execution_id"

/-- All fields by their names. -/
def words : List (String × Field) :=
  [url, rid, status, name, language, isDefault, executionId].map fun f => (f.label, f)

end Field

/-- A value that a field is compared with. -/
inductive Value where
  | text (s : String)
  | bool (b : Bool)
  | uuid (u : Uuid)
  deriving DecidableEq

namespace Value

/-- The diagnostic text of a value. -/
def debugText : Value → String
  | text s => "Text(" ++ Text.quoted s ++ ")"
  | bool b => "Bool(" ++ (if b then "true" else "false") ++ ")"
  | uuid u => "Uuid(" ++ u.text ++ ")"

/-- The text that a value is, if it is one. -/
def text? : Value → Option String
  | text s => some s
  | _ => none

end Value

/-- A conjunction of conditions on fields. -/
structure Filter where
  /-- The conditions, in the order in which they were given. -/
  conditions : List (Field × Value)
  deriving DecidableEq

namespace Filter

/-- The filter without conditions, which everything meets. -/
def all : Filter := ⟨[]⟩

/-- Adds a condition. -/
def and (f : Filter) (field : Field) (value : Value) : Filter :=
  ⟨f.conditions ++ [(field, value)]⟩

/-- Records with this URL. -/
def url (s : String) : Filter := ⟨[(.url, .text s)]⟩

/-- The analysis with this identifier. -/
def rid (u : Uuid) : Filter := ⟨[(.rid, .uuid u)]⟩

/-- The test with this name. -/
def name (s : String) : Filter := ⟨[(.name, .text s)]⟩

/-- The tests selected for a language. -/
def defaultsFor (language : String) : Filter :=
  ⟨[(.language, .text language), (.isDefault, .bool true)]⟩

/-- The running analyses of a repository. -/
def runningFor (url : String) : Filter :=
  ⟨[(.url, .text url), (.status, .text AnalysisStatus.running.name)]⟩

/-- One job of an analysis. -/
def job (rid : Uuid) (executionId : String) : Filter :=
  ⟨[(.rid, .uuid rid), (.executionId, .text executionId)]⟩

/-- The first value asked of a field. -/
def valueOf? (f : Filter) (field : Field) : Option Value := f.conditions.lookup field

end Filter

/-- Records whose fields can be asked for values. -/
class Matchable (α : Type) where
  /-- Whether a field of a record has a value. -/
  hasValue (record : α) (field : Field) (value : Value) : Bool

instance : Matchable Repository where
  hasValue r
    | .url, .text s => r.url == s
    | _, _ => false

instance : Matchable SecurityTest where
  hasValue t
    | .name, .text s => t.name == s
    | .language, .text s => t.language == s
    | .isDefault, .bool b => t.isDefault == b
    | _, _ => false

instance : Matchable Analysis where
  hasValue a
    | .url, .text s => a.url == s
    | .rid, .uuid u => a.rid == u
    | .status, .text s => a.status.name == s
    | .executionId, .text s => a.jobs.any fun j => j.executionId == some s
    | _, _ => false

/-- Whether a record meets all conditions of a filter. -/
def Filter.accepts {α : Type} [Matchable α] (f : Filter) (record : α) : Bool :=
  f.conditions.all fun c => Matchable.hasValue record c.1 c.2

end Store
end ScanService
