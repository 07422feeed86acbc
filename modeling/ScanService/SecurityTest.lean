import ScanService.Duration
import ScanService.Json.Read
import ScanService.Text.Blank
import ScanService.Text.Case

/-!
# Security tests

A `SecurityTest` is a registered scan tool: the image to run, the command in it, and the language
whose repositories it is for.  A `SecurityTestForm` is what a client sends to register one;
`SecurityTestForm.normalise` makes the record of it, and `violations` lists the rules it breaks.
-/

namespace ScanService

/-- A registered scan tool. -/
structure SecurityTest where
  /-- The name it is registered under. -/
  name : String
  /-- The image of its units. -/
  image : String
  /-- The tag of the image; an empty one means `latest`. -/
  imageTag : String
  /-- The command to run, a template with placeholders. -/
  cmd : String
  /-- The language whose repositories it scans. -/
  language : String
  /-- Whether it is selected without being named. -/
  isDefault : Bool
  /-- How many seconds a run may take. -/
  timeoutSeconds : Int32
  deriving DecidableEq

namespace SecurityTest

/-- The pseudo-language whose default tests apply to every repository. -/
def genericLanguage : String := "generic"

/-- The name of the test that detects languages. -/
def detectorName : String := "enry"

/-- The placeholder in a command for the configured secret. -/
def secretPlaceholder : String := "GIT_PRIVATE_SSH_KEY"

/-- The image with its tag. -/
def imageRef (t : SecurityTest) : String :=
  t.image ++ ":" ++ (if t.imageTag.isEmpty then "latest" else t.imageTag)

/-- How long a run is waited for: at least a second. -/
def timeout (t : SecurityTest) : Duration := .ofSeconds (max t.timeoutSeconds.toInt 1).toNat

/-- The members of a security test's record. -/
def members : List Member :=
  [⟨"name", []⟩, ⟨"image", []⟩, ⟨"imageTag", []⟩, ⟨"cmd", []⟩, ⟨"language", []⟩, ⟨"default", []⟩,
    ⟨"timeOutSeconds", []⟩]

end SecurityTest

instance : ToJson SecurityTest where
  toJson t := .object
    [("name", toJson t.name), ("image", toJson t.image), ("imageTag", toJson t.imageTag),
      ("cmd", toJson t.cmd), ("language", toJson t.language), ("default", toJson t.isDefault),
      ("timeOutSeconds", toJson t.timeoutSeconds)]

instance : FromJson SecurityTest where
  read? levels d := do
    let r ← Record.ofDocument? SecurityTest.members levels d
    return {
      name := ← r.required "name"
      image := ← r.required "image"
      imageTag := ← r.required "imageTag"
      cmd := ← r.required "cmd"
      language := ← r.required "language"
      isDefault := ← r.required "default"
      timeoutSeconds := ← r.required "timeOutSeconds" }

/-! ## Forms -/

/-- A rule that a member of a form can break. -/
inductive Rule where
  /-- A text is too short or too long. -/
  | length
  /-- A number is too small or too large. -/
  | range
  deriving DecidableEq, Repr

namespace Rule

/-- The name of a rule in messages. -/
def name : Rule → String
  | length => "length"
  | range => "range"

end Rule

/-- A member of a form that breaks a rule. -/
structure Violation where
  /-- The member. -/
  field : String
  /-- The rule. -/
  rule : Rule
  deriving DecidableEq, Repr

namespace Violation

/-- The line that reports a violation. -/
def line (v : Violation) : String := v.field ++ ": Validation error: " ++ v.rule.name

/-- The report of some violations, a line for each, in the order in which they are listed. -/
def report (vs : List Violation) : String := "\n".intercalate (vs.map line)

/-- The violation of a rule that does not hold. -/
def check (holds : Bool) (field : String) (rule : Rule) : List Violation :=
  if holds then [] else [⟨field, rule⟩]

end Violation

/-- What a client sends to register a security test. -/
structure SecurityTestForm where
  /-- The name to register. -/
  name : String
  /-- The image of its units. -/
  image : String
  /-- The tag of the image. -/
  imageTag : Option String
  /-- The command to run. -/
  cmd : String
  /-- The language whose repositories it scans. -/
  language : String
  /-- Whether it is selected without being named. -/
  isDefault : Bool
  /-- How many seconds a run may take. -/
  timeoutSeconds : Int32
  deriving DecidableEq

namespace SecurityTestForm

/-- The rules the form breaks.  Nothing says in which order they are to be reported; here it is that
of the members' names. -/
def violations (f : SecurityTestForm) : List Violation :=
  Violation.check (1 ≤ f.cmd.length) "cmd" .length
    ++ Violation.check (1 ≤ f.image.length) "image" .length
    ++ Violation.check (1 ≤ f.language.length) "language" .length
    ++ Violation.check (1 ≤ f.name.length && f.name.length ≤ 64) "name" .length
    ++ Violation.check (1 ≤ f.timeoutSeconds.toInt && f.timeoutSeconds.toInt ≤ 86400)
        "timeout_seconds" .range

/-- The record of a form.  Names and languages lose blank ends and capitals, so that neither
matters when a test is looked up. -/
def normalise (f : SecurityTestForm) : SecurityTest where
  name := Text.lowercase (Text.trim f.name)
  image := Text.trim f.image
  imageTag :=
    match f.imageTag.map Text.trim with
    | some tag => if tag.isEmpty then "latest" else tag
    | none => "latest"
  cmd := f.cmd
  language := Text.lowercase (Text.trim f.language)
  isDefault := f.isDefault
  timeoutSeconds := f.timeoutSeconds

/-- The form that would register a test as it is. -/
def ofTest (t : SecurityTest) : SecurityTestForm where
  name := t.name
  image := t.image
  imageTag := some t.imageTag
  cmd := t.cmd
  language := t.language
  isDefault := t.isDefault
  timeoutSeconds := t.timeoutSeconds

end SecurityTestForm

instance : ToJson SecurityTestForm where
  toJson f := .object
    [("name", toJson f.name), ("image", toJson f.image), ("imageTag", toJson f.imageTag),
      ("cmd", toJson f.cmd), ("language", toJson f.language), ("default", toJson f.isDefault),
      ("timeOutSeconds", toJson f.timeoutSeconds)]

instance : FromJson SecurityTestForm where
  read? levels d := do
    let r ← Record.ofDocument? SecurityTest.members levels d
    return {
      name := ← r.required "name"
      image := ← r.required "image"
      imageTag := ← r.orElse "imageTag" none
      cmd := ← r.required "cmd"
      language := ← r.required "language"
      isDefault := ← r.orElse "default" false
      timeoutSeconds := ← r.required "timeOutSeconds" }

end ScanService
