import ScanService.Execution.Backend

/-!
# A backend that follows a script

`Rehearsal` answers the calls of an execution backend from a script.  The script says for each image
how the calls that concern it end, call by call; its last word for a kind of call stands for all
further ones.  What the script leaves open succeeds at once.

A call is answered with the time it takes, so that whoever asks can let that time pass first.
-/

namespace ScanService
namespace Execution

/-- The kinds of calls that a script distinguishes. -/
inductive Scene where
  | loaded
  | pull
  | create
  | start
  | wait
  | output
  | ping
  deriving DecidableEq, Repr

/-- How the calls for one image end. -/
structure Script where
  /-- Whether the image is there. -/
  loaded : List (Except BackendError Bool) := []
  /-- How pulling it ends. -/
  pull : List (Except BackendError Unit) := []
  /-- How creating a unit ends; the unit's identifier may be given. -/
  create : List (Except BackendError (Option String)) := []
  /-- How starting a unit ends. -/
  start : List (Except BackendError Unit) := []
  /-- How long a unit runs. -/
  wait : List (Except BackendError Duration) := []
  /-- What a unit prints. -/
  output : List (Except BackendError String) := []
  /-- Whether the backend is there; only the script of the image without a name is asked. -/
  ping : List (Except BackendError Unit) := []

/-- The word of a script for the `n`-th call, or a default if it has none. -/
def wordAt {α : Type} (words : List α) (n : Nat) (default : α) : α :=
  (words[min n (words.length - 1)]?).getD default

/-- A backend on script. -/
structure Rehearsal where
  /-- The scripts of the images. -/
  scripts : List (String × Script)
  /-- The calls so far, by image and kind. -/
  history : List (String × Scene)
  /-- The units created so far and their images, latest first. -/
  units : List (String × String)

namespace Rehearsal

/-- A backend at the beginning of its scripts. -/
def start (scripts : List (String × Script)) : Rehearsal := ⟨scripts, [], []⟩

/-- The script of an image. -/
def script (b : Rehearsal) (image : String) : Script := (b.scripts.lookup image).getD {}

/-- How often there was a call of a kind for an image. -/
def count (b : Rehearsal) (image : String) (scene : Scene) : Nat := b.history.count (image, scene)

/-- The backend after one more call. -/
def note (b : Rehearsal) (image : String) (scene : Scene) : Rehearsal :=
  { b with history := (image, scene) :: b.history }

/-- A unit that was never created. -/
def noSuchUnit (id : String) : BackendError := .api 404 ("no such unit " ++ id)

/-- What the script says to a call: the time it takes, and how it ends. -/
def answer : (c : Call) → Rehearsal → (Duration × c.Answer) × Rehearsal
  | .imageIsLoaded image, b =>
    ((⟨0⟩, wordAt (b.script image).loaded (b.count image .loaded) (.ok true)),
      b.note image .loaded)
  | .pullImage image, b =>
    ((⟨0⟩, wordAt (b.script image).pull (b.count image .pull) (.ok ())), b.note image .pull)
  | .createUnit _ image _, b =>
    let b' := b.note image .create
    match wordAt (b.script image).create (b.count image .create) (.ok none) with
    | .ok given =>
      let id := given.getD ("unit-" ++ Text.decimalText b.units.length)
      ((⟨0⟩, .ok id), { b' with units := (id, image) :: b.units })
    | .error e => ((⟨0⟩, .error e), b')
  | .startUnit id, b =>
    match b.units.lookup id with
    | none => ((⟨0⟩, .error (noSuchUnit id)), b)
    | some image =>
      ((⟨0⟩, wordAt (b.script image).start (b.count image .start) (.ok ())), b.note image .start)
  | .waitUnit id timeout, b =>
    match b.units.lookup id with
    | none => ((⟨0⟩, .error (noSuchUnit id)), b)
    | some image =>
      let b' := b.note image .wait
      match wordAt (b.script image).wait (b.count image .wait) (.ok ⟨0⟩) with
      | .error e => ((⟨0⟩, .error e), b')
      | .ok time =>
        if timeout < time then ((timeout, .error (.timeout timeout)), b')
        else ((time, .ok ()), b')
  | .readOutput id, b =>
    match b.units.lookup id with
    | none => ((⟨0⟩, .error (noSuchUnit id)), b)
    | some image =>
      ((⟨0⟩, wordAt (b.script image).output (b.count image .output) (.ok "")),
        b.note image .output)
  | .ping, b =>
    ((⟨0⟩, wordAt (b.script "").ping (b.count "" .ping) (.ok ())), b.note "" .ping)

end Rehearsal
end Execution
end ScanService
