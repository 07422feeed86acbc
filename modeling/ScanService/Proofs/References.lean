import ScanService.Proofs.Daemon
import ScanService.Proofs.Jobs.Course

/-!
# Image references that are split again

A test has an image and a tag, a backend is given one reference for both, and a daemon that is to pull
the image wants the two apart again.  The colon between them is the last one of the reference, since a
tag has none, and it is not taken for that of a port, since a tag has no slash either.

So a run looks for an image, pulls it unless it is there, and creates a unit from it, and whatever the
image is, the same one is meant by these calls.  What a daemon makes of the calls is another matter:
the image and the tag of a pull go into a query as they are, where an ampersand begins a new member.

## What is here

* `splitLast_eq_none_iff`, `splitLast_eq_some_iff` — where a character is for the last time.
* `splitImage_eq_iff` — **what a reference is split into.**
* `SecurityTest.resolvedTag`, `splitImage_imageRef` — the reference of a test is split into what it
  was made of.
* `Course.exists_preparation` — the calls of a run that name an image.
* `references_split_back` — **the image that is pulled is the one that was looked for, and the unit is
  created from it**, as far as a daemon can read its name.
* `ampersand_misleads_pull` — a name that it cannot read.
-/

namespace ScanService

/-! ## Splitting -/

namespace Execution

variable {c : Char} {s front back : List Char}

theorem splitLast_eq_none_iff : splitLast c s = none ↔ c ∉ s := by
  induction s with
  | nil => simp [splitLast]
  | cons d s ih =>
    rw [splitLast, List.mem_cons, not_or, ← ih]
    cases splitLast c s with
    | some parts => simp
    | none => simp [eq_comm]

/-- A text is split at a character behind which there is no other one. -/
theorem splitLast_append (hback : c ∉ back) (front : List Char) :
    splitLast c (front ++ c :: back) = some (front, back) := by
  induction front with
  | nil =>
    rw [List.nil_append, splitLast, splitLast_eq_none_iff.mpr hback]
    exact if_pos rfl
  | cons d front ih => rw [List.cons_append, splitLast, ih]

/-- **A text is split where the character is for the last time.** -/
theorem splitLast_eq_some_iff :
    splitLast c s = some (front, back) ↔ s = front ++ c :: back ∧ c ∉ back := by
  constructor
  · intro h
    induction s generalizing front with
    | nil => cases h
    | cons d s ih =>
      rw [splitLast] at h
      split at h
      · next hsplit =>
        cases h
        obtain ⟨rfl, hback⟩ := ih hsplit
        exact ⟨rfl, hback⟩
      · next hnone =>
        rw [Option.ite_none_right_eq_some] at h
        obtain ⟨rfl, h⟩ := h
        cases h
        exact ⟨rfl, splitLast_eq_none_iff.mp hnone⟩
  · rintro ⟨rfl, hback⟩
    exact splitLast_append hback front

/-- A text that can stand behind an image as its tag, such as the empty one. -/
def IsTag (s : String) : Prop := ':' ∉ s.toList ∧ '/' ∉ s.toList

instance : DecidablePred IsTag := fun _ => inferInstanceAs (Decidable (_ ∧ _))

theorem toList_reference (image tag : String) :
    (image ++ ":" ++ tag).toList = image.toList ++ ':' :: tag.toList := by
  rw [String.toList_append, String.toList_append, List.append_assoc]
  rfl

theorem splitImage_of_isTag {tag : String} (h : IsTag tag) (image : String) :
    splitImage (image ++ ":" ++ tag) = (image, tag) := by
  simp only [splitImage, toList_reference, splitLast_append h.1, if_neg h.2, String.ofList_toList]

/-- A reference that does not end in a tag is that of an image with the tag `latest`. -/
theorem splitImage_of_forall_ne {reference : String}
    (h : ∀ image tag, IsTag tag → reference ≠ image ++ ":" ++ tag) :
    splitImage reference = (reference, defaultTag) := by
  rw [splitImage]
  split
  · next image tag hsplit =>
    obtain ⟨hreference, hcolon⟩ := splitLast_eq_some_iff.mp hsplit
    refine if_pos (Decidable.not_not.mp fun hslash => ?_)
    refine h (String.ofList image) (String.ofList tag) ⟨?_, ?_⟩ (String.toList_inj.mp ?_)
    · rwa [String.toList_ofList]
    · rwa [String.toList_ofList]
    · rw [toList_reference, String.toList_ofList, String.toList_ofList, hreference]
  · rfl

/-- **What a reference is split into:** the image and the tag that it was made of, or, if it ends in
no tag, itself and the tag `latest`. -/
theorem splitImage_eq_iff {reference image tag : String} :
    splitImage reference = (image, tag) ↔
      reference = image ++ ":" ++ tag ∧ IsTag tag ∨
        reference = image ∧ tag = defaultTag ∧
          ∀ image' tag', IsTag tag' → reference ≠ image' ++ ":" ++ tag' := by
  constructor
  · intro h
    by_cases hends : ∃ image' tag', IsTag tag' ∧ reference = image' ++ ":" ++ tag'
    · obtain ⟨image', tag', htag, rfl⟩ := hends
      cases (splitImage_of_isTag htag image').symm.trans h
      exact .inl ⟨rfl, htag⟩
    · have hnone : ∀ image' tag', IsTag tag' → reference ≠ image' ++ ":" ++ tag' :=
        fun image' tag' htag heq => hends ⟨image', tag', htag, heq⟩
      cases (splitImage_of_forall_ne hnone).symm.trans h
      exact .inr ⟨rfl, rfl, hnone⟩
  · rintro (⟨rfl, htag⟩ | ⟨rfl, rfl, hnone⟩)
    · exact splitImage_of_isTag htag image
    · exact splitImage_of_forall_ne hnone

end Execution

/-! ## The reference of a test -/

namespace SecurityTest

/-- The tag of the image that a test is run from. -/
def resolvedTag (t : SecurityTest) : String :=
  if t.imageTag = "" then Execution.defaultTag else t.imageTag

theorem imageRef_eq (t : SecurityTest) : t.imageRef = t.image ++ ":" ++ t.resolvedTag := by
  simp only [imageRef, resolvedTag, String.isEmpty_iff]
  rfl

theorem isTag_resolvedTag {t : SecurityTest} (h : Execution.IsTag t.imageTag) :
    Execution.IsTag t.resolvedTag := by
  rw [resolvedTag]
  split
  · decide
  · exact h

end SecurityTest

namespace Execution

/-- **The reference of a test is split into what it was made of.** -/
theorem splitImage_imageRef {t : SecurityTest} (h : IsTag t.imageTag) :
    splitImage t.imageRef = (t.image, t.resolvedTag) := by
  rw [t.imageRef_eq, splitImage_of_isTag (SecurityTest.isTag_resolvedTag h)]

end Execution

/-! ## Runs -/

namespace Service

open Execution (Docker IsPlainPath IsPlainQuery IsTag UnitContext splitImage)
open scoped Text

/-- A unit is created from the image that was prepared, and no image is named after that. -/
theorem Course.exists_preparation {r : Runner} {ctx : UnitContext} {test : SecurityTest}
    {l : List (Program.Exchange Execution.inquiry)} {fate : Fate} (h : Course r ctx test l fate) :
    ∃ (p rest : List (Program.Exchange Execution.inquiry)) (answer : Except BackendError String),
      l = p ++ ⟨.createUnit ctx test.imageRef (r.command test), answer⟩ :: rest ∧
      Preparation test.imageRef p ∧ ∀ x ∈ rest, x.1.image? = none := by
  cases h with
  | refused hp e => exact ⟨_, [], _, rfl, hp, nofun⟩
  | notStarted hp | timedOut hp | notEnded hp | unread hp | reported hp =>
    exact ⟨_, _, _, rfl, hp, by simp [Execution.Call.image?]⟩

/-- **References are split back, and so the image that is pulled is the one that was looked for, and
the unit is created from it.**  The reference of a test whose tag has neither a colon nor a slash is
split into the image and the tag, whatever stands in the image; an empty tag is read as `latest`.
Every run of the test looks for that reference, pulls it unless it is there, creates a unit from it
and names no image after that.  Each of these calls is exactly one request to a daemon.  A container
is created from the reference; it is looked for if a path holds it as it is; and the image is pulled
under the tag if a query holds them as they are.  And whatever a text is split into, it is made of
it, or it is the image and the tag is `latest`. -/
theorem references_split_back (test : SecurityTest) (s : String) :
    (IsTag test.imageTag →
      splitImage test.imageRef =
        (test.image, if test.imageTag = "" then "latest" else test.imageTag) ∧
      test.imageRef = test.image ++ ":" ++ test.resolvedTag ∧
      (∀ (r : Runner) (ctx : UnitContext) (u : List (Program.Exchange activity)),
        (r.run ctx test).Trace u () →
          ∃ (p rest : List (Program.Exchange Execution.inquiry))
            (answer : Except BackendError String),
            toBackend u = p ++ ⟨.createUnit ctx test.imageRef (r.command test), answer⟩ :: rest ∧
            Preparation test.imageRef p ∧ ∀ x ∈ rest, x.1.image? = none) ∧
      ∀ (d : Docker) (place : d.Place) (ctx : UnitContext) (command : String),
        (∀ call : Execution.Call, call.image? = some test.imageRef → ∃ q, d.IsRequest call q) ∧
        place.Asks (.createUnit ctx test.imageRef command) (.create test.imageRef) ∧
        (IsPlainPath test.imageRef →
          place.Asks (.imageIsLoaded test.imageRef) (.look test.imageRef)) ∧
        (IsPlainQuery test.image test.resolvedTag →
          place.Asks (.pullImage test.imageRef) (.pull test.image test.resolvedTag))) ∧
    ∀ name tag : String, splitImage s = (name, tag) →
      s = name ++ ":" ++ tag ∨ s = name ∧ tag = "latest" := by
  refine ⟨fun htag =>
    ⟨Execution.splitImage_imageRef htag, test.imageRef_eq, ?run, ?daemon⟩, ?text⟩
  case run =>
    intro r ctx u hu
    obtain ⟨fate, hcourse⟩ := course_of_trace hu
    exact hcourse.exists_preparation
  case daemon =>
    intro d place ctx command
    refine ⟨fun call hcall => place.exists_isRequest call (by rw [hcall]; rfl),
      place.asks_create ctx test.imageRef command, place.asks_look, fun hquery => ?_⟩
    exact place.asks_pull (Execution.splitImage_imageRef htag) hquery
  case text =>
    intro name tag h
    rcases Execution.splitImage_eq_iff.mp h with ⟨hs, -⟩ | ⟨hs, htag, -⟩
    · exact .inl hs
    · exact .inr ⟨hs, htag⟩

/-! ### Samples -/

/-- The daemon on the host itself. -/
def localDaemon : Docker := .ofUrl "http://127.0.0.1:2375/"

/-- Where it is. -/
def localPlace : localDaemon.Place where
  host := "http://127.0.0.1:2375".toList
  authority := "127.0.0.1:2375".toList
  folder := []
  isHost := ⟨.inl rfl, by decide, by decide⟩
  base_eq := String.toList_ofList
  chars := nofun
  notSame := nofun
  notParent := nofun

/-- A test of an image behind a port, named with a digest and without a tag.  Its image is pulled, and
then no unit is created. -/
def digestTest : SecurityTest :=
  ⟨"scan", "registry:5000/huskyci/scan@sha256:0f", "", "scan", "python", true, 60⟩

/-- The colons of the port and of the digest separate nothing, and mean nothing to a daemon; a text
that ends in a port is one image. -/
theorem references_split_back_sample :
    IsTag digestTest.imageTag ∧
    splitImage digestTest.imageRef = ("registry:5000/huskyci/scan@sha256:0f", "latest") ∧
    (∃ u, (Runner.run ⟨⟨"", ⟨0⟩, ⟨0⟩⟩, .builtin⟩ ⟨default, "u"⟩ digestTest).Trace u () ∧
      ∃ p rest answer, toBackend u = p ++ ⟨.createUnit ⟨default, "u"⟩ digestTest.imageRef "scan",
        answer⟩ :: rest ∧ Preparation digestTest.imageRef p) ∧
    localPlace.Asks (.imageIsLoaded digestTest.imageRef)
      (.look "registry:5000/huskyci/scan@sha256:0f:latest") ∧
    localPlace.Asks (.pullImage digestTest.imageRef)
      (.pull "registry:5000/huskyci/scan@sha256:0f" "latest") ∧
    splitImage "registry:5000/scan" = ("registry:5000/scan", "latest") ∧
    ("registry:5000/scan" = "registry:5000/scan" ++ ":" ++ "latest" ∨
      "registry:5000/scan" = "registry:5000/scan" ∧ "latest" = "latest") := by
  obtain ⟨htest, htext⟩ := references_split_back digestTest "registry:5000/scan"
  have htag : IsTag digestTest.imageTag := by decide
  have hport : splitImage "registry:5000/scan" = ("registry:5000/scan", "latest") := by decide
  obtain ⟨hsplit, -, hrun, hdaemon⟩ := htest htag
  obtain ⟨-, -, hlook, hpull⟩ := hdaemon localDaemon localPlace ⟨default, "u"⟩ "scan"
  have hu : (Runner.run ⟨⟨"", ⟨0⟩, ⟨0⟩⟩, .builtin⟩ ⟨default, "u"⟩ digestTest).Trace
      [⟨.backend (.imageIsLoaded digestTest.imageRef), .ok false⟩,
        ⟨.backend (.pullImage digestTest.imageRef), .ok ()⟩, ⟨.readTimer, ⟨0⟩⟩, ⟨.sleep ⟨0⟩, ()⟩,
        ⟨.backend (.imageIsLoaded digestTest.imageRef), .ok true⟩,
        ⟨.backend (.createUnit ⟨default, "u"⟩ digestTest.imageRef _), .error (.abnormal "full")⟩,
        ⟨.readClock, Timestamp.unixEpoch⟩, ⟨.store _, .ok ()⟩] () :=
    .ask (.ask (.ask (.ask (.ask (.ask (.ask (.ask (.done _))))))))
  obtain ⟨p, rest, answer, hbackend, hp, -⟩ := hrun _ _ _ hu
  exact ⟨htag, hsplit, ⟨_, hu, p, rest, answer, hbackend, hp⟩,
    hlook (by decide), hpull (by decide), hport, htext _ _ hport⟩

/-- A test of an image whose name a query does not hold as it is. -/
def ampersandTest : SecurityTest := ⟨"scan", "scan&tag=dev", "1.7", "scan", "python", true, 60⟩

/-- An ampersand begins a new member of a form.  So one reference is looked for and is what the unit
is created from, and another image is pulled. -/
theorem ampersand_misleads_pull :
    IsTag ampersandTest.imageTag ∧
    splitImage ampersandTest.imageRef = ("scan&tag=dev", "1.7") ∧
    localPlace.Asks (.imageIsLoaded ampersandTest.imageRef) (.look "scan&tag=dev:1.7") ∧
    localPlace.Asks (.pullImage ampersandTest.imageRef) (.pull "scan" "dev") ∧
    localPlace.Asks (.createUnit ⟨default, "u"⟩ ampersandTest.imageRef "scan")
      (.create "scan&tag=dev:1.7") := by
  have hsplit : splitImage ampersandTest.imageRef = ("scan&tag=dev", "1.7") := by decide
  refine ⟨by decide, hsplit, localPlace.asks_look (by decide), ?_, localPlace.asks_create _ _ _⟩
  -- the form has a member more than was meant, and the first tag counts
  have hform : Text.form (Execution.pullForm "scan&tag=dev" "1.7") = Text.form
      [("fromImage".toList, "scan".toList), ("tag".toList, "dev".toList),
        ("tag".toList, "1.7".toList)] := by decide
  exact localPlace.asks_pull_of_form hsplit (Execution.isPlain_pullAddress (by decide) (by decide)
    (by decide)) hform (List.cons_ne_nil _ _) (by decide) rfl rfl

end Service
end ScanService
