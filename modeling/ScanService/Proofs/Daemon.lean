import ScanService.Execution.Docker
import ScanService.Proofs.Http.Address

/-!
# What a daemon is asked to do with an image

A daemon reads requests by their method, their path and their query.  It is told here off a request
alone, without regard to who sends it, what the daemon is to do with which image.

A container is created from the reference that the body of the request holds.  The other two calls
put texts into an address as they are, and nothing is written with percent signs but what an address
cannot hold.  So the daemon reads these texts only if they are free of characters that mean something
else where they stand.

## What is here

* `imageRequest?` — what a request asks a daemon to do with an image.
* `Docker.IsRequest`, `Docker.Place.exists_isRequest` — **a call that names an image is exactly one
  request**, whatever the image.
* `IsPlainPath`, `IsPlainQuery` — texts that a path, and a query, hold as they are.
* `Docker.Place.asks_look`, `asks_pull`, `asks_create` — **what the three calls that name an image ask
  for.**
-/

namespace ScanService
namespace Execution

open Http (Address Method Request Response Loss)
open scoped Text

/-! ## Reading requests -/

/-- What a daemon is asked to do with an image. -/
inductive ImageRequest where
  /-- To look for a reference. -/
  | look (reference : String)
  /-- To fetch an image under a tag. -/
  | pull (image tag : String)
  /-- To create a container from a reference. -/
  | create (reference : String)
  deriving DecidableEq, Repr

/-- What a request asks a daemon in a folder to do with an image, if it is about one. -/
def imageRequest? (folder : List (List Char)) (q : Request) : Option ImageRequest :=
  match q.method with
  | .get => do
    let parts ← q.address.path.dropPrefix? (folder ++ ["images".toList])
    let parts ← parts.dropSuffix? ["json".toList]
    return .look (← Text.percentText? (['/'].intercalate parts))
  | .post =>
    if q.address.path = folder ++ ["images".toList, "create".toList] then do
      let query ← q.address.query
      return .pull (← Text.formValue? "fromImage" query) (← Text.formValue? "tag" query)
    else if q.address.path = folder ++ ["containers".toList, "create".toList] then do
      let body ← q.body
      return .create (← (← body.get? "Image").text?)
    else none

/-- The image that a call names. -/
def Call.image? : Call → Option String
  | imageIsLoaded image | pullImage image | createUnit _ image _ => some image
  | startUnit _ | waitUnit _ _ | readOutput _ | ping => none

namespace Docker

variable {d : Docker} {method : Method} {path image : String} {body : Option Json}
  {address : Address} {α β : Type}

/-! ## Calls that are one request -/

/-- A call is answered by this request and no other. -/
def IsRequest (d : Docker) (call : Execution.Call) (q : Request) : Prop :=
  ∃ f : Except Loss Response → call.Answer, d.answer call = .ask q fun r => .done (f r)

/-- What is computed from an answer asks nothing. -/
theorem exists_done_lift {f : β → Dialogue α} (e : Except BackendError β)
    (hf : ∀ b, ∃ v, (f b).run = .done v) : ∃ v, (liftM e >>= f : Dialogue α).run = .done v := by
  cases e with
  | ok b => exact hf b
  | error e => exact ⟨.error e, rfl⟩

/-- A request goes to the address that its path gives; if what comes after it asks nothing, it is the
only one. -/
theorem ask_bind_run {k : Response → Dialogue α}
    (haddress : Address.parse? (d.base ++ path).toList = some address)
    (hk : ∀ r, ∃ v, (k r).run = .done v) :
    ∃ f : Except Loss Response → Except BackendError α, (d.ask method path body >>= k).run =
      .ask (I := Http.exchange) ⟨method, address, body, none⟩ fun r => .done (f r) := by
  choose g hg using hk
  refine ⟨fun r => (r.mapError lossError).bind g, ?_⟩
  have hsend : (d.ask method path body).run =
      .ask (I := Http.exchange) ⟨method, address, body, none⟩ fun r =>
        .done (r.mapError lossError) := by
    rw [ask, send, haddress]
    rfl
  rw [ExceptT.run_bind, hsend]
  refine congrArg (Program.ask _) (funext fun r => ?_)
  cases r with
  | ok r => exact hg r
  | error e => rfl

theorem isRequest_imageIsLoaded
    (h : Address.parse? (d.base ++ ("/images/" ++ image ++ "/json")).toList = some address) :
    d.IsRequest (.imageIsLoaded image) ⟨.get, address, none, none⟩ := by
  refine ask_bind_run h fun r => ?_
  split
  · exact ⟨.ok false, rfl⟩
  · exact exists_done_lift (check r) fun _ => ⟨.ok true, rfl⟩

theorem isRequest_pullImage
    (h : Address.parse? (d.base ++ ("/images/create?fromImage=" ++ (splitImage image).1 ++ "&tag="
      ++ (splitImage image).2)).toList = some address) :
    d.IsRequest (.pullImage image) ⟨.post, address, none, none⟩ :=
  ask_bind_run h fun r => exists_done_lift (check r) fun _ => ⟨.ok (), rfl⟩

theorem isRequest_createUnit (ctx : UnitContext) (command : String)
    (h : Address.parse? (d.base ++ "/containers/create").toList = some address) :
    d.IsRequest (.createUnit ctx image command)
      ⟨.post, address, some (containerPayload ctx image command), none⟩ :=
  ask_bind_run h fun r => exists_done_lift (check r) fun r =>
    exists_done_lift (readBody lossError r) fun created => ⟨.ok created.id, rfl⟩

/-! ## Places -/

/-- Where a daemon is: at a host, in a folder whose name needs no percent signs. -/
structure Place (d : Docker) where
  /-- What its URLs begin with. -/
  host : List Char
  /-- The authority of the host. -/
  authority : List Char
  /-- The parts of the folder between its slashes. -/
  folder : List (List Char)
  isHost : Address.IsHost host authority
  base_eq : d.base.toList = host ++ folder.flatMap ('/' :: ·)
  chars : ∀ part ∈ folder, ∀ c ∈ part, Address.isPathChar c = true ∧ Address.isSlash c = false
  notSame : ∀ part ∈ folder, Address.isSameFolder part = false
  notParent : ∀ part ∈ folder, Address.isParentFolder part = false

namespace Place

variable (p : d.Place)

include p in
/-- Whatever follows a slash, there is an address for it. -/
theorem exists_parse? (path : String) {s : List Char} (hpath : path.toList = '/' :: s) :
    ∃ address, Address.parse? (d.base ++ path).toList = some address := by
  rw [String.toList_append, p.base_eq, hpath, List.append_assoc]
  cases p.folder with
  | nil => exact ⟨_, p.isHost.parse?_eq s⟩
  | cons part folder =>
    rw [List.flatMap_cons, List.cons_append, List.cons_append]
    exact ⟨_, p.isHost.parse?_eq _⟩

include p in
/-- **A call that names an image is exactly one request**, whatever the image. -/
theorem exists_isRequest (call : Execution.Call) (h : call.image?.isSome) :
    ∃ q, d.IsRequest call q := by
  cases call with
  | imageIsLoaded image =>
    obtain ⟨address, haddress⟩ := p.exists_parse? ("/images/" ++ image ++ "/json")
      (by rw [String.toList_append, String.toList_append]; rfl)
    exact ⟨_, isRequest_imageIsLoaded haddress⟩
  | pullImage image =>
    obtain ⟨address, haddress⟩ := p.exists_parse? ("/images/create?fromImage="
      ++ (splitImage image).1 ++ "&tag=" ++ (splitImage image).2)
      (by simp only [String.toList_append]; rfl)
    exact ⟨_, isRequest_pullImage haddress⟩
  | createUnit ctx image command =>
    obtain ⟨address, haddress⟩ := p.exists_parse? "/containers/create" rfl
    exact ⟨_, isRequest_createUnit ctx command haddress⟩
  | startUnit | waitUnit | readOutput | ping => cases h

theorem isPathChar_plain {c : Char} (h : Address.isPathChar c = true) : (c == '?') = false ∧
    (c == '#' || c == '\t' || c == '\n' || c == '\r') = false := by
  have hne : ∀ e, Address.isPathChar e = false → (c == e) = false := fun e he => by
    rw [beq_eq_false_iff_ne]
    rintro rfl
    exact nomatch he.symm.trans h
  rw [hne '?' rfl, hne '#' rfl, hne '\t' rfl, hne '\n' rfl, hne '\r' rfl]
  exact ⟨rfl, rfl⟩

/-- The address of what is written behind the URL of a daemon, if it is plain. -/
theorem parse?_eq {a : Address} (h : a.IsPlain) {path : String} (hpath : path.toList = a.target) :
    Address.parse? (d.base ++ path).toList =
      some ⟨p.authority, p.folder ++ a.encoded.path, a.encoded.query⟩ := by
  have htarget : (⟨p.authority, p.folder ++ a.path, a.query⟩ : Address).target =
      p.folder.flatMap ('/' :: ·) ++ a.target := by
    rw [Address.target, Address.target, List.flatMap_append, List.append_assoc]
  have hne : a.target ≠ [] := by
    obtain ⟨part, parts, hparts⟩ := List.exists_cons_of_ne_nil h.path
    rw [Address.target, hparts]
    simp
  have hplain : (⟨p.authority, p.folder ++ a.path, a.query⟩ : Address).IsPlain := by
    refine ⟨by simp [h.path], List.forall_mem_append.mpr ⟨fun part hpart c hc => ?_, h.part⟩,
      List.forall_mem_append.mpr ⟨p.notSame, h.notSame⟩,
      List.forall_mem_append.mpr ⟨p.notParent, h.notParent⟩, ?_, ?_⟩
    · obtain ⟨hchar, hslash⟩ := p.chars part hpart c hc
      rw [hslash, (isPathChar_plain hchar).1]
      rfl
    · rw [htarget, List.forall_mem_append]
      refine ⟨fun c hc => ?_, h.unbroken⟩
      obtain ⟨part, hpart, hc⟩ := List.mem_flatMap.mp hc
      rcases List.mem_cons.mp hc with rfl | hc
      · rfl
      · exact (isPathChar_plain (p.chars part hpart c hc).1).2
    · rw [htarget, List.getLast?_append_of_ne_nil _ hne]
      exact h.last
  have hfolder : p.folder.map (Text.percentEncode Address.isPathChar) = p.folder := by
    conv_rhs => rw [← List.map_id p.folder]
    exact List.map_congr_left fun part hpart =>
      Text.percentEncode_eq_self fun c hc => (p.chars part hpart c hc).1
  rw [String.toList_append, p.base_eq, hpath, List.append_assoc, ← htarget,
    hplain.parse?_target p.isHost, Address.encoded, List.map_append, hfolder]
  rfl

end Place
end Docker

/-! ## Texts that addresses hold as they are -/

/-- Characters that mean something else in a path, or get lost in it. -/
def pathMarks : List Char := ['%', '?', '#', '\\', '\t', '\n', '\r']

/-- Characters that mean something else in a query, or get lost in it. -/
def queryMarks : List Char := ['%', '#', '&', '+', '\t', '\n', '\r']

/-- A reference that a path holds as it is: between its slashes, there is no step between folders. -/
structure IsPlainPath (reference : String) : Prop where
  chars : ∀ c ∈ reference.toList, c ∉ pathMarks
  notSame : ∀ part ∈ reference.toList.splitOn '/', Address.isSameFolder part = false
  notParent : ∀ part ∈ reference.toList.splitOn '/', Address.isParentFolder part = false

instance : DecidablePred IsPlainPath := fun _ =>
  decidable_of_iff (_ ∧ _ ∧ _)
    ⟨fun h => ⟨h.1, h.2.1, h.2.2⟩, fun h => ⟨h.chars, h.notSame, h.notParent⟩⟩

/-- An image and a tag that a query holds as they are: it ends with the tag, so that is not blank at
its end. -/
structure IsPlainQuery (image tag : String) : Prop where
  imageChars : ∀ c ∈ image.toList, c ∉ queryMarks
  tagChars : ∀ c ∈ tag.toList, c ∉ queryMarks
  last : ∀ c ∈ tag.toList.getLast?, 32 < c.toNat

instance (image tag : String) : Decidable (IsPlainQuery image tag) :=
  decidable_of_iff (_ ∧ _ ∧ _)
    ⟨fun h => ⟨h.1, h.2.1, h.2.2⟩, fun h => ⟨h.imageChars, h.tagChars, h.last⟩⟩

section

variable {s marks : List Char}

theorem unbroken_of_notMem (hmarks : ['#', '\t', '\n', '\r'] ⊆ marks) (h : ∀ c ∈ s, c ∉ marks) :
    ∀ c ∈ s, (c == '#' || c == '\t' || c == '\n' || c == '\r') = false := by
  intro c hc
  have hnone : c ∉ ['#', '\t', '\n', '\r'] := fun hmem => h c hc (hmarks hmem)
  simp only [List.mem_cons, not_or] at hnone
  simp [hnone]

theorem isFormText_of_notMem (h : ∀ c ∈ s, c ∉ queryMarks) : Text.IsFormText s :=
  ⟨fun hc => h _ hc (by decide), fun hc => h _ hc (by decide), fun hc => h _ hc (by decide)⟩

theorem toNat_lt_of_isForbidden {c : Char} (h : Address.isForbidden c = false) : c.toNat < 128 := by
  simp only [Address.isForbidden, Bool.or_eq_false_iff, decide_eq_false_iff_not] at h
  omega

theorem isPathChar_lt (c : Char) (h : Address.isPathChar c = true) : c.toNat < 128 := by
  simp only [Address.isPathChar, Bool.not_eq_true', Bool.or_eq_false_iff] at h
  exact toNat_lt_of_isForbidden h.1.1.1.1

theorem isQueryChar_lt (c : Char) (h : Address.isQueryChar c = true) : c.toNat < 128 := by
  simp only [Address.isQueryChar, Bool.not_eq_true', Bool.or_eq_false_iff] at h
  exact toNat_lt_of_isForbidden h.1

end

/-! ## The addresses of requests

They are written down without percent signs, and without the host and the folder of the daemon. -/

/-- Where a reference is looked for. -/
def lookAddress (reference : String) : Address :=
  ⟨[], "images".toList :: (reference.toList.splitOn '/' ++ ["json".toList]), none⟩

/-- The form by which an image is asked for. -/
def pullForm (image tag : String) : List (List Char × List Char) :=
  [("fromImage".toList, image.toList), ("tag".toList, tag.toList)]

/-- Where an image is asked for. -/
def pullAddress (image tag : String) : Address :=
  ⟨[], ["images".toList, "create".toList], some (Text.form (pullForm image tag))⟩

/-- Where a container is created. -/
def createAddress : Address := ⟨[], ["containers".toList, "create".toList], none⟩

theorem target_lookAddress (reference : String) :
    (lookAddress reference).target = ("/images/" ++ reference ++ "/json").toList := by
  have h : (lookAddress reference).target =
      "/images".toList ++ ((reference.toList.splitOn '/').flatMap ('/' :: ·) ++ "/json".toList) := by
    simp [Address.target, lookAddress]
  rw [h, Text.flatMap_splitOn, String.toList_append, String.toList_append]
  simp

theorem target_pullAddress (image tag : String) : (pullAddress image tag).target =
    ("/images/create?fromImage=" ++ image ++ "&tag=" ++ tag).toList := by
  simp [Address.target, pullAddress, Text.form, pullForm, List.intercalate_cons_cons]

theorem isPlain_lookAddress {reference : String} (h : IsPlainPath reference) :
    (lookAddress reference).IsPlain := by
  refine ⟨List.cons_ne_nil _ _, ?_, ?_, ?_, ?_, ?_⟩
  · refine List.forall_mem_cons.mpr ⟨by decide, List.forall_mem_append.mpr ⟨?_, by decide⟩⟩
    intro part hpart c hc
    obtain ⟨hslash, hmem⟩ := Text.of_mem_splitOn hpart
    have hmarks := h.chars c (hmem c hc)
    have hne : c ≠ '/' := by rintro rfl; exact hslash hc
    simp only [pathMarks, List.mem_cons, not_or] at hmarks
    simp [Address.isSlash, hne, hmarks]
  · exact List.forall_mem_cons.mpr ⟨by decide, List.forall_mem_append.mpr ⟨h.notSame, by decide⟩⟩
  · exact List.forall_mem_cons.mpr
      ⟨by decide, List.forall_mem_append.mpr ⟨h.notParent, by decide⟩⟩
  · rw [target_lookAddress, String.toList_append, String.toList_append]
    exact List.forall_mem_append.mpr ⟨List.forall_mem_append.mpr
      ⟨by decide, unbroken_of_notMem (by decide) h.chars⟩, by decide⟩
  · rw [target_lookAddress, String.toList_append, List.getLast?_append_of_ne_nil _ (by decide)]
    decide

theorem isPlain_pullAddress {image tag : String}
    (himage : ∀ c ∈ image.toList, (c == '#' || c == '\t' || c == '\n' || c == '\r') = false)
    (htag : ∀ c ∈ tag.toList, (c == '#' || c == '\t' || c == '\n' || c == '\r') = false)
    (hlast : ∀ c ∈ tag.toList.getLast?, 32 < c.toNat) : (pullAddress image tag).IsPlain := by
  have hpath : (pullAddress image tag).path = ["images".toList, "create".toList] := rfl
  refine ⟨List.cons_ne_nil _ _, by rw [hpath]; decide, by rw [hpath]; decide,
    by rw [hpath]; decide, ?_, ?_⟩
  · rw [target_pullAddress]
    simp only [String.toList_append, List.forall_mem_append]
    exact ⟨⟨⟨by decide, himage⟩, by decide⟩, htag⟩
  · rw [target_pullAddress, String.toList_append, List.getLast?_append]
    intro c hc
    cases htext : tag.toList.getLast? with
    | none =>
      rw [htext, Option.none_or, String.toList_append,
        List.getLast?_append_of_ne_nil _ (by decide)] at hc
      revert c
      decide
    | some last =>
      rw [htext] at hc
      exact hlast c (htext.trans hc)

theorem isPlain_createAddress : createAddress.IsPlain :=
  ⟨by decide, by decide, by decide, by decide, by decide, by decide⟩

/-! ## What is asked for -/

namespace Docker.Place

variable {d : Docker} (p : d.Place)

/-- A call is a request, and it asks the daemon for this. -/
def Asks (call : Execution.Call) (what : ImageRequest) : Prop :=
  ∃ q, d.IsRequest call q ∧ imageRequest? p.folder q = some what

/-- **Whoever looks for a reference asks for it.** -/
theorem asks_look {reference : String} (h : IsPlainPath reference) :
    p.Asks (.imageIsLoaded reference) (.look reference) := by
  have haddress := p.parse?_eq (isPlain_lookAddress h) (target_lookAddress reference).symm
  refine ⟨_, isRequest_imageIsLoaded haddress, ?_⟩
  let written := (reference.toList.splitOn '/').map (Text.percentEncode Address.isPathChar)
  have hencoded : p.folder ++ (lookAddress reference).encoded.path =
      (p.folder ++ ["images".toList]) ++ (written ++ ["json".toList]) := by
    simp only [lookAddress, written, Address.encoded, List.map_cons, List.map_append,
      List.map_nil, List.append_assoc]
    rfl
  have hdrop : (written ++ ["json".toList]).dropSuffix? ["json".toList] = some written :=
    List.dropSuffix?_eq_some_iff.mpr ⟨_, rfl, beq_self_eq_true _⟩
  have hpercent : '%' ∉ reference.toList := fun hc => h.chars _ hc (by decide)
  have hread : Text.percentText? (['/'].intercalate written) = some reference := by
    rw [← Text.percentEncode_intercalate rfl, List.intercalate_splitOn,
      Text.percentText?_percentEncode isPathChar_lt hpercent, String.ofList_toList]
  simp only [imageRequest?, hencoded, List.dropPrefix?_append_of_beq _ (beq_self_eq_true _),
    Option.bind_eq_bind, Option.bind_some, hdrop, hread]
  rfl

/-- Whoever pulls a reference asks for what a daemon finds in the form, which need not be what was
meant by it. -/
theorem asks_pull_of_form {reference image tag fetched under : String}
    (hsplit : splitImage reference = (image, tag)) (hplain : (pullAddress image tag).IsPlain)
    {members : List (List Char × List Char)}
    (hform : Text.form (pullForm image tag) = Text.form members) (hne : members ≠ [])
    (hmembers : ∀ m ∈ members, Text.IsFormText m.1 ∧ '=' ∉ m.1 ∧ Text.IsFormText m.2)
    (hfetched : (members.map fun m => (some (String.ofList m.1), some (String.ofList m.2))).lookup
      (some "fromImage") = some (some fetched))
    (hunder : (members.map fun m => (some (String.ofList m.1), some (String.ofList m.2))).lookup
      (some "tag") = some (some under)) :
    p.Asks (.pullImage reference) (.pull fetched under) := by
  have haddress := p.parse?_eq hplain (target_pullAddress image tag).symm
  refine ⟨_, isRequest_pullImage (by rw [hsplit]; exact haddress), ?_⟩
  have hread := Text.formMembers_percentEncode hne hmembers isQueryChar_lt rfl rfl
  have hpath : (pullAddress image tag).encoded.path = ["images".toList, "create".toList] := rfl
  have hquery : (pullAddress image tag).encoded.query =
      some (Text.percentEncode Address.isQueryChar (Text.form members)) := by
    rw [← hform]
    rfl
  simp only [imageRequest?, hpath, hquery, if_true, Option.bind_eq_bind, Option.bind_some,
    Text.formValue?, hread, hfetched, hunder]
  rfl

/-- **Whoever pulls a reference asks for the image under the tag that it is split into**, if a query
holds both as they are. -/
theorem asks_pull {reference image tag : String} (hsplit : splitImage reference = (image, tag))
    (h : IsPlainQuery image tag) : p.Asks (.pullImage reference) (.pull image tag) := by
  have hplain : (pullAddress image tag).IsPlain :=
    isPlain_pullAddress (unbroken_of_notMem (by decide) h.imageChars)
      (unbroken_of_notMem (by decide) h.tagChars) h.last
  refine p.asks_pull_of_form hsplit hplain rfl (List.cons_ne_nil _ _) ?_ ?_ ?_
  · simp only [pullForm, List.forall_mem_cons]
    exact ⟨⟨by decide, by decide, isFormText_of_notMem h.imageChars⟩,
      ⟨by decide, by decide, isFormText_of_notMem h.tagChars⟩, nofun⟩
  · simp [pullForm]
  · simp only [pullForm, List.map_cons, List.map_nil, String.ofList_toList]
    rfl

/-- **Whoever creates a unit asks for a container of its reference**, whatever that is. -/
theorem asks_create (ctx : UnitContext) (reference command : String) :
    p.Asks (.createUnit ctx reference command) (.create reference) := by
  have htarget : "/containers/create".toList = createAddress.target := rfl
  have haddress := p.parse?_eq isPlain_createAddress htarget
  refine ⟨_, isRequest_createUnit ctx command haddress, ?_⟩
  have hpath : createAddress.encoded.path = ["containers".toList, "create".toList] := rfl
  have hne : p.folder ++ ["containers".toList, "create".toList] ≠
      p.folder ++ ["images".toList, "create".toList] := by
    rw [Ne, List.append_cancel_left_eq]
    decide
  simp only [imageRequest?, hpath, if_neg hne, if_true]
  rfl

end Docker.Place
end Execution
end ScanService
