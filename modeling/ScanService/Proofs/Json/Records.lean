import ScanService.Analysis
import ScanService.Proofs.Json.Documents
import ScanService.Proofs.Text.Uuid
import ScanService.Proofs.Time.Timestamp
import ScanService.Repository

/-!
# Records that are read back

What is stored and what is answered is a record's text, and a record's text is read as the record.
This is a law of each type, `ReadsBack`, together with how deep the texts of its values are nested.
The law of a list, of an optional value and of a record follows from those of its parts.

## What is here

* `ReadsBack` — the law; `ReadsBack.ofText?_toText` is what it comes to for texts.
* `readsBack_words`, `ReadsBack.option`, `ReadsBack.list` — the law of the types that have names for
  their values, of optional values and of lists.
* `Record.exists_holds`, `ReadsBack.record` — a record that is written as an object holds each of
  its members, so that it is read back if it can be put together from them.
* `records_roundTrip` — **every record round-trips through its text.**
-/

namespace ScanService

open Json (Document)
open FromJson (read? ofText?)

/-- Values of a type are read back from what they are written as, where that may be nested so
deep. -/
structure ReadsBack (α : Type) [ToJson α] [FromJson α] (depth : Nat) : Prop where
  /-- All numbers that are written are whole and read as written. -/
  isExact (a : α) : (toJson a).isExact = true
  /-- The document that is written is read as the value. -/
  read?_ofJson (a : α) {levels : Nat} (h : depth ≤ levels) :
    read? levels (Document.ofJson (toJson a)) = some a

variable {α : Type} [ToJson α] [FromJson α] {depth levels : Nat}

/-- **A value whose type reads back is read from its text.** -/
theorem ReadsBack.ofText?_toText (h : ReadsBack α depth) (hdepth : depth ≤ nestingLimit) (a : α) :
    ofText? (toJson a).toText = some a := by
  rw [ofText?, Json.toText, String.toList_ofList, Document.parse?_chars (h.isExact a),
    Option.bind_some, h.read?_ofJson a hdepth]

/-! ## Simple values -/

theorem readsBack_string : ReadsBack String 0 where
  isExact _ := rfl
  read?_ofJson _ _ _ := rfl

theorem readsBack_bool : ReadsBack Bool 0 where
  isExact _ := rfl
  read?_ofJson _ _ _ := rfl

theorem readsBack_int32 : ReadsBack Int32 0 where
  isExact n := by
    have hlow := n.le_toInt
    have hhigh := n.toInt_lt
    simp only [toJson, Json.whole, Json.isExact, Number.isExact, Bool.and_eq_true,
      decide_eq_true_eq]
    omega
  read?_ofJson n levels _ := by
    have hlow := n.le_toInt
    have hhigh := n.toInt_lt
    refine Option.bind_eq_some_iff.mpr ⟨n.toInt, rfl, ?_⟩
    rw [if_pos (by omega), Int32.ofInt_toInt]

theorem readsBack_timestamp : ReadsBack Timestamp 0 where
  isExact _ := rfl
  read?_ofJson t _ _ := by
    refine Option.bind_eq_some_iff.mpr ⟨t.text, rfl, ?_⟩
    rw [Timestamp.text, String.toList_ofList, Timestamp.parse?_chars]

theorem readsBack_uuid : ReadsBack Uuid 0 where
  isExact _ := rfl
  read?_ofJson u _ _ := by
    refine Option.bind_eq_some_iff.mpr ⟨u.text, rfl, ?_⟩
    rw [Uuid.text, String.toList_ofList, Uuid.parse?_chars]

/-- A type whose values are written by name is read back if each name is that of its value. -/
theorem readsBack_words {words : List (String × α)} {name : α → String}
    (hwrite : ∀ a : α, toJson a = .text (name a))
    (hread : ∀ levels, (read? levels : Document → Option α) = FromJson.readWord? words levels)
    (hname : ∀ a, words.lookup (name a) = some a) : ReadsBack α 0 where
  isExact a := by rw [hwrite, Json.isExact]
  read?_ofJson a levels _ := by rw [hwrite, hread, Document.ofJson, FromJson.readWord?, hname]

theorem readsBack_severity : ReadsBack Severity 0 :=
  readsBack_words (fun _ => rfl) (fun _ => rfl) (by intro s; cases s <;> decide)

theorem readsBack_confidence : ReadsBack Confidence 0 :=
  readsBack_words (fun _ => rfl) (fun _ => rfl) (by intro c; cases c <;> decide)

theorem readsBack_analysisStatus : ReadsBack AnalysisStatus 0 :=
  readsBack_words (fun _ => rfl) (fun _ => rfl) (by intro s; cases s <;> decide)

theorem readsBack_jobStatus : ReadsBack JobStatus 0 :=
  readsBack_words (fun _ => rfl) (fun _ => rfl) (by intro s; cases s <;> decide)

theorem readsBack_verdict : ReadsBack Verdict 0 :=
  readsBack_words (fun _ => rfl) (fun _ => rfl) (by intro v; cases v <;> decide)

/-! ## Optional values and lists -/

/-- An optional value is read back if no value is written as what stands for none. -/
theorem ReadsBack.option (h : ReadsBack α depth) (hnull : ∀ a : α, toJson a ≠ .null) :
    ReadsBack (Option α) depth where
  isExact
    | none => rfl
    | some a => h.isExact a
  read?_ofJson o levels hd := by
    cases o with
    | none => rfl
    | some a =>
      have hread := h.read?_ofJson a hd
      have hne := hnull a
      change read? levels (Document.ofJson (toJson a)) = some (some a)
      generalize toJson a = v at hread hne ⊢
      cases v with
      | null => exact absurd rfl hne
      | _ => exact congrArg (Option.map some) hread

theorem readsBack_optionalString : ReadsBack (Option String) 0 :=
  readsBack_string.option fun _ => nofun

theorem readsBack_optionalTimestamp : ReadsBack (Option Timestamp) 0 :=
  readsBack_timestamp.option fun _ => nofun

theorem readsBack_optionalConfidence : ReadsBack (Option Confidence) 0 :=
  readsBack_confidence.option fun _ => nofun

theorem readsBack_optionalVerdict : ReadsBack (Option Verdict) 0 :=
  readsBack_verdict.option fun _ => nofun

theorem mapM_read?_ofItems (h : ReadsBack α depth) (hdepth : depth ≤ levels) (l : List α) :
    (Document.ofItems (l.map toJson)).mapM (read? levels) = some l := by
  induction l with
  | nil => rfl
  | cons a l ih =>
    rw [List.map_cons, Document.ofItems, List.mapM_cons, h.read?_ofJson a hdepth, ih]
    rfl

theorem itemsExact_map (h : ReadsBack α depth) (l : List α) :
    Json.itemsExact (l.map toJson) = true := by
  induction l with
  | nil => rfl
  | cons a l ih => rw [List.map_cons, Json.itemsExact, h.isExact, ih, Bool.true_and]

/-- A list is read back one level further down. -/
theorem ReadsBack.list (h : ReadsBack α depth) : ReadsBack (List α) (depth + 1) where
  isExact l := itemsExact_map h l
  read?_ofJson l levels hd := by
    obtain ⟨below, rfl⟩ := Nat.exists_eq_add_of_le' (Nat.le_of_add_left_le hd)
    exact mapM_read?_ofItems h (Nat.le_of_succ_le_succ hd) l

/-! ## Records -/

namespace Record

/-- A record holds a value as a member. -/
structure Holds (r : Record) (levels : Nat) (name : String) (v : Json) : Prop where
  /-- The members may be nested so deep. -/
  levels_eq : r.levels = levels
  /-- The member is given as the value is written. -/
  slot_eq : r.slot name = .given (Document.ofJson v)

variable {r : Record} {name : String} {a : α} {fields : List (String × Json)}
  {members : List Member}

theorem Holds.required (hr : r.Holds levels name (toJson a)) (h : ReadsBack α depth)
    (hdepth : depth ≤ levels) : r.required name = some a := by
  rw [Record.required, hr.slot_eq, hr.levels_eq]
  exact h.read?_ofJson a hdepth

theorem Holds.optional {a : Option α} (hr : r.Holds levels name (toJson a))
    (h : ReadsBack (Option α) depth) (hdepth : depth ≤ levels) : r.optional name = some a := by
  rw [Record.optional, hr.slot_eq, hr.levels_eq]
  exact h.read?_ofJson a hdepth

theorem Holds.orElse {default : α} (hr : r.Holds levels name (toJson a)) (h : ReadsBack α depth)
    (hdepth : depth ≤ levels) : r.orElse name default = some a := by
  rw [Record.orElse, hr.slot_eq, hr.levels_eq]
  exact h.read?_ofJson a hdepth

theorem ofEntries_eq_map (fields : List (String × Json)) :
    Document.ofEntries fields = fields.map fun f => (some f.1, Document.ofJson f.2) := by
  induction fields with
  | nil => rfl
  | cons f fields ih => rw [Document.ofEntries, ih, List.map_cons]

/-- Of entries with different keys, one is there for each of them. -/
theorem filter_key {f : String × Json} (hnodup : (fields.map (·.1)).Nodup) (hf : f ∈ fields) :
    (fields.filter fun g => g.1 == f.1) = [f] := by
  induction fields with
  | nil => cases hf
  | cons g fields ih =>
    obtain ⟨hnew, hnodup⟩ := List.nodup_cons.mp hnodup
    rcases List.mem_cons.mp hf with rfl | hf
    · have hnone : (fields.filter fun g => g.1 == f.1) = [] := by
        rw [List.filter_eq_nil_iff]
        intro g hg heq
        exact hnew (List.mem_map.mpr ⟨g, hg, beq_iff_eq.mp heq⟩)
      rw [List.filter_cons, if_pos (beq_self_eq_true _), hnone]
    · have hne : g.1 ≠ f.1 := fun heq => hnew (List.mem_map.mpr ⟨f, hf, heq.symm⟩)
      rw [List.filter_cons, if_neg (by simpa using hne), ih hnodup hf]

theorem find?_ofEntries {f : String × Json} (hnodup : (fields.map (·.1)).Nodup) (hf : f ∈ fields) :
    find? (Document.ofEntries fields) ⟨f.1, []⟩ = some (.given (Document.ofJson f.2)) := by
  have hone : (Document.ofEntries fields).filter (fun e => e.1.any (Member.isNamed ⟨f.1, []⟩)) =
      [(some f.1, Document.ofJson f.2)] := by
    rw [ofEntries_eq_map, List.filter_map]
    have hkey : ((fun e : Option String × Document => e.1.any (Member.isNamed ⟨f.1, []⟩)) ∘
        fun g : String × Json => (some g.1, Document.ofJson g.2)) = fun g => g.1 == f.1 := by
      funext g
      simp [Member.isNamed]
    rw [hkey, filter_key hnodup hf]
    rfl
  rw [find?, hone]

/-- The members that a record holds if it is written with these fields. -/
def given (fields : List (String × Json)) : List (String × Slot) :=
  fields.map fun f => (f.1, .given (Document.ofJson f.2))

theorem lookup_given {f : String × Json} (hnodup : (fields.map (·.1)).Nodup) (hf : f ∈ fields) :
    (given fields).lookup f.1 = some (.given (Document.ofJson f.2)) := by
  induction fields with
  | nil => cases hf
  | cons g fields ih =>
    obtain ⟨hnew, hnodup⟩ := List.nodup_cons.mp hnodup
    rcases List.mem_cons.mp hf with rfl | hf
    · exact List.lookup_cons_self
    · have hne : f.1 ≠ g.1 := fun heq => hnew (List.mem_map.mpr ⟨f, hf, heq⟩)
      rw [given, List.map_cons, List.lookup_cons, beq_eq_false_iff_ne.mpr hne]
      exact ih hnodup hf

/-- **A record that is written as an object holds each of its members.** -/
theorem exists_holds (v : Json) (levels : Nat) (hv : v = .object fields)
    (hmembers : members = fields.map fun f => ⟨f.1, []⟩) (hnodup : (members.map (·.name)).Nodup) :
    ∃ r, ofDocument? members (levels + 1) (Document.ofJson v) = some r ∧
      ∀ f ∈ fields, r.Holds levels f.1 f.2 := by
  subst hv hmembers
  have hkeys : (fields.map (·.1)).Nodup := by
    rwa [List.map_map] at hnodup
  have hall : (Document.ofEntries fields).all (·.1.isSome) = true := by
    simp [ofEntries_eq_map]
  have hfind : ∀ part, part ⊆ fields → ((part.map fun f => (⟨f.1, []⟩ : Member)).mapM fun m =>
      (find? (Document.ofEntries fields) m).map fun s => (m.name, s)) = some (given part) := by
    intro part hpart
    induction part with
    | nil => rfl
    | cons f part ih =>
      obtain ⟨hf, hpart⟩ := List.cons_subset.mp hpart
      rw [List.map_cons, List.mapM_cons, find?_ofEntries hkeys hf, ih hpart]
      rfl
  refine ⟨⟨levels, given fields⟩, ?_, fun f hf => ⟨rfl, ?_⟩⟩
  · rw [Document.ofJson, ofDocument?, if_pos hall, hfind fields (List.Subset.refl _)]
    rfl
  · rw [slot, lookup_given hkeys hf, Option.getD_some]

theorem entriesExact_iff :
    Json.entriesExact fields = true ↔ ∀ f ∈ fields, f.2.isExact = true := by
  induction fields with
  | nil => exact ⟨fun _ => nofun, fun _ => rfl⟩
  | cons f fields ih =>
    rw [Json.entriesExact, Bool.and_eq_true, ih, List.forall_mem_cons]

end Record

/-- A type of records is read back, one level further down, if each record is put together again
from the members it is written with. -/
theorem ReadsBack.record {members : List Member} {fields : α → List (String × Json)}
    {assemble : Record → Option α} (hwrite : ∀ a, toJson a = .object (fields a))
    (hread : ∀ levels d, read? levels d = (Record.ofDocument? members levels d).bind assemble)
    (hmembers : ∀ a, members = (fields a).map fun f => ⟨f.1, []⟩)
    (hnodup : (members.map (·.name)).Nodup)
    (hexact : ∀ a, ∀ f ∈ fields a, f.2.isExact = true)
    (hassemble : ∀ a r levels, depth ≤ levels → (∀ f ∈ fields a, Record.Holds r levels f.1 f.2) →
      assemble r = some a) : ReadsBack α (depth + 1) where
  isExact a := by
    rw [hwrite]
    exact Record.entriesExact_iff.mpr (hexact a)
  read?_ofJson a levels h := by
    obtain ⟨below, rfl⟩ := Nat.exists_eq_add_of_le' (Nat.le_of_add_left_le h)
    obtain ⟨r, hr, hfields⟩ := Record.exists_holds (toJson a) below (hwrite a) (hmembers a) hnodup
    rw [hread, hr, Option.bind_some]
    exact hassemble a r below (Nat.le_of_succ_le_succ h) hfields

/-! ## The records -/

theorem readsBack_securityTest : ReadsBack SecurityTest 1 := by
  refine .record (fun _ => rfl) (fun _ _ => rfl) (fun _ => rfl) (by decide) (fun a => ?_)
    fun a r levels hlevels hfields => ?_
  · simp [readsBack_string.isExact, readsBack_bool.isExact, readsBack_int32.isExact]
  · simp only [List.forall_mem_cons] at hfields
    obtain ⟨hname, himage, htag, hcmd, hlanguage, hdefault, htimeout, -⟩ := hfields
    simp only [hname.required readsBack_string (Nat.zero_le _),
      himage.required readsBack_string (Nat.zero_le _),
      htag.required readsBack_string (Nat.zero_le _),
      hcmd.required readsBack_string (Nat.zero_le _),
      hlanguage.required readsBack_string (Nat.zero_le _),
      hdefault.required readsBack_bool (Nat.zero_le _),
      htimeout.required readsBack_int32 (Nat.zero_le _)]
    rfl

theorem readsBack_securityTestForm : ReadsBack SecurityTestForm 1 := by
  refine .record (fun _ => rfl) (fun _ _ => rfl) (fun _ => rfl) (by decide) (fun a => ?_)
    fun a r levels hlevels hfields => ?_
  · simp [readsBack_string.isExact, readsBack_optionalString.isExact, readsBack_bool.isExact,
      readsBack_int32.isExact]
  · simp only [List.forall_mem_cons] at hfields
    obtain ⟨hname, himage, htag, hcmd, hlanguage, hdefault, htimeout, -⟩ := hfields
    simp only [hname.required readsBack_string (Nat.zero_le _),
      himage.required readsBack_string (Nat.zero_le _),
      htag.orElse readsBack_optionalString (Nat.zero_le _),
      hcmd.required readsBack_string (Nat.zero_le _),
      hlanguage.required readsBack_string (Nat.zero_le _),
      hdefault.orElse readsBack_bool (Nat.zero_le _),
      htimeout.required readsBack_int32 (Nat.zero_le _)]
    rfl

theorem readsBack_issue : ReadsBack Issue 1 := by
  refine .record (fun _ => rfl) (fun _ _ => rfl) (fun _ => rfl) (by decide) (fun a => ?_)
    fun a r levels hlevels hfields => ?_
  · simp [readsBack_severity.isExact, readsBack_string.isExact,
      readsBack_optionalConfidence.isExact, readsBack_optionalString.isExact]
  · simp only [List.forall_mem_cons] at hfields
    obtain ⟨hseverity, horiginal, hconfidence, htitle, hdetails, hfile, hline, hcode, -⟩ := hfields
    simp only [hseverity.required readsBack_severity (Nat.zero_le _),
      horiginal.required readsBack_string (Nat.zero_le _),
      hconfidence.optional readsBack_optionalConfidence (Nat.zero_le _),
      htitle.required readsBack_string (Nat.zero_le _),
      hdetails.required readsBack_string (Nat.zero_le _),
      hfile.optional readsBack_optionalString (Nat.zero_le _),
      hline.optional readsBack_optionalString (Nat.zero_le _),
      hcode.optional readsBack_optionalString (Nat.zero_le _)]
    rfl

theorem readsBack_job : ReadsBack Job 3 := by
  refine .record (fun _ => rfl) (fun _ _ => rfl) (fun _ => rfl) (by decide) (fun a => ?_)
    fun a r levels hlevels hfields => ?_
  · simp [readsBack_optionalString.isExact, readsBack_securityTest.isExact,
      readsBack_jobStatus.isExact, readsBack_optionalVerdict.isExact, readsBack_string.isExact,
      readsBack_issue.list.isExact, readsBack_optionalTimestamp.isExact]
  · simp only [List.forall_mem_cons] at hfields
    obtain ⟨hid, htest, hstatus, hverdict, houtput, hissues, hstarted, hfinished, -⟩ := hfields
    simp only [hid.optional readsBack_optionalString (Nat.zero_le _),
      htest.required readsBack_securityTest (by omega),
      hstatus.required readsBack_jobStatus (Nat.zero_le _),
      hverdict.optional readsBack_optionalVerdict (Nat.zero_le _),
      houtput.required readsBack_string (Nat.zero_le _),
      hissues.required readsBack_issue.list (by omega),
      hstarted.optional readsBack_optionalTimestamp (Nat.zero_le _),
      hfinished.optional readsBack_optionalTimestamp (Nat.zero_le _)]
    rfl

theorem readsBack_repository : ReadsBack Repository 3 := by
  refine .record (fun _ => rfl) (fun _ _ => rfl) (fun _ => rfl) (by decide) (fun a => ?_)
    fun a r levels hlevels hfields => ?_
  · simp [readsBack_string.isExact, readsBack_optionalString.isExact,
      readsBack_securityTest.list.isExact, readsBack_string.list.isExact,
      readsBack_timestamp.isExact, readsBack_optionalTimestamp.isExact]
  · simp only [List.forall_mem_cons] at hfields
    obtain ⟨hurl, hvm, htests, hlanguages, hcreated, hdeleted, -⟩ := hfields
    simp only [hurl.required readsBack_string (Nat.zero_le _),
      hvm.optional readsBack_optionalString (Nat.zero_le _),
      htests.required readsBack_securityTest.list (by omega),
      hlanguages.required readsBack_string.list (by omega),
      hcreated.required readsBack_timestamp (Nat.zero_le _),
      hdeleted.optional readsBack_optionalTimestamp (Nat.zero_le _)]
    rfl

theorem readsBack_analysis : ReadsBack Analysis 5 := by
  refine .record (fun _ => rfl) (fun _ _ => rfl) (fun _ => rfl) (by decide) (fun a => ?_)
    fun a r levels hlevels hfields => ?_
  · simp [readsBack_uuid.isExact, readsBack_string.isExact, readsBack_securityTest.list.isExact,
      readsBack_job.list.isExact, readsBack_analysisStatus.isExact,
      readsBack_optionalVerdict.isExact, readsBack_timestamp.isExact,
      readsBack_optionalTimestamp.isExact]
  · simp only [List.forall_mem_cons] at hfields
    obtain ⟨hrid, hurl, htests, hjobs, hstatus, hresult, hstarted, hfinished, -⟩ := hfields
    simp only [hrid.required readsBack_uuid (Nat.zero_le _),
      hurl.required readsBack_string (Nat.zero_le _),
      htests.required readsBack_securityTest.list (by omega),
      hjobs.required readsBack_job.list (by omega),
      hstatus.required readsBack_analysisStatus (Nat.zero_le _),
      hresult.optional readsBack_optionalVerdict (Nat.zero_le _),
      hstarted.required readsBack_timestamp (Nat.zero_le _),
      hfinished.optional readsBack_optionalTimestamp (Nat.zero_le _)]
    rfl

/-! ## Round trips -/

/-- Values go through their texts and back, and what is read may be written anew. -/
structure RoundTrips (α : Type) [ToJson α] [FromJson α] : Prop where
  /-- The text of a value is read as the value. -/
  written (a : α) : ofText? (toJson a).toText = some a
  /-- What is read from a text is read again from its own text. -/
  rewritten (s : String) :
    ((ofText? s : Option α).bind fun a => ofText? (toJson a).toText) = (ofText? s : Option α)

theorem ReadsBack.roundTrips (h : ReadsBack α depth) (hdepth : depth ≤ nestingLimit) :
    RoundTrips α where
  written a := h.ofText?_toText hdepth a
  rewritten s := by
    rw [funext (h.ofText?_toText hdepth)]
    exact Option.bind_fun_some _

/-- **Every record round-trips through its text:** each value, whatever its texts say, whichever of
its optional members are absent and however many tests, jobs and issues are in it. -/
theorem records_roundTrip : RoundTrips SecurityTest ∧ RoundTrips SecurityTestForm ∧
    RoundTrips Issue ∧ RoundTrips Job ∧ RoundTrips Repository ∧ RoundTrips Analysis :=
  ⟨readsBack_securityTest.roundTrips (by decide), readsBack_securityTestForm.roundTrips (by decide),
    readsBack_issue.roundTrips (by decide), readsBack_job.roundTrips (by decide),
    readsBack_repository.roundTrips (by decide), readsBack_analysis.roundTrips (by decide)⟩

end ScanService
