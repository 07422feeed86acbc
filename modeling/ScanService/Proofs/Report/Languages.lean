import ScanService.Json.Read
import ScanService.Proofs.Text.Names
import ScanService.Report.Enry

/-!
# Which languages a report names

Enry's reader takes every text for a report.  If it is an object, the keys are the languages, and it
does not matter how often one of them is written, nor in which letters.  Of any other text the words
are, and a word is a run of letters of ASCII that nothing can be added to.

## What is here

* `Json.Document.HasKeys` — the keys of an object that can be read, as they are written;
  `keys_of_entriesWith?` says which of them are read.
* `LetterRuns` — the words of a text, told without cutting it up; `exists_letterRuns`.
* `normaliseLanguages_twice`, `mem_normaliseLanguages` — what is left of a list of languages.
* `languages_detected` — **what the reader finds in any text.**
-/

namespace ScanService

/-! ## Keys of an object -/

namespace Json.Document

variable {embedded : String → Option Json} {levels : Nat}
  {entries : List (Option String × Document)} {done read : List (String × Json)} {keys : List String}

/-- A key that is there keeps its place, and a new one goes behind the others. -/
theorem keys_putEntry (done : List (String × Json)) (key : String) (v : Json) :
    (putEntry done key v).map (·.1) =
      if key ∈ done.map (·.1) then done.map (·.1) else done.map (·.1) ++ [key] := by
  induction done with
  | nil => rfl
  | cons e rest ih =>
    obtain ⟨k, value⟩ := e
    rw [putEntry]
    by_cases hk : k = key
    · rw [if_pos hk, List.map_cons, List.map_cons, if_pos (by simp [hk])]
    · rw [if_neg hk, List.map_cons, ih, List.map_cons]
      by_cases hmem : key ∈ rest.map (·.1)
      · rw [if_pos hmem, if_pos (List.mem_cons_of_mem _ hmem)]
      · rw [if_neg hmem, if_neg (by simp [Ne.symm hk, hmem])]
        rfl

/-- **An object is read if all its keys are texts, and each is read where it first appears.** -/
theorem keys_of_entriesWith? (h : entriesWith? embedded levels entries done = some read) :
    ∃ keys : List String, entries.map (·.1) = keys.map some ∧
      read.map (·.1) = done.map (·.1) ++ firstBy id (done.map (·.1)) keys := by
  induction entries generalizing done with
  | nil =>
    cases h
    exact ⟨[], rfl, (List.append_nil _).symm⟩
  | cons e rest ih =>
    obtain ⟨key?, d⟩ := e
    cases key? with
    | none => cases h
    | some key =>
      rw [entriesWith?] at h
      split at h
      · cases h
      · next v hv =>
        obtain ⟨keys, hkeys, hread⟩ := ih h
        refine ⟨key :: keys, by rw [List.map_cons, hkeys, List.map_cons], ?_⟩
        rw [hread, keys_putEntry, firstBy, id]
        by_cases hmem : key ∈ done.map (·.1)
        · rw [if_pos hmem, if_pos hmem]
        · have hseen (k : String) : k ∈ done.map (·.1) ++ [key] ↔ k ∈ key :: done.map (·.1) := by
            rw [List.mem_append, List.mem_singleton, List.mem_cons, or_comm]
          rw [if_neg hmem, if_neg hmem, firstBy_congr hseen, List.append_assoc,
            List.singleton_append]

/-- A text is an object that can be read, and these are its keys, one by one as they are written. -/
def HasKeys (text : String) (keys : List String) : Prop :=
  ∃ entries, parse? text.toList = some (.object entries) ∧
    entries.map (·.1) = keys.map some ∧ ((Document.object entries).toEntries? nestingLimit).isSome

/-- Only an object is read as one. -/
theorem exists_hasKeys_of_entriesOfText? {text : String} {read : List (String × Json)}
    (h : FromJson.entriesOfText? text = some read) :
    ∃ keys, HasKeys text keys ∧ read.map (·.1) = distinct keys := by
  obtain ⟨d, hparse, hread⟩ := Option.bind_eq_some_iff.mp h
  cases d with
  | object entries =>
    obtain ⟨keys, hkeys, hfirst⟩ := keys_of_entriesWith? hread
    exact ⟨keys, ⟨entries, hparse, hkeys, by rw [hread]; rfl⟩, hfirst⟩
  | _ => cases hread

/-- **Of an object that is read, the keys are those that are written, each where it first appears.** -/
theorem HasKeys.exists_entriesOfText? {text : String} (h : HasKeys text keys) :
    ∃ read, FromJson.entriesOfText? text = some read ∧ read.map (·.1) = distinct keys := by
  obtain ⟨entries, hparse, hkeys, hreadable⟩ := h
  obtain ⟨read, hread⟩ := Option.isSome_iff_exists.mp hreadable
  have htext : FromJson.entriesOfText? text = some read := by
    rw [FromJson.entriesOfText?, hparse, Option.bind_some, hread]
  obtain ⟨keys', ⟨entries', hparse', hkeys', -⟩, hfirst⟩ := exists_hasKeys_of_entriesOfText? htext
  obtain rfl : entries' = entries := by simpa [hparse] using hparse'.symm
  obtain rfl : keys' = keys :=
    List.map_injective_iff.mpr (fun _ _ => Option.some.inj) (hkeys'.symm.trans hkeys)
  exact ⟨read, htext, hfirst⟩

end Json.Document

namespace Report

open Json.Document (HasKeys)

/-! ## Runs of letters -/

/-- The runs of letters in a text that cannot be made longer, in order: what is no letter is passed
over, and a run is taken with all its letters. -/
inductive LetterRuns : List Char → List (List Char) → Prop
  | nil : LetterRuns [] []
  | skip {c : Char} {s : List Char} {runs : List (List Char)} (hc : isLetter c = false)
    (h : LetterRuns s runs) : LetterRuns (c :: s) runs
  | run {run s : List Char} {runs : List (List Char)} (hne : run ≠ [])
    (hletters : ∀ c ∈ run, isLetter c = true) (hnext : ∀ c ∈ s.head?, isLetter c = false)
    (h : LetterRuns s runs) : LetterRuns (run ++ s) (run :: runs)

/-- The pieces between characters that are no letters are the runs of letters, if they are not empty;
`run` is the run at hand. -/
theorem letterRuns_letterRunsFrom {run : List Char} (hrun : ∀ c ∈ run, isLetter c = true)
    (s : List Char) :
    LetterRuns (run.reverse ++ s) ((letterRunsFrom run s).filter fun piece => piece ≠ []) := by
  have hletters : ∀ c ∈ run.reverse, isLetter c = true := fun c hc => hrun c (List.mem_reverse.mp hc)
  induction s generalizing run with
  | nil =>
    rw [letterRunsFrom]
    by_cases hne : run.reverse = []
    · rw [List.filter_cons_of_neg (by simpa using hne), hne]
      exact .nil
    · rw [List.filter_cons_of_pos (by simpa using hne)]
      exact .run hne hletters (by simp) .nil
  | cons c rest ih =>
    rw [letterRunsFrom]
    split
    · next hc =>
      have hmore : ∀ d ∈ c :: run, isLetter d = true := List.forall_mem_cons.mpr ⟨hc, hrun⟩
      have hgoes := ih hmore fun d hd => hmore d (List.mem_reverse.mp hd)
      rwa [List.reverse_cons, List.append_assoc, List.singleton_append] at hgoes
    · next hc =>
      have hskip : LetterRuns (c :: rest) ((letterRunsFrom [] rest).filter fun piece => piece ≠ []) :=
        .skip (Bool.eq_false_iff.mpr hc) (ih (List.forall_mem_nil _) (List.forall_mem_nil _))
      by_cases hne : run.reverse = []
      · rw [List.filter_cons_of_neg (by simpa using hne), hne]
        exact hskip
      · rw [List.filter_cons_of_pos (by simpa using hne)]
        exact .run hne hletters (by simpa using hc) hskip

theorem LetterRuns.isLetter_of_mem {s run : List Char} {runs : List (List Char)}
    (h : LetterRuns s runs) (hrun : run ∈ runs) : ∀ c ∈ run, isLetter c = true := by
  induction h with
  | nil => cases hrun
  | skip _ _ ih => exact ih hrun
  | run _ hletters _ _ ih =>
    rcases List.mem_cons.mp hrun with rfl | hrun
    · exact hletters
    · exact ih hrun

/-- A letter is one of ASCII, is not blank, and is a small letter in lowercase. -/
theorem toNat_of_isLetter {c : Char} (h : isLetter c = true) : c.toNat < 0x80 := by
  have hbounds : c.toNat ≤ 'z'.toNat := by
    rw [isLetter, Bool.or_eq_true, Bool.and_eq_true, Bool.and_eq_true, decide_eq_true_eq,
      decide_eq_true_eq, decide_eq_true_eq, decide_eq_true_eq] at h
    rcases h with ⟨-, h⟩ | ⟨-, h⟩
    · exact h
    · exact Nat.le_trans h (by decide)
  exact Nat.lt_of_le_of_lt hbounds (by decide)

theorem isBlank_of_isLetter {c : Char} (h : isLetter c = true) : Text.isBlank c = false :=
  Text.forall_ascii (p := fun c => isLetter c = true → Text.isBlank c = false) (by decide)
    (toNat_of_isLetter h) h

theorem toLower_of_isLetter {c : Char} (h : isLetter c = true) :
    'a' ≤ c.toLower ∧ c.toLower ≤ 'z' :=
  Text.forall_ascii (p := fun c => isLetter c = true → 'a' ≤ c.toLower ∧ c.toLower ≤ 'z')
    (by decide) (toNat_of_isLetter h) h

/-- A word has no blank ends. -/
theorem trim_of_letters {run : List Char} (h : ∀ c ∈ run, isLetter c = true) :
    Text.trim (String.ofList run) = String.ofList run := by
  have htrimmed : Text.IsTrimmed run :=
    ⟨fun c hc => isBlank_of_isLetter (h c (List.mem_of_head? hc)),
      fun c hc => isBlank_of_isLetter (h c (List.mem_of_getLast? hc))⟩
  rw [Text.trim, String.toList_ofList, htrimmed.strip_eq]

/-- The lowercase form of a word has small letters only. -/
theorem lowercase_of_letters {run : List Char} (h : ∀ c ∈ run, isLetter c = true) {c : Char}
    (hc : c ∈ (Text.lowercase (String.ofList run)).toList) : 'a' ≤ c ∧ c ≤ 'z' := by
  rw [Text.toList_lowercase, String.toList_ofList, Text.lower,
    Text.lowerFrom_of_ascii fun d hd => toNat_of_isLetter (h d hd)] at hc
  obtain ⟨d, hd, rfl⟩ := List.mem_map.mp hc
  exact toLower_of_isLetter (h d hd)

/-! ## Lists of languages -/

theorem normaliseLanguages_eq (tokens : List String) :
    normaliseLanguages tokens = distinct (normalForms tokens) := rfl

theorem isFirstSeen_normaliseLanguages (tokens : List String) :
    IsFirstSeen (normalForms tokens) (normaliseLanguages tokens) :=
  isFirstSeen_distinct _

/-- Exactly the languages are left that some token names and that are not blank. -/
theorem mem_normaliseLanguages {tokens : List String} {language : String} :
    language ∈ normaliseLanguages tokens ↔
      ∃ t ∈ tokens, Text.trim t ≠ "" ∧ language = Text.lowercase (Text.trim t) :=
  ((isFirstSeen_normaliseLanguages tokens).mem_iff language).trans mem_normalForms

/-- The languages that are left are in lowercase. -/
theorem lowercase_of_mem_normaliseLanguages {tokens : List String} {language : String}
    (h : language ∈ normaliseLanguages tokens) : Text.lowercase language = language := by
  obtain ⟨t, -, -, rfl⟩ := mem_normaliseLanguages.mp h
  exact Text.lowercase_lowercase _

/-- None of the languages that are left is blank. -/
theorem trim_of_mem_normaliseLanguages {tokens : List String} {language : String}
    (h : language ∈ normaliseLanguages tokens) : Text.trim language ≠ "" := by
  obtain ⟨t, -, hne, rfl⟩ := mem_normaliseLanguages.mp h
  rwa [← Text.lowercase_eq_empty_iff.ne, Text.lowercase_trim_twice,
    Text.lowercase_eq_empty_iff.ne]

/-- **Whoever normalises languages twice has done it once.** -/
theorem normaliseLanguages_twice (tokens : List String) :
    normaliseLanguages (normaliseLanguages tokens) = normaliseLanguages tokens := by
  have hforms : normalForms (normaliseLanguages tokens) = normaliseLanguages tokens := by
    have hmap : (normaliseLanguages tokens).map (fun t => Text.lowercase (Text.trim t)) =
        normaliseLanguages tokens := by
      refine (List.map_congr_left fun language h => ?_).trans (List.map_id _)
      obtain ⟨t, -, -, rfl⟩ := mem_normaliseLanguages.mp h
      exact Text.lowercase_trim_twice t
    rw [normalForms_eq, hmap, List.filter_eq_self]
    intro language h
    obtain ⟨t, -, hne, rfl⟩ := mem_normaliseLanguages.mp h
    simpa [Text.lowercase_eq_empty_iff] using hne
  rw [normaliseLanguages_eq, hforms, distinct_of_nodup (isFirstSeen_normaliseLanguages tokens).nodup]

/-! ## Reports -/

/-- Whatever the report is, its languages are those of some tokens. -/
theorem exists_detectedLanguages_eq (report : String) :
    ∃ tokens, detectedLanguages report = normaliseLanguages tokens := by
  rw [detectedLanguages]
  split
  · exact ⟨_, rfl⟩
  · exact ⟨_, rfl⟩

/-- The languages of an object are named by its keys as they are written. -/
theorem detectedLanguages_of_hasKeys {report : String} {keys : List String}
    (h : HasKeys report keys) : detectedLanguages report = distinct (normalForms keys) := by
  obtain ⟨read, hread, hkeys⟩ := h.exists_entriesOfText?
  rw [detectedLanguages, hread]
  change normaliseLanguages (read.map (·.1)) = _
  rw [hkeys, normaliseLanguages_eq, distinct_normalForms_distinct]

/-- The pieces of a text name the languages that its words are in lowercase. -/
theorem normalForms_letterRuns (report : String) : normalForms (letterRuns report) =
    ((letterRunsFrom [] report.toList).filter fun piece => piece ≠ []).map
      fun run => Text.lowercase (String.ofList run) := by
  have hletters : ∀ piece ∈ letterRunsFrom [] report.toList, ∀ c ∈ piece, isLetter c = true := by
    intro piece hpiece c hc
    refine (letterRuns_letterRunsFrom (List.forall_mem_nil _) report.toList).isLetter_of_mem
      (List.mem_filter.mpr ⟨hpiece, ?_⟩) c hc
    simpa using List.ne_nil_of_mem hc
  have hforms : (letterRuns report).map (fun t => Text.lowercase (Text.trim t)) =
      (letterRunsFrom [] report.toList).map fun run => Text.lowercase (String.ofList run) := by
    rw [letterRuns, List.map_map]
    refine List.map_congr_left fun piece hpiece => ?_
    rw [Function.comp_apply, trim_of_letters (hletters piece hpiece)]
  rw [normalForms_eq, hforms, List.filter_map]
  refine congrArg _ (List.filter_congr fun piece _ => ?_)
  simp [Text.lowercase_eq_empty_iff]

/-- The languages of any other text are its words. -/
theorem detectedLanguages_of_not_hasKeys {report : String} (h : ∀ keys, ¬HasKeys report keys) :
    ∃ runs, LetterRuns report.toList runs ∧ detectedLanguages report =
      distinct (runs.map fun run => Text.lowercase (String.ofList run)) := by
  have hread : FromJson.entriesOfText? report = none := by
    rw [Option.eq_none_iff_forall_ne_some]
    intro read hread
    obtain ⟨keys, hkeys, -⟩ := Json.Document.exists_hasKeys_of_entriesOfText? hread
    exact h keys hkeys
  refine ⟨_, letterRuns_letterRunsFrom (List.forall_mem_nil _) report.toList, ?_⟩
  rw [detectedLanguages, hread]
  change normaliseLanguages (letterRuns report) = _
  rw [normaliseLanguages_eq, normalForms_letterRuns]

/-- **What the reader finds in any text.**  It takes every text for a report that has passed.  The
languages are all different and none is blank.  Of an object they are what its keys name, of any
other text its words, in order of first appearance; a word has the letters from a to z only.  And to
normalise a list of tokens that has been normalised changes nothing, and exactly what some token
names stays. -/
theorem languages_detected :
    (∀ report : String, ∃ languages,
      enry.read? report = some ⟨some .passed, none, [], languages⟩ ∧
      languages.Nodup ∧ (∀ language ∈ languages, Text.trim language ≠ "") ∧
      (∀ keys, HasKeys report keys → IsFirstSeen (normalForms keys) languages) ∧
      ((∀ keys, ¬HasKeys report keys) →
        (∃ runs, LetterRuns report.toList runs ∧
          IsFirstSeen (runs.map fun run => Text.lowercase (String.ofList run)) languages) ∧
        ∀ language ∈ languages, ∀ c ∈ language.toList, 'a' ≤ c ∧ c ≤ 'z')) ∧
    ∀ tokens : List String,
      normaliseLanguages (normaliseLanguages tokens) = normaliseLanguages tokens ∧
      IsFirstSeen (normalForms tokens) (normaliseLanguages tokens) ∧
      ∀ language, language ∈ normaliseLanguages tokens ↔
        ∃ t ∈ tokens, Text.trim t ≠ "" ∧ language = Text.lowercase (Text.trim t) := by
  refine ⟨fun report => ⟨detectedLanguages report, rfl, ?nodup, ?blank, ?keys, ?words⟩, fun tokens =>
    ⟨normaliseLanguages_twice tokens, isFirstSeen_normaliseLanguages tokens,
      fun language => mem_normaliseLanguages⟩⟩
  case nodup =>
    obtain ⟨tokens, h⟩ := exists_detectedLanguages_eq report
    exact h ▸ (isFirstSeen_normaliseLanguages tokens).nodup
  case blank =>
    obtain ⟨tokens, h⟩ := exists_detectedLanguages_eq report
    exact h ▸ fun language => trim_of_mem_normaliseLanguages
  case keys =>
    intro keys hkeys
    exact detectedLanguages_of_hasKeys hkeys ▸ isFirstSeen_distinct _
  case words =>
    intro h
    obtain ⟨runs, hruns, heq⟩ := detectedLanguages_of_not_hasKeys h
    have hseen := heq ▸ isFirstSeen_distinct (runs.map fun run => Text.lowercase (String.ofList run))
    refine ⟨⟨runs, hruns, hseen⟩, fun language hlanguage c hc => ?_⟩
    obtain ⟨run, hrun, rfl⟩ := List.mem_map.mp ((hseen.mem_iff language).mp hlanguage)
    exact lowercase_of_letters (hruns.isLetter_of_mem hrun) hc

end Report
end ScanService
