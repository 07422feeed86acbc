import ScanService.Json.Value
import ScanService.Proofs.Json.Tokens

/-!
# The document of a text that is written

The tokens of a value build the document of the value: where a value is due, its tokens lead to what
is due behind it, with the document delivered there.  So the text of an exact value is parsed as the
document that says the same.

## What is here

* `foldlM_tokens` — the tokens of a value deliver its document, whatever is open around it.
* `parse?_chars` — **the text of an exact value is parsed as the document of the value.**
-/

namespace ScanService
namespace Json
namespace Document

variable {open_ : List Frame}

/-- A value does not begin with the end of an array. -/
theorem exists_tokens (v : Json) : ∃ t rest, v.tokens = t :: rest ∧ t ≠ .closeArray := by
  cases v <;> exact ⟨_, _, rfl, nofun⟩

/-- Where an array has just been opened, a value that comes is its first item. -/
theorem foldlM_firstItem (v : Json) (items : List Json) :
    (itemTokens (v :: items)).foldlM step (.firstItem open_) =
      (itemTokens (v :: items)).foldlM step (.value (.items [] :: open_)) := by
  obtain ⟨t, rest, htokens, ht⟩ := exists_tokens v
  have hfirst : step (.firstItem open_) t = step (.value (.items [] :: open_)) t := by
    cases t <;> first | exact absurd rfl ht | rfl
  cases items with
  | nil => rw [itemTokens, htokens, List.foldlM_cons, List.foldlM_cons, hfirst]
  | cons w more =>
    rw [itemTokens, htokens, List.cons_append, List.foldlM_cons, List.foldlM_cons, hfirst]

/-- Where an object has just been opened, an entry that comes is its first one. -/
theorem foldlM_firstKey (e : String × Json) (entries : List (String × Json)) :
    (entryTokens (e :: entries)).foldlM step (.firstKey open_) =
      (entryTokens (e :: entries)).foldlM step (.key [] open_) := by
  cases entries <;> rfl

mutual

/-- **The tokens of a value deliver its document.** -/
theorem foldlM_tokens (v : Json) (open_ : List Frame) :
    v.tokens.foldlM step (.value open_) = some (deliver (ofJson v) open_) := by
  match v with
  | .null | .bool _ | .number _ | .text _ | .array [] | .object [] => rfl
  | .array (v :: items) =>
    rw [tokens, List.cons_append, List.foldlM_cons, step, beginValue]
    refine (List.foldlM_append ..).trans ?_
    rw [foldlM_firstItem, foldlM_itemTokens _ (List.cons_ne_nil v items), List.append_nil]
    refine congrArg some ?_
    rw [List.reverse_reverse, ofJson]
  | .object (e :: entries) =>
    rw [tokens, List.cons_append, List.foldlM_cons, step, beginValue]
    refine (List.foldlM_append ..).trans ?_
    rw [foldlM_firstKey, foldlM_entryTokens _ (List.cons_ne_nil e entries), List.append_nil]
    refine congrArg some ?_
    rw [List.reverse_reverse, ofJson]

/-- The tokens of some items, of which there is one, are put behind those that are done. -/
theorem foldlM_itemTokens (items : List Json) (hne : items ≠ []) (done : List Document)
    (open_ : List Frame) : (itemTokens items).foldlM step (.value (.items done :: open_)) =
      some (.itemEnd ((ofItems items).reverse ++ done) open_) := by
  match items, hne with
  | [v], _ => exact foldlM_tokens v _
  | v :: w :: more, _ =>
    rw [itemTokens, List.foldlM_append, foldlM_tokens]
    refine (foldlM_itemTokens (w :: more) (List.cons_ne_nil w more) (ofJson v :: done)
      open_).trans ?_
    simp [ofItems]

/-- The tokens of some entries, of which there is one, are put behind those that are done. -/
theorem foldlM_entryTokens (entries : List (String × Json)) (hne : entries ≠ [])
    (done : List (Option String × Document)) (open_ : List Frame) :
    (entryTokens entries).foldlM step (.key done open_) =
      some (.entryEnd ((ofEntries entries).reverse ++ done) open_) := by
  match entries, hne with
  | [(k, v)], _ => exact foldlM_tokens v _
  | (k, v) :: f :: more, _ =>
    rw [entryTokens]
    refine (List.foldlM_append (l := v.tokens) ..).trans ?_
    rw [foldlM_tokens]
    refine (foldlM_entryTokens (f :: more) (List.cons_ne_nil f more)
      ((some k, ofJson v) :: done) open_).trans ?_
    simp [ofEntries]

end

/-- **The text of an exact value is parsed as the document of the value.** -/
theorem parse?_chars {v : Json} (hv : v.isExact = true) : parse? v.chars = some (ofJson v) := by
  rw [parse?, ofChars?_chars hv, Option.bind_some, ofTokens?, foldlM_tokens]
  rfl

end Document
end Json
end ScanService
