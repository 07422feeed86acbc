import ScanService.Http.Address
import ScanService.Proofs.Text.Percent

/-!
# URLs that are read

A URL that begins with a host is read as an address at that host, whatever follows, as long as a
slash comes first.  Most of what a reader does to a URL happens to special characters and to steps
between folders.  If there are none of them, the parts of the path stay what they are, but for the
percent signs, and so does the query.

## What is here

* `IsHost`, `exists_parse?` — what a URL begins with, and that it is read then.
* `IsPlain`, `encoded`, `parse?_target` — **an address without special characters is written and read
  back, with percent signs in it.**
-/

namespace ScanService
namespace Http
namespace Address

open scoped Text

variable {p : Char → Bool} {c : Char} {s t host authority part : List Char}
  {parts : List (List Char)}

/-! ## Where a URL is cut -/

@[simp] theorem splitBefore_nil : splitBefore p [] = ([], []) := rfl

theorem splitBefore_cons (hc : p c = false) (s : List Char) :
    splitBefore p (c :: s) = (c :: (splitBefore p s).1, (splitBefore p s).2) := by
  simp [splitBefore, hc]

theorem splitBefore_cons_self (hc : p c = true) (s : List Char) :
    splitBefore p (c :: s) = ([], c :: s) := by
  simp [splitBefore, hc]

theorem splitBefore_append (hs : ∀ c ∈ s, p c = false) (t : List Char) :
    splitBefore p (s ++ t) = (s ++ (splitBefore p t).1, (splitBefore p t).2) := by
  induction s with
  | nil => rfl
  | cons c s ih =>
    rw [List.forall_mem_cons] at hs
    rw [List.cons_append, splitBefore_cons hs.1, ih hs.2, List.cons_append]

theorem splitBefore_eq_self (hs : ∀ c ∈ s, p c = false) : splitBefore p s = (s, []) := by
  have h := splitBefore_append hs []
  rwa [List.append_nil, splitBefore_nil, List.append_nil] at h

/-! ## Hosts -/

/-- A text with which a URL begins: a scheme of the web and an authority. -/
structure IsHost (host authority : List Char) : Prop where
  eq : host = "http://".toList ++ authority ∨ host = "https://".toList ++ authority
  isAuthority : isAuthority authority = true
  plain : ∀ c ∈ authority, 32 < c.toNat ∧ (isSlash c || c == '?' || c == '#') = false

/-- Cleaning leaves a host what it is. -/
theorem clean_append_slash (hs : ∀ c ∈ s, 32 < c.toNat) (t : List Char) :
    clean (s ++ '/' :: t) = s ++ '/' :: cleanEnd t := by
  have hfront : (s ++ '/' :: t).dropWhile isEnd = s ++ '/' :: t := by
    cases s with
    | nil => rfl
    | cons c s =>
      have hc := hs c (List.mem_cons_self ..)
      exact List.dropWhile_cons_of_neg (by simpa [isEnd] using hc)
  have hback : (s ++ '/' :: t).reverse.dropWhile isEnd =
      t.reverse.dropWhile isEnd ++ '/' :: s.reverse := by
    rw [List.reverse_append, List.reverse_cons, List.append_assoc, List.dropWhile_append]
    split
    · next h => rw [List.isEmpty_iff.mp h]; rfl
    · rfl
  have hkeep : s.filter (fun c => c != '\t' && c != '\n' && c != '\r') = s :=
    List.filter_eq_self.mpr fun c h => by
      have hc := hs c h
      simp only [Bool.and_eq_true, bne_iff_ne]
      refine ⟨⟨?_, ?_⟩, ?_⟩ <;>
      · rintro rfl
        exact absurd hc (by decide)
  rw [clean, hfront, cleanEnd, hback, List.reverse_append, List.reverse_cons,
    List.reverse_reverse, List.append_assoc, List.filter_append, hkeep]
  rfl

/-- **A URL that begins with a host is read as an address at it.** -/
theorem IsHost.parse?_eq (h : IsHost host authority) (s : List Char) :
    parse? (host ++ '/' :: s) = some (atHost authority ('/' :: cleanEnd s)) := by
  have hclean : afterScheme? (clean (host ++ '/' :: s)) =
      some ('/' :: '/' :: (authority ++ '/' :: cleanEnd s)) := by
    have hplain : ∀ c ∈ host, 32 < c.toNat := by
      have hauthority : ∀ c ∈ authority, 32 < c.toNat := fun c hc => (h.plain c hc).1
      rcases h.eq with rfl | rfl <;>
        exact List.forall_mem_append.mpr ⟨by decide, hauthority⟩
    rw [clean_append_slash hplain]
    rcases h.eq with rfl | rfl <;> rfl
  have hslashes : ('/' :: '/' :: (authority ++ '/' :: cleanEnd s)).dropWhile isSlash =
      authority ++ '/' :: cleanEnd s := by
    cases hauthority : authority with
    | nil => exact nomatch hauthority ▸ h.isAuthority
    | cons c rest =>
      have hc := (h.plain c (by simp [hauthority])).2
      simp only [Bool.or_eq_false_iff] at hc
      have hslash : isSlash '/' = true := rfl
      simp [hslash, hc.1.1]
  have hsplit : splitBefore (fun c => isSlash c || c == '?' || c == '#')
      (authority ++ '/' :: cleanEnd s) = (authority, '/' :: cleanEnd s) := by
    rw [splitBefore_append fun c hc => (h.plain c hc).2, splitBefore_cons_self rfl,
      List.append_nil]
  simp only [parse?, hclean, hslashes, hsplit, Option.bind_eq_bind, Option.bind_some,
    h.isAuthority, Bool.not_true, Bool.false_eq_true, if_false]
  rfl

/-! ## Addresses without special characters -/

/-- No part is a step between folders, none holds a slash or a question mark, there are no line breaks
and no tabs, and the end is not blank. -/
structure IsPlain (a : Address) : Prop where
  path : a.path ≠ []
  part : ∀ part ∈ a.path, ∀ c ∈ part, (isSlash c || c == '?') = false
  notSame : ∀ part ∈ a.path, isSameFolder part = false
  notParent : ∀ part ∈ a.path, isParentFolder part = false
  unbroken : ∀ c ∈ a.target, (c == '#' || c == '\t' || c == '\n' || c == '\r') = false
  last : ∀ c ∈ a.target.getLast?, 32 < c.toNat

/-- The address with percent signs for the characters that it does not hold as they are. -/
def encoded (a : Address) : Address :=
  ⟨a.authority, a.path.map (Text.percentEncode isPathChar),
    a.query.map (Text.percentEncode isQueryChar)⟩

theorem cleanEnd_eq_self (hbreak : ∀ c ∈ s, (c == '\t' || c == '\n' || c == '\r') = false)
    (hlast : ∀ c ∈ s.getLast?, 32 < c.toNat) : cleanEnd s = s := by
  have hback : s.reverse.dropWhile isEnd = s.reverse := by
    cases hs : s.reverse with
    | nil => rfl
    | cons c rest =>
      have hc := hlast c (by rw [← List.head?_reverse, hs]; rfl)
      exact List.dropWhile_cons_of_neg (by simpa [isEnd] using hc)
  rw [cleanEnd, hback, List.reverse_reverse, List.filter_eq_self]
  intro c hc
  have := hbreak c hc
  simp only [Bool.or_eq_false_iff] at this
  simp [bne, this]

theorem partsFrom_append (hpart : ∀ c ∈ part, isSlash c = false) (acc t : List Char) :
    partsFrom acc (part ++ t) = partsFrom (part.reverse ++ acc) t := by
  induction part generalizing acc with
  | nil => rfl
  | cons c part ih =>
    rw [List.forall_mem_cons] at hpart
    rw [List.cons_append, partsFrom, hpart.1, if_neg Bool.false_ne_true, ih hpart.2,
      List.reverse_cons, List.append_assoc]
    rfl

/-- Parts that are written with a slash in front of each are told apart. -/
theorem partsFrom_flatMap (hparts : ∀ part ∈ parts, ∀ c ∈ part, isSlash c = false)
    (acc : List Char) : partsFrom acc (parts.flatMap ('/' :: ·)) = acc.reverse :: parts := by
  induction parts generalizing acc with
  | nil => rfl
  | cons part parts ih =>
    rw [List.forall_mem_cons] at hparts
    have hslash : isSlash '/' = true := rfl
    rw [List.flatMap_cons, List.cons_append, partsFrom, if_pos hslash, partsFrom_append hparts.1,
      List.append_nil, ih hparts.2, List.reverse_reverse]

/-- Where there are no steps, a walk leads to where it is told. -/
theorem walk_eq (hsame : ∀ part ∈ parts, isSameFolder part = false)
    (hparent : ∀ part ∈ parts, isParentFolder part = false) (done : List (List Char)) :
    walk done parts = done.reverse ++ parts.map (Text.percentEncode isPathChar) := by
  induction parts generalizing done with
  | nil => simp [walk]
  | cons part parts ih =>
    rw [List.forall_mem_cons] at hsame hparent
    rw [walk, hparent.1, hsame.1, if_neg Bool.false_ne_true, if_neg Bool.false_ne_true,
      ih hsame.2 hparent.2, List.reverse_cons, List.append_assoc]
    rfl

/-- What stands in a URL for a query. -/
def queryText (query : Option (List Char)) : List Char := query.elim [] ('?' :: ·)

theorem target_cons (authority part : List Char) (parts : List (List Char))
    (query : Option (List Char)) : (⟨authority, part :: parts, query⟩ : Address).target =
      '/' :: (part ++ parts.flatMap ('/' :: ·) ++ queryText query) := by
  cases query <;> simp [target, queryText]

/-- What is read of a URL behind its host. -/
theorem atHost_eq (hpart : ∀ p ∈ part :: parts, ∀ c ∈ p, (isSlash c || c == '?') = false)
    (hsame : ∀ p ∈ part :: parts, isSameFolder p = false)
    (hparent : ∀ p ∈ part :: parts, isParentFolder p = false) {query : Option (List Char)}
    (hhash : ∀ c ∈ '/' :: (part ++ parts.flatMap ('/' :: ·) ++ queryText query),
      (c == '#') = false) :
    atHost authority ('/' :: (part ++ parts.flatMap ('/' :: ·) ++ queryText query)) =
      encoded ⟨authority, part :: parts, query⟩ := by
  simp only [Bool.or_eq_false_iff] at hpart
  have hslash : ∀ p ∈ part :: parts, ∀ c ∈ p, isSlash c = false := fun p hp c hc =>
    (hpart p hp c hc).1
  have hmark : ∀ c ∈ '/' :: (part ++ parts.flatMap ('/' :: ·)), (c == '?') = false := by
    intro c hc
    rcases List.mem_cons.mp hc with rfl | hc
    · rfl
    rcases List.mem_append.mp hc with hc | hc
    · exact (hpart part (List.mem_cons_self ..) c hc).2
    · obtain ⟨p, hp, hc⟩ := List.mem_flatMap.mp hc
      rcases List.mem_cons.mp hc with rfl | hc
      · rfl
      · exact (hpart p (List.mem_cons_of_mem _ hp) c hc).2
  have hquery : splitBefore (· == '?') (queryText query) = ([], queryText query) := by
    cases query <;> rfl
  have hparts : partsFrom [] (part ++ parts.flatMap ('/' :: ·)) = part :: parts := by
    rw [List.forall_mem_cons] at hslash
    rw [partsFrom_append hslash.1, partsFrom_flatMap hslash.2, List.append_nil,
      List.reverse_reverse]
  have hsplit := splitBefore_append hmark (queryText query)
  rw [hquery, List.append_nil, List.cons_append] at hsplit
  simp only [atHost, splitBefore_eq_self hhash, hsplit, hparts, walk_eq hsame hparent, encoded]
  cases query <;> rfl

/-- **An address without special characters is written and read back**, with percent signs in it. -/
theorem IsPlain.parse?_target {a : Address} (h : a.IsPlain) (hhost : IsHost host a.authority) :
    parse? (host ++ a.target) = some a.encoded := by
  obtain ⟨authority, path, query⟩ := a
  obtain ⟨part, parts, rfl⟩ := List.exists_cons_of_ne_nil h.path
  have hunbroken := h.unbroken
  have hlast := h.last
  rw [target_cons] at hunbroken hlast ⊢
  simp only [Bool.or_eq_false_iff] at hunbroken
  rw [hhost.parse?_eq, cleanEnd_eq_self, atHost_eq h.part h.notSame h.notParent]
  · exact fun c hc => (hunbroken c hc).1.1.1
  · intro c hc
    obtain ⟨⟨⟨-, htab⟩, hline⟩, hreturn⟩ := hunbroken c (List.mem_cons_of_mem _ hc)
    rw [htab, hline, hreturn]
    rfl
  · intro c hc
    refine hlast c ?_
    rw [List.getLast?_cons, hc]
    rfl

end Address
end Http
end ScanService
