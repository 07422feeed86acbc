import Mathlib.Data.List.Perm.Basic
import ScanService.Distinct
import ScanService.Proofs.Text.Blank

/-!
# Names in order of first appearance

Names and languages are compared without their blank ends and capitals.  Of a list of them those are
kept that are not blank and have not been seen before.  What that comes to can be said without going
along the list: everything that it names is there, and each stands before those that appear later
than it does.  Only one list is like that.

## What is here

* `IsFirstSeen` — the elements of a list, each once, in the order of first appearance;
  `IsFirstSeen.unique`, `isFirstSeen_distinct`: **`distinct` makes this list and no other.**
* `firstBy_firstBy` — who has looked for first appearances finds no other ones later.
* `normalForms` — the names that some texts stand for.
-/

namespace ScanService

section FirstSeen

variable {α : Type} [DecidableEq α] {xs ys zs : List α}

/-- The elements of a list, each once, in the order in which they first appear there. -/
structure IsFirstSeen (xs ys : List α) : Prop where
  /-- They are the elements of the list. -/
  mem_iff : ∀ x, x ∈ ys ↔ x ∈ xs
  /-- Each stands before those that appear later. -/
  ordered : ys.Pairwise fun x y => xs.idxOf x < xs.idxOf y

/-- No element stands there twice. -/
theorem IsFirstSeen.nodup (h : IsFirstSeen xs ys) : ys.Nodup := by
  refine h.ordered.imp fun {x y} hlt he => ?_
  rw [he] at hlt
  exact Nat.lt_irrefl _ hlt

/-- **There is only one such list.** -/
theorem IsFirstSeen.unique (h : IsFirstSeen xs ys) (h' : IsFirstSeen xs zs) : ys = zs := by
  have hperm : ys.Perm zs :=
    (List.perm_ext_iff_of_nodup h.nodup h'.nodup).mpr fun x => (h.mem_iff x).trans (h'.mem_iff x).symm
  refine hperm.eq_of_pairwise (fun x y _ _ hxy hyx => ?_) h.ordered h'.ordered
  exact absurd (hxy.trans hyx) (Nat.lt_irrefl _)

/-- What is kept has not been seen, and is kept in order. -/
theorem pairwise_idxOf_firstBy (seen xs : List α) :
    (firstBy id seen xs).Pairwise fun x y => xs.idxOf x < xs.idxOf y := by
  induction xs generalizing seen with
  | nil => exact .nil
  | cons x rest ih =>
    -- whatever is kept behind the first element is another one
    have hlater {seen : List α} (hx : x ∈ seen) : (firstBy id seen rest).Pairwise fun y z =>
        (x :: rest).idxOf y < (x :: rest).idxOf z := by
      have hne {y : α} (hy : y ∈ firstBy id seen rest) : x ≠ y := fun he =>
        (mem_of_mem_firstBy hy).2 (he ▸ hx)
      refine (List.Pairwise.and_mem.mp (ih seen)).imp fun ⟨hy, hz, hlt⟩ => ?_
      rw [List.idxOf_cons_ne _ (hne hy), List.idxOf_cons_ne _ (hne hz)]
      exact Nat.succ_lt_succ hlt
    rw [firstBy]
    split
    · next hx => exact hlater hx
    · refine List.pairwise_cons.mpr ⟨fun y hy => ?_, hlater List.mem_cons_self⟩
      have hne : x ≠ y := fun he => (mem_of_mem_firstBy hy).2 (he ▸ List.mem_cons_self)
      rw [List.idxOf_cons_self, List.idxOf_cons_ne _ hne]
      exact Nat.succ_pos _

/-- **The different elements of a list are kept in the order of first appearance.** -/
theorem isFirstSeen_distinct (xs : List α) : IsFirstSeen xs (distinct xs) where
  mem_iff x := by
    refine ⟨fun h => (mem_of_mem_firstBy h).1, fun h => ?_⟩
    have hkept : id x ∈ [] ∨ id x ∈ (distinct xs).map id := key_mem_map_firstBy h
    rw [List.map_id] at hkept
    exact hkept.resolve_left List.not_mem_nil
  ordered := pairwise_idxOf_firstBy [] xs

/-- Elements that are all different are all kept. -/
theorem distinct_of_nodup (h : xs.Nodup) : distinct xs = xs := by
  refine (isFirstSeen_distinct xs).unique ⟨fun _ => Iff.rfl, ?_⟩
  rw [List.pairwise_iff_getElem]
  intro i j hi hj hlt
  rwa [h.idxOf_getElem i hi, h.idxOf_getElem j hj]

end FirstSeen

/-! ## Keys that have been seen -/

section Keys

variable {α κ : Type} [DecidableEq κ] {key : α → κ} {seen seen' : List κ}

/-- All that matters of the keys that have been seen is which these are. -/
theorem firstBy_congr (h : ∀ k, k ∈ seen ↔ k ∈ seen') (xs : List α) :
    firstBy key seen xs = firstBy key seen' xs := by
  induction xs generalizing seen seen' with
  | nil => rfl
  | cons x rest ih =>
    have hx : ∀ k, k ∈ key x :: seen ↔ k ∈ key x :: seen' := fun k => by
      rw [List.mem_cons, List.mem_cons, h k]
    simp only [firstBy, h (key x), ih h, ih hx]

/-- The keys at their first appearance are the keys of the elements that are kept. -/
theorem firstBy_map (seen : List κ) (xs : List α) :
    firstBy id seen (xs.map key) = (firstBy key seen xs).map key := by
  induction xs generalizing seen with
  | nil => rfl
  | cons x rest ih =>
    rw [List.map_cons, firstBy, firstBy, ih, ih]
    split
    · next hx => rw [if_pos (by simpa using hx)]
    · next hx =>
      rw [if_neg (by simpa using hx)]
      rfl

variable [DecidableEq α]

/-- What has been seen is passed over. -/
theorem distinct_filter_ne (a : α) (xs : List α) :
    distinct (xs.filter fun x => x ≠ a) = firstBy id [a] xs := by
  suffices h : ∀ seen, firstBy id seen (xs.filter fun x => x ≠ a) = firstBy id (a :: seen) xs from
    h []
  induction xs with
  | nil => exact fun _ => rfl
  | cons x rest ih =>
    intro seen
    by_cases hx : x = a
    · rw [List.filter_cons_of_neg (by simpa using hx), firstBy, if_pos (by simp [hx]), ih]
    · rw [List.filter_cons_of_pos (by simpa using hx), firstBy, firstBy, ih, ih]
      have hseen (k : α) : k ∈ a :: x :: seen ↔ k ∈ x :: a :: seen := by
        simp [or_left_comm]
      simp only [id, List.mem_cons, hx, false_or]
      rw [firstBy_congr hseen]

/-- Whoever has looked for first appearances finds no others by a coarser key. -/
theorem firstBy_firstBy {seen : List α} {seen' : List κ} (h : ∀ x ∈ seen, key x ∈ seen')
    (xs : List α) : firstBy key seen' (firstBy id seen xs) = firstBy key seen' xs := by
  induction xs generalizing seen seen' with
  | nil => rfl
  | cons x rest ih =>
    rw [firstBy]
    split
    · next hx => rw [ih h, firstBy, if_pos (h x hx)]
    · rw [firstBy, firstBy]
      split
      · next hkey => exact ih (List.forall_mem_cons.mpr ⟨hkey, h⟩)
      · refine congrArg (x :: ·) (ih (List.forall_mem_cons.mpr ⟨List.mem_cons_self, ?_⟩))
        exact fun y hy => List.mem_cons_of_mem _ (h y hy)

end Keys

/-! ## Names that texts stand for -/

/-- The names that some texts stand for: without blank ends, in lowercase, and none for a text that is
all blank. -/
def normalForms (texts : List String) : List String :=
  (texts.map fun t => Text.lowercase (Text.trim t)).filter fun name => !name.isEmpty

theorem normalForms_eq (texts : List String) : normalForms texts =
    (texts.map fun t => Text.lowercase (Text.trim t)).filter fun name => name ≠ "" := by
  refine List.filter_congr fun name _ => ?_
  rw [Bool.eq_iff_iff, Bool.not_eq_true', ← Bool.not_eq_true, String.isEmpty_iff,
    decide_eq_true_eq]

theorem mem_normalForms {texts : List String} {name : String} : name ∈ normalForms texts ↔
    ∃ t ∈ texts, Text.trim t ≠ "" ∧ name = Text.lowercase (Text.trim t) := by
  rw [normalForms_eq, List.mem_filter, List.mem_map]
  constructor
  · rintro ⟨⟨t, ht, rfl⟩, hne⟩
    exact ⟨t, ht, by simpa [Text.lowercase_eq_empty_iff] using hne, rfl⟩
  · rintro ⟨t, ht, hne, rfl⟩
    exact ⟨⟨t, ht, rfl⟩, by simpa [Text.lowercase_eq_empty_iff] using hne⟩

/-- The names of some texts are what is left of them when they have been looked at once. -/
theorem distinct_normalForms_distinct (texts : List String) :
    distinct (normalForms (distinct texts)) = distinct (normalForms texts) := by
  rw [normalForms_eq, normalForms_eq, distinct_filter_ne, distinct_filter_ne, firstBy_map,
    firstBy_map, distinct, firstBy_firstBy (List.forall_mem_nil _)]

end ScanService
