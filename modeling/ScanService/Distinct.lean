/-!
# First occurrences

`firstBy key seen xs` keeps the elements of `xs` whose key neither belongs to `seen` nor to an
element before them.
-/

namespace ScanService

/-- The elements at the first occurrence of their key, keys in `seen` counting as having occurred. -/
def firstBy {α κ : Type} [DecidableEq κ] (key : α → κ) (seen : List κ) : List α → List α
  | [] => []
  | x :: xs =>
    if key x ∈ seen then firstBy key seen xs else x :: firstBy key (key x :: seen) xs

/-- The elements at their first occurrence. -/
def distinct {α : Type} [DecidableEq α] (xs : List α) : List α := firstBy id [] xs

variable {α κ : Type} [DecidableEq κ] {key : α → κ}

/-- What is kept was there, and its key had not been seen. -/
theorem mem_of_mem_firstBy {seen : List κ} {xs : List α} {x : α} (h : x ∈ firstBy key seen xs) :
    x ∈ xs ∧ key x ∉ seen := by
  induction xs generalizing seen with
  | nil => cases h
  | cons y ys ih =>
    rw [firstBy] at h
    split at h
    · exact ⟨List.mem_cons_of_mem _ (ih h).1, (ih h).2⟩
    · next hy =>
      rcases List.mem_cons.mp h with rfl | h
      · exact ⟨List.mem_cons_self, hy⟩
      · exact ⟨List.mem_cons_of_mem _ (ih h).1,
          fun hs => (ih h).2 (List.mem_cons_of_mem _ hs)⟩

/-- Every key that occurs was seen or is kept. -/
theorem key_mem_map_firstBy {seen : List κ} {xs : List α} {x : α} (h : x ∈ xs) :
    key x ∈ seen ∨ key x ∈ (firstBy key seen xs).map key := by
  induction xs generalizing seen with
  | nil => cases h
  | cons y ys ih =>
    rw [firstBy]
    split
    · next hy =>
      rcases List.mem_cons.mp h with rfl | h
      · exact Or.inl hy
      · exact ih h
    · rcases List.mem_cons.mp h with rfl | h
      · exact Or.inr (by simp)
      · rcases @ih (key y :: seen) h with hs | hs
        · rcases List.mem_cons.mp hs with he | hs
          · exact Or.inr (by simp [he])
          · exact Or.inl hs
        · exact Or.inr (by
            rw [List.map_cons]
            exact List.mem_cons_of_mem _ hs)

/-- The kept elements have different keys. -/
theorem nodup_map_firstBy (seen : List κ) (xs : List α) :
    ((firstBy key seen xs).map key).Nodup := by
  induction xs generalizing seen with
  | nil => exact List.nodup_nil
  | cons y ys ih =>
    rw [firstBy]
    split
    · exact ih seen
    · rw [List.map_cons, List.nodup_cons]
      refine ⟨fun hm => ?_, ih _⟩
      obtain ⟨x, hx, he⟩ := List.mem_map.mp hm
      exact (mem_of_mem_firstBy hx).2 (by simp [he])

/-- The elements at their first occurrence are different. -/
theorem nodup_distinct {α : Type} [DecidableEq α] (xs : List α) : (distinct xs).Nodup := by
  have h : ((firstBy id [] xs).map id).Nodup := nodup_map_firstBy [] xs
  rwa [List.map_id] at h

end ScanService
