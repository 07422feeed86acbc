import ScanService.Proofs.Store.Answers

/-!
# What calls make of a repository

A repository is looked for under its URL, and the first that is there is the one that is found and
changed.  A store call therefore leaves what is found under a URL as it is, unless it changes the
repository with this very URL.

## What is here

* `mem_updateFirst`, `find?_updateFirst`, `find?_updateFirst_of_not` — what is there and what is found
  after the first element of a kind has been changed.
* `stores_repositories_cases` — what a call makes of the stored repositories; where each comes from
  (`stores_repositories`).
* `find?_repositories_of_ne`, `find?_repositories_of_update` — what is found under a URL after a call.
-/

namespace ScanService

namespace Store

variable {α : Type} {p q : α → Bool} {f : α → α} {xs ys : List α} {x : α}

/-- What is there after a change was there before, or is what has been changed. -/
theorem mem_updateFirst (h : updateFirst p f xs = some ys) {y : α} (hy : y ∈ ys) :
    y ∈ xs ∨ ∃ x ∈ xs, p x = true ∧ y = f x := by
  induction xs generalizing ys with
  | nil => cases h
  | cons x rest ih =>
    rw [updateFirst] at h
    split at h
    · next hx =>
      cases h
      rcases List.mem_cons.mp hy with rfl | hy
      · exact .inr ⟨x, List.mem_cons_self, hx, rfl⟩
      · exact .inl (List.mem_cons_of_mem _ hy)
    · obtain ⟨rest', hrest, rfl⟩ := Option.map_eq_some_iff.mp h
      rcases List.mem_cons.mp hy with rfl | hy
      · exact .inl List.mem_cons_self
      · rcases ih hrest hy with hy | ⟨z, hz, hp⟩
        · exact .inl (List.mem_cons_of_mem _ hy)
        · exact .inr ⟨z, List.mem_cons_of_mem _ hz, hp⟩

/-- Whoever looks for the elements of which the first has been changed finds the changed one. -/
theorem find?_updateFirst (h : updateFirst p f xs = some ys) (hx : xs.find? p = some x)
    (hp : p (f x) = true) : ys.find? p = some (f x) := by
  induction xs generalizing ys with
  | nil => cases h
  | cons y rest ih =>
    rw [updateFirst] at h
    split at h
    · next hy =>
      cases h
      rw [List.find?_cons_of_pos hy, Option.some.injEq] at hx
      subst hx
      exact List.find?_cons_of_pos hp
    · next hy =>
      obtain ⟨rest', hrest, rfl⟩ := Option.map_eq_some_iff.mp h
      rw [List.find?_cons_of_neg hy] at hx ⊢
      exact ih hrest hx

/-- Whoever looks for others finds what was there. -/
theorem find?_updateFirst_of_not (h : updateFirst p f xs = some ys)
    (hq : ∀ x, p x = true → q x = false ∧ q (f x) = false) : ys.find? q = xs.find? q := by
  induction xs generalizing ys with
  | nil => cases h
  | cons y rest ih =>
    rw [updateFirst] at h
    split at h
    · next hy =>
      cases h
      rw [List.find?_cons, List.find?_cons, (hq y hy).1, (hq y hy).2]
    · obtain ⟨rest', hrest, rfl⟩ := Option.map_eq_some_iff.mp h
      rw [List.find?_cons, List.find?_cons, ih hrest]

end Store

namespace Service.Surroundings

open Store

variable {w : Surroundings} {m m' : Memory} {url : String} {x : Repository}

/-- A call leaves the repositories as they are, or appends one, or changes the first of some. -/
theorem stores_repositories_cases {c : Store.Call} {answer : c.Answer} (h : w.Stores c m answer m') :
    m'.repositories = m.repositories ∨
      (∃ y, c = .insertRepository y ∧ m'.repositories = m.repositories ++ [y]) ∨
      ∃ f p, c = .updateRepository f p ∧
        updateFirst f.accepts p.apply m.repositories = some m'.repositories := by
  rcases h with h | ⟨_, _, _, rfl⟩
  · cases c
    case insertRepository y =>
      simp only [Memory.answer] at h
      split at h
      · cases h
        exact .inl rfl
      · cases h
        exact .inr (.inl ⟨y, rfl, rfl⟩)
    case updateRepository f p =>
      simp only [Memory.answer] at h
      split at h
      · next hupdate =>
        cases h
        exact .inr (.inr ⟨f, p, rfl, hupdate⟩)
      · cases h
        exact .inl rfl
    all_goals
      simp only [Memory.answer] at h
      try split at h
      all_goals
        try split at h
        all_goals
          cases h
          exact .inl rfl
  · exact .inl rfl

/-- Where the repositories come from that are stored after a call. -/
theorem stores_repositories {c : Store.Call} {answer : c.Answer} (h : w.Stores c m answer m')
    {y : Repository} (hy : y ∈ m'.repositories) : y ∈ m.repositories ∨ c = .insertRepository y ∨
      ∃ f p, c = .updateRepository f p ∧
        ∃ x ∈ m.repositories, f.accepts x = true ∧ y = p.apply x := by
  rcases stores_repositories_cases h with he | ⟨x, hq, he⟩ | ⟨f, p, hq, hupdate⟩
  · exact .inl (he ▸ hy)
  · rw [he] at hy
    rcases List.mem_append.mp hy with hy | hy
    · exact .inl hy
    · obtain rfl := List.mem_singleton.mp hy
      exact .inr (.inl hq)
  · rcases mem_updateFirst hupdate hy with hy | hx
    · exact .inl hy
    · exact .inr (.inr ⟨f, p, hq, hx⟩)

/-- What is found under a URL stays, unless a repository is changed. -/
theorem find?_repositories_of_ne {c : Store.Call} {answer : c.Answer} (h : w.Stores c m answer m')
    (hc : ∀ f p, c ≠ .updateRepository f p) (hx : m.repositories.find? (·.url == url) = some x) :
    m'.repositories.find? (·.url == url) = some x := by
  rcases stores_repositories_cases h with he | ⟨y, -, he⟩ | ⟨f, p, hq, -⟩
  · rwa [he]
  · rw [he, List.find?_append, hx]
    rfl
  · exact absurd hq (hc f p)

/-- A change of a repository is found under its URL, and not under others. -/
theorem find?_repositories_of_update {u : String} {p : RepositoryPatch}
    {answer : Except ServiceError Unit} (h : w.reliable.Stores (.updateRepository (.url u) p) m answer m')
    (hx : m.repositories.find? (·.url == url) = some x) :
    m'.repositories.find? (·.url == url) = some (if u = url then p.apply x else x) := by
  have h := stores_reliable h
  have hfilter : (Filter.url u).accepts = fun y : Repository => y.url == u :=
    funext fun y => accepts_url
  rw [Memory.answer, hfilter] at h
  by_cases hu : u = url
  · subst hu
    have hxu : (x.url == u) = true := List.find?_some (p := fun y : Repository => y.url == u) hx
    have hany : m.repositories.any (·.url == u) = true :=
      List.any_eq_true.mpr ⟨x, List.mem_of_find?_eq_some hx, hxu⟩
    split at h
    · next ys hys =>
      cases h
      rw [if_pos rfl]
      exact find?_updateFirst hys hx hxu
    · next hnone =>
      rw [updateFirst_eq_none_iff, hany] at hnone
      cases hnone
  · rw [if_neg hu]
    split at h
    · next ys hys =>
      cases h
      refine (find?_updateFirst_of_not hys fun y hy => ?_).trans hx
      have hne : (y.url == url) = false := by
        rw [beq_iff_eq] at hy
        simpa [hy] using hu
      exact ⟨hne, hne⟩
    · cases h
      exact hx

end Service.Surroundings

end ScanService
