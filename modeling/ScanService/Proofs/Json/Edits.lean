import ScanService.Proofs.Json.Members

/-!
# Changing what a document has for a member

A document may be changed in the place of one member of its record.  What is read from it changes
in that member and in no other, in whichever form the record is written.

## What is here

* `Document.putMember` — puts something in the place of a member.
* `Document.modifyListed` — changes an item of the list in the place of a member.
* `Record.SameBut` — two records differ in one member only.
* `Record.exists_putMember` — **a changed document is that of a record which differs in one member
  only**, and `Record.exists_modifyListed` for an item of a list.
-/

namespace ScanService

open Json (Document)
open Json.Document (listed)
open FromJson (read?)

/-! ## Changes -/

namespace Json.Document

/-- Puts something in the place of a member: under the key that names it, or behind all others. -/
def putNamed (m : Member) (x : Document) :
    List (Option String × Document) → List (Option String × Document)
  | [] => [(some m.name, x)]
  | e :: rest => if e.1.any m.isNamed then (e.1, x) :: rest else e :: putNamed m x rest

/-- Puts something in the place of a record's member.  An object that lacks the member gets it, an
array that breaks off before it does not. -/
def putMember (members : List Member) (name : String) : Document → Document → Document
  | object entries, x =>
    object ((members.find? (·.name == name)).elim entries (putNamed · x entries))
  | array items, x => array (items.set (members.findIdx (·.name == name)) x)
  | d, _ => d

/-- Changes an item of the list that stands in the place of a record's member. -/
def modifyListed (members : List Member) (name : String) (k : Nat) (g : Document → Document)
    (d : Document) : Document :=
  match d.member? members name with
  | some (array items) => d.putMember members name (array (items.modify k g))
  | _ => d

end Json.Document

/-! ## Lists -/

/-- Changing corresponding members of two lists keeps the correspondence. -/
theorem forall₂_modify {α β : Type} {R : α → β → Prop} {g : α → α} {g' : β → β} {as : List α}
    {bs : List β} (h : List.Forall₂ R as bs) (hg : ∀ a b, R a b → R (g a) (g' b)) (k : Nat) :
    List.Forall₂ R (as.modify k g) (bs.modify k g') := by
  induction h generalizing k with
  | nil => simp
  | cons hab hrest ih =>
    cases k with
    | zero => exact .cons (hg _ _ hab) hrest
    | succ k => exact .cons hab (ih k)

/-! ## Objects -/

namespace Record

variable {m m' : Member} {x : Document} {entries : List (Option String × Document)}

theorem all_isSome_putNamed :
    (Document.putNamed m x entries).all (·.1.isSome) = entries.all (·.1.isSome) := by
  induction entries with
  | nil => rfl
  | cons e rest ih =>
    rw [Document.putNamed]
    split
    · rfl
    · rw [List.all_cons, List.all_cons, ih]

theorem find?_putNamed_self {s : Slot} (h : find? entries m = some s) :
    find? (Document.putNamed m x entries) m = some (.given x) := by
  induction entries with
  | nil => simp [Document.putNamed, find?, Member.isNamed]
  | cons e rest ih =>
    rw [Document.putNamed]
    split
    · next hnamed =>
      -- the key is not there again, so that nothing else is found
      rw [find?, List.filter_cons_of_pos (by exact hnamed)] at h
      split at h
      · next hnil => cases hnil
      · next hone =>
        rw [find?, List.filter_cons_of_pos (by exact hnamed), (List.cons.inj hone).2]
      · cases h
    · next hnamed =>
      rw [find?, List.filter_cons_of_neg (by exact hnamed)] at h ⊢
      exact ih h

theorem find?_putNamed_of_disjoint
    (hdisjoint : ∀ key, m.isNamed key = true → m'.isNamed key = false) :
    find? (Document.putNamed m x entries) m' = find? entries m' := by
  have hfilter : ((Document.putNamed m x entries).filter fun e => e.1.any m'.isNamed) =
      entries.filter fun e => e.1.any m'.isNamed := by
    induction entries with
    | nil =>
      have hname : m'.isNamed m.name = false := hdisjoint _ (by simp [Member.isNamed])
      simp [Document.putNamed, hname]
    | cons e rest ih =>
      rw [Document.putNamed]
      split
      · next hnamed =>
        have hother : e.1.any m'.isNamed = false := by
          cases hkey : e.1 with
          | none => rfl
          | some key =>
            rw [hkey] at hnamed
            exact hdisjoint key hnamed
        rw [List.filter_cons_of_neg (by simp [hother]), List.filter_cons_of_neg (by simp [hother])]
      · rw [List.filter_cons, List.filter_cons, ih]
  rw [find?, hfilter, find?]

variable {members : List Member} {name : String}

theorem isNamed_iff (hplain : m.aliases = []) (key : String) :
    m.isNamed key = true ↔ key = m.name := by
  rw [Member.isNamed, hplain, List.contains_nil, Bool.or_false, beq_iff_eq]

/-- Putting something under a name puts it in the slot of that name. -/
theorem exists_mapM_find?_putNamed {slots : List (String × Slot)} (hm : m.aliases = [])
    (hplain : ∀ m' ∈ members, m'.aliases = [])
    (h : (members.mapM fun m' => (find? entries m').map fun s => (m'.name, s)) = some slots) :
    ∃ slots', (members.mapM fun m' => (find? (Document.putNamed m x entries) m').map
        fun s => (m'.name, s)) = some slots' ∧
      (m.name ∈ members.map (·.name) → slots'.lookup m.name = some (.given x)) ∧
      ∀ other, other ≠ m.name → slots'.lookup other = slots.lookup other := by
  induction members generalizing slots with
  | nil =>
    cases h
    exact ⟨[], rfl, by simp, fun _ _ => rfl⟩
  | cons m' members ih =>
    rw [List.mapM_cons] at h
    obtain ⟨_, hslot, h⟩ := Option.bind_eq_some_iff.mp h
    obtain ⟨rest, hrest, h⟩ := Option.bind_eq_some_iff.mp h
    obtain ⟨s, hs, rfl⟩ := Option.map_eq_some_iff.mp hslot
    cases h
    obtain ⟨rest', hrest', hself, hothers⟩ :=
      ih (fun m' hm' => hplain m' (List.mem_cons_of_mem _ hm')) hrest
    have hplain' := hplain m' List.mem_cons_self
    by_cases hname : m'.name = m.name
    · have heq : m' = m := by
        cases m'
        cases m
        simp_all
      subst heq
      refine ⟨(m'.name, .given x) :: rest', ?_, fun _ => List.lookup_cons_self, fun other h => ?_⟩
      · rw [List.mapM_cons, find?_putNamed_self hs, hrest']
        rfl
      · rw [List.lookup_cons, List.lookup_cons, beq_false_of_ne h]
        exact hothers other h
    · refine ⟨(m'.name, s) :: rest', ?_, fun h => ?_, fun other h => ?_⟩
      · rw [List.mapM_cons, find?_putNamed_of_disjoint, hs, hrest']
        · rfl
        · intro key hkey
          rw [← Bool.not_eq_true, isNamed_iff hplain', (isNamed_iff hm key).mp hkey]
          exact Ne.symm hname
      · rw [List.lookup_cons, beq_false_of_ne (Ne.symm hname)]
        rw [List.map_cons, List.mem_cons] at h
        exact hself (h.resolve_left (Ne.symm hname))
      · rw [List.lookup_cons, List.lookup_cons, hothers other h]

/-! ## Arrays -/

/-- Putting something in the place of a member puts it in the member's slot. -/
theorem exists_distribute_set {items : List Document} {slots : List (String × Slot)}
    (hroom : members.findIdx (·.name == name) < items.length)
    (h : distribute members items = some slots) :
    ∃ slots', distribute members (items.set (members.findIdx (·.name == name)) x) = some slots' ∧
      slots'.lookup name = some (.given x) ∧
      ∀ other, other ≠ name → slots'.lookup other = slots.lookup other := by
  induction members generalizing items slots with
  | nil =>
    cases items with
    | nil => exact absurd hroom (by simp)
    | cons d items => cases h
  | cons m members ih =>
    cases items with
    | nil => exact absurd hroom (by simp)
    | cons d items =>
      obtain ⟨rest, hrest, rfl⟩ := Option.map_eq_some_iff.mp h
      by_cases hname : m.name = name
      · subst hname
        rw [List.findIdx_cons, beq_self_eq_true]
        refine ⟨(m.name, .given x) :: rest, ?_, List.lookup_cons_self, fun other h => ?_⟩
        · exact congrArg (Option.map _) hrest
        · rw [List.lookup_cons, List.lookup_cons, beq_false_of_ne h]
      · rw [List.findIdx_cons, beq_false_of_ne hname, cond_false] at hroom ⊢
        obtain ⟨rest', hrest', hself, hothers⟩ := ih (Nat.lt_of_succ_lt_succ hroom) hrest
        refine ⟨(m.name, .given d) :: rest', ?_, ?_, fun other h => ?_⟩
        · rw [List.set_cons_succ, distribute, hrest', Option.map_some]
        · rw [List.lookup_cons, beq_false_of_ne (Ne.symm hname), hself]
        · rw [List.lookup_cons, List.lookup_cons, hothers other h]

/-! ## Records -/

/-- Records that differ in one member only. -/
structure SameBut (name : String) (r r' : Record) : Prop where
  /-- They are nested as deep. -/
  levels : r'.levels = r.levels
  /-- They have the same for any other member. -/
  slot : ∀ other, other ≠ name → r'.slot other = r.slot other

namespace SameBut

variable {r r' : Record} {α : Type} [FromJson α]

theorem orElse_eq (h : SameBut name r r') (other : String) (hother : other ≠ name) (default : α) :
    r'.orElse other default = r.orElse other default := by
  rw [orElse, h.slot other hother, h.levels, orElse]

theorem optional_eq (h : SameBut name r r') (other : String) (hother : other ≠ name) :
    (r'.optional other : Option (Option α)) = r.optional other := by
  rw [optional, h.slot other hother, h.levels, optional]

end SameBut

variable {levels : Nat} {d : Document} {r : Record}

/-- **A changed document is that of a record which differs in one member only**, if no member has
several names, and an array does not break off before that member. -/
theorem exists_putMember (hplain : ∀ m ∈ members, m.aliases = [])
    (hname : name ∈ members.map (·.name))
    (hroom : ∀ items, d = .array items → members.findIdx (·.name == name) < items.length)
    (h : ofDocument? members levels d = some r) :
    ∃ r', ofDocument? members levels (d.putMember members name x) = some r' ∧
      SameBut name r r' ∧ r'.slot name = .given x := by
  obtain ⟨level, rfl⟩ : ∃ level, levels = level + 1 := ⟨_, levels_of_ofDocument? h⟩
  suffices hslots : ∃ slots, ofDocument? members (level + 1) (d.putMember members name x) =
      some ⟨level, slots⟩ ∧ slots.lookup name = some (.given x) ∧
        ∀ other, other ≠ name → slots.lookup other = r.slots.lookup other by
    obtain ⟨slots, hslots, hself, hothers⟩ := hslots
    refine ⟨_, hslots, ⟨Nat.succ.inj (levels_of_ofDocument? h), fun other h => ?_⟩, ?_⟩
    · rw [slot, hothers other h, slot]
    · rw [slot, hself]
      rfl
  cases d with
  | object entries =>
    rw [ofDocument?] at h
    split at h
    · next hkeys =>
      obtain ⟨slots, hslots, rfl⟩ := Option.map_eq_some_iff.mp h
      cases hfind : members.find? (·.name == name) with
      | none =>
        obtain ⟨m, hm, rfl⟩ := List.mem_map.mp hname
        exact absurd (List.find?_eq_none.mp hfind m hm) (by simp)
      | some m =>
        obtain rfl : m.name = name := by simpa using List.find?_some hfind
        have hm := hplain m (List.mem_of_find?_eq_some hfind)
        obtain ⟨slots', hslots', hself, hothers⟩ := exists_mapM_find?_putNamed hm hplain hslots
        refine ⟨slots', ?_, hself hname, hothers⟩
        rw [Document.putMember, hfind, Option.elim_some, ofDocument?, all_isSome_putNamed,
          if_pos hkeys, hslots', Option.map_some]
    · cases h
  | array items =>
    obtain ⟨slots, hslots, rfl⟩ := Option.map_eq_some_iff.mp h
    obtain ⟨slots', hslots', h⟩ := exists_distribute_set (hroom items rfl) hslots
    exact ⟨slots', congrArg (Option.map _) hslots', h⟩
  | _ => cases h

/-- **A list with a changed item is read as the list with that item changed.** -/
theorem exists_modifyListed {α : Type} [FromJson α] {as : List α} {g : Document → Document}
    {g' : α → α} (hplain : ∀ m ∈ members, m.aliases = []) (hname : name ∈ members.map (·.name))
    (h : ofDocument? members levels d = some r) (has : r.orElse name [] = some as)
    (hg : ∀ levels x a, read? levels x = some a → read? levels (g x) = some (g' a)) (k : Nat) :
    ∃ r', ofDocument? members levels (d.modifyListed members name k g) = some r' ∧
      SameBut name r r' ∧ r'.orElse name [] = some (as.modify k g') := by
  have hread := has
  rw [orElse_eq h] at hread
  have hitems := forall₂_modify (forall₂_listed hread) (hg _) k
  rw [Document.modifyListed]
  split
  · next items hplace =>
    have hroom : ∀ items, d = .array items → members.findIdx (·.name == name) < items.length := by
      rintro items rfl
      exact (List.getElem?_eq_some_iff.mp hplace).1
    obtain ⟨r', hr', hsame, hself⟩ :=
      exists_putMember (x := .array (items.modify k g)) hplain hname hroom h
    refine ⟨r', hr', hsame, ?_⟩
    rw [orElse, hself, hsame.levels]
    rw [hplace] at hread hitems
    generalize r.levels = levels at hread hitems ⊢
    cases levels with
    | zero => cases hread
    | succ levels => exact mapM_eq_some_iff.mpr hitems
  · next hplace =>
    refine ⟨r, h, ⟨rfl, fun _ _ => rfl⟩, ?_⟩
    have hnone : listed (d.member? members name) = [] := by
      cases hd : d.member? members name with
      | none => rfl
      | some d' => cases d' <;> first | rfl | exact absurd hd (hplace _)
    have hempty := forall₂_listed hread
    rw [hnone] at hempty
    cases hempty
    rw [has, List.modify_nil]

end Record
end ScanService
