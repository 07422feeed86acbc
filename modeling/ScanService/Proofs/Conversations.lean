import ScanService.Proofs.Turns

/-!
# What a task is told among others

Turns of a crowd belong to tasks, and what one of them has asked and been told is read off its own
turns (`Crowd.said`).  Between them it goes on by itself, so whatever the others do, it has the
conversation that its errand would have anywhere (`History.converses`).  What is shown of all
conversations of an errand is true of it in every crowd.

## What is here

* `Crowd.gathered` — tasks that are about to begin, around a store with anything in it.
* `Crowd.said`, `turns` — the exchanges of a task that took turns, and those of a conversation.
* `History.converses` — **what a task has been told so far goes on, in whatever way the task
  can go on, to a conversation of its errand.**
-/

namespace ScanService

namespace Service

open Execution (UnitContext)

/-- Every question of a task has an answer. -/
theorem Call.nonempty_answer (c : Call) : Nonempty c.Answer := by
  cases c with
  | store q => exact ⟨Except.error (.timeout "")⟩
  | backend q => exact ⟨Except.error (.timeout (.ofSeconds 0))⟩
  | readClock => exact ⟨Timestamp.unixEpoch⟩
  | readTimer => exact ⟨.ofSeconds 0⟩
  | drawRid => exact ⟨default⟩
  | sleep | launch | enterGate | leaveGate => exact ⟨()⟩

/-- The exchanges of a conversation that take a turn. -/
def turns (u : List (Program.Exchange activity)) : List (Program.Exchange activity) :=
  u.filter fun y => Call.takesTurn y.1

theorem turns_cons_of_takesTurn {c : Call} {answer : c.Answer} (h : Call.takesTurn c = true)
    (u : List (Program.Exchange activity)) : turns (⟨c, answer⟩ :: u) = ⟨c, answer⟩ :: turns u :=
  List.filter_cons_of_pos h

theorem turns_cons_of_quiet {c : Call} {answer : c.Answer} (h : Call.takesTurn c = false)
    (u : List (Program.Exchange activity)) : turns (⟨c, answer⟩ :: u) = turns u :=
  List.filter_cons_of_neg (Bool.eq_false_iff.mp h)

namespace Crowd

/-- A store and tasks that are about to begin. -/
def gathered (r : Runner) (m : Store.Memory) (errands : List Errand) : Crowd :=
  ⟨m, false, [], errands.map (.begin r)⟩

/-- The turns of the task in one place. -/
def turnsOf (i : Nat) (t : List Event) : List Event := t.filter (·.place == i)

/-- What the task in one place has asked in its turns, and what it was told. -/
def said (i : Nat) (t : List Event) : List (Program.Exchange activity) :=
  (turnsOf i t).map fun x => ⟨x.call, x.answer⟩

variable {r : Runner} {w : Surroundings} {s s' : Crowd} {t : List Event} {i j : Nat} {c : Call}
  {answer : c.Answer}

theorem turnsOf_concat_self :
    turnsOf i (t ++ [⟨i, c, answer⟩]) = turnsOf i t ++ [⟨i, c, answer⟩] := by
  simp [turnsOf]

theorem turnsOf_concat_of_ne (h : j ≠ i) : turnsOf i (t ++ [⟨j, c, answer⟩]) = turnsOf i t := by
  simp [turnsOf, h]

@[simp] theorem said_concat_self :
    said i (t ++ [⟨i, c, answer⟩]) = said i t ++ [⟨c, answer⟩] := by
  rw [said, turnsOf_concat_self, List.map_append, said, List.map_singleton]

theorem said_concat_of_ne (h : j ≠ i) : said i (t ++ [⟨j, c, answer⟩]) = said i t := by
  rw [said, turnsOf_concat_of_ne h, said]

/-- Nobody has said anything in a place behind all those who had turns. -/
theorem said_eq_nil_of_le {n : Nat} (h : ∀ x ∈ t, x.place < n) (hi : n ≤ i) : said i t = [] := by
  rw [said, List.map_eq_nil_iff, turnsOf, List.filter_eq_nil_iff]
  intro x hx hplace
  have hlt := h x hx
  rw [beq_iff_eq.mp hplace] at hlt
  omega

/-- A task has said something exactly if it was said in a turn of its own. -/
theorem mem_said : ⟨c, answer⟩ ∈ said i t ↔ ⟨i, c, answer⟩ ∈ t := by
  rw [said, List.mem_map]
  constructor
  · rintro ⟨⟨j, c', answer'⟩, hmem, he⟩
    cases he
    obtain ⟨hmem, hj⟩ := List.mem_filter.mp hmem
    exact beq_iff_eq.mp hj ▸ hmem
  · intro hmem
    exact ⟨⟨i, c, answer⟩, List.mem_filter.mpr ⟨hmem, beq_self_eq_true i⟩, rfl⟩

/-- A task that settles launches some others. -/
theorem Settles.exists_workers {α : Type} {x x' : Task α} (h : Settles r x s x' s') :
    ∃ errands : List Errand, s'.workers = s.workers ++ errands.map (.begin r) := by
  induction h with
  | settled => exact ⟨[], (List.append_nil _).symm⟩
  | quiet hq _ ih =>
    obtain ⟨errands, he⟩ := ih
    cases hq with
    | launch s ctx test => exact ⟨.run ctx test :: errands, by simp [he, begin]⟩
    | readClock | readTimer | sleep | drawRid | leaveGate => exact ⟨errands, he⟩

/-- What it does until then, it does without a turn. -/
theorem Settles.exists_trace {α : Type} {x x' : Task α} (h : Settles r x s x' s')
    {v : List (Program.Exchange activity)} {a : α} (hv : x'.Trace v a) :
    ∃ u, x.Trace u a ∧ turns u = turns v := by
  induction h with
  | settled => exact ⟨v, hv, rfl⟩
  | quiet hq _ ih =>
    obtain ⟨u, hu, hturns⟩ := ih hv
    refine ⟨_, .ask hu, ?_⟩
    rw [← hturns]
    refine turns_cons_of_quiet ?_ u
    cases hq <;> rfl

/-- Each task that stands somewhere has had the conversation of its errand as far as that, in some
turns, and no turn was that of a task that is not there. -/
structure Converses (r : Runner) (t : List Event) (s : Crowd) : Prop where
  /-- Only tasks that are there have turns. -/
  places : ∀ x ∈ t, x.place < s.workers.length
  /-- Each conversation of the rest goes on with that of the errand. -/
  goesOn : ∀ (i : Nat) (x : Worker), s.workers[i]? = some x →
    ∀ v a, x.rest.Trace v a → ∃ u, (x.errand.task r).Trace u a ∧ turns u = said i t ++ turns v

/-- Nobody has said anything in a place that is still free. -/
theorem Converses.said_eq_nil (h : Converses r t s) (hi : s.workers.length ≤ i) : said i t = [] :=
  said_eq_nil_of_le h.places hi

/-- Whoever begins has its whole conversation ahead. -/
theorem Converses.goesOn_begin (h : Converses r t s) (hi : s.workers.length ≤ i) {e : Errand}
    {v : List (Program.Exchange activity)} {a : e.Result} (hv : (e.task r).Trace v a) :
    ∃ u, (e.task r).Trace u a ∧ turns u = said i t ++ turns v :=
  ⟨v, hv, by rw [h.said_eq_nil hi, List.nil_append]⟩

/-- What some tasks say before anybody else has had a turn. -/
theorem converses_gathered (m : Store.Memory) (errands : List Errand) :
    Converses r [] (gathered r m errands) where
  places x hx := by cases hx
  goesOn i x hi v a hv := by
    obtain ⟨e, -, rfl⟩ := List.mem_map.mp (List.mem_of_getElem? hi)
    exact ⟨v, hv, by simp [said, turnsOf]⟩

theorem Converses.request (h : Converses r t s) (e : Errand) : Converses r t (s.begin r e) where
  places x hx := Nat.lt_of_lt_of_le (h.places x hx) (by simp [begin])
  goesOn i x hi v a hv := by
    rw [begin, List.getElem?_append] at hi
    split at hi
    · exact h.goesOn i x hi v a hv
    · next hlt =>
      obtain rfl := List.mem_singleton.mp (List.mem_of_getElem? hi)
      exact h.goesOn_begin (Nat.not_lt.mp hlt) hv

/-- Who stands where after a turn: whoever had it has gone on, the others stand where they stood,
and some may have begun. -/
theorem Turn.cases_workers (h : Turn r w j c answer s s') {x : Worker}
    (hi : s'.workers[i]? = some x) :
    (i = j ∧ ∃ (e : Errand) (next : c.Answer → Task e.Result) (rest : Task e.Result) (s₁ s₂ : Crowd),
        s.workers[i]? = some ⟨e, .ask (I := activity) c next⟩ ∧ x = ⟨e, rest⟩ ∧
          Settles r (next answer) s₁ rest s₂) ∨
      (i ≠ j ∧ s.workers[i]? = some x) ∨ s.workers.length ≤ i ∧ ∃ e, x = .begin r e := by
  obtain ⟨hj, ha, ht⟩ := h
  obtain ⟨errands, hworkers⟩ := ht.exists_workers
  rw [ha.workers_eq] at hworkers
  have hlt : j < s.workers.length := (List.getElem?_eq_some_iff.mp hj).1
  rw [resume, hworkers, List.set_append_left _ _ hlt, List.getElem?_append, List.length_set] at hi
  split at hi
  · by_cases hij : i = j
    · subst hij
      rw [List.getElem?_set_self hlt] at hi
      cases hi
      exact .inl ⟨rfl, _, _, _, _, _, hj, rfl, ht⟩
    · rw [List.getElem?_set_ne (Ne.symm hij)] at hi
      exact .inr (.inl ⟨hij, hi⟩)
  · next hlt =>
    obtain ⟨e', -, rfl⟩ := List.mem_map.mp (List.mem_of_getElem? hi)
    exact .inr (.inr ⟨Nat.not_lt.mp hlt, e', rfl⟩)

theorem Turn.takesTurn (h : Turn r w j c answer s s') : Call.takesTurn c = true := by
  obtain ⟨-, ha, -⟩ := h
  cases ha <;> rfl

theorem Turn.place_lt (h : Turn r w j c answer s s') :
    j < s.workers.length ∧ s.workers.length ≤ s'.workers.length := by
  obtain ⟨hj, ha, ht⟩ := h
  refine ⟨(List.getElem?_eq_some_iff.mp hj).1, ?_⟩
  rw [resume, List.length_set, ← ha.workers_eq]
  exact ht.workers_isPrefix.length_le

/-- A turn goes on with the conversation of the task that has it, and with no other. -/
theorem Converses.turn (h : Converses r t s) (hturn : Turn r w j c answer s s') :
    Converses r (t ++ [⟨j, c, answer⟩]) s' where
  places x hx := by
    obtain ⟨hj, hle⟩ := hturn.place_lt
    rcases List.mem_append.mp hx with hx | hx
    · exact Nat.lt_of_lt_of_le (h.places x hx) hle
    · rw [List.mem_singleton.mp hx]
      exact Nat.lt_of_lt_of_le hj hle
  goesOn i x hi v a hv := by
    rcases hturn.cases_workers hi with ⟨rfl, e, next, rest, s₁, s₂, hj, rfl, ht⟩ | ⟨hne, hi⟩ |
      ⟨hle, e, rfl⟩
    · obtain ⟨u, hu, hturns⟩ := ht.exists_trace hv
      obtain ⟨u', hu', hturns'⟩ := h.goesOn i _ hj _ a (.ask hu)
      refine ⟨u', hu', ?_⟩
      rw [hturns', said_concat_self, List.append_assoc, ← hturns, List.singleton_append,
        turns_cons_of_takesTurn hturn.takesTurn]
    · rw [said_concat_of_ne (Ne.symm hne)]
      exact h.goesOn i x hi v a hv
    · have hne : j ≠ i := Nat.ne_of_lt (Nat.lt_of_lt_of_le hturn.place_lt.1 hle)
      rw [said_concat_of_ne hne]
      exact h.goesOn_begin hle hv

/-- **What a task has been told goes on to a conversation of its errand**, whatever the others do. -/
theorem History.converses {m : Store.Memory} {errands : List Errand}
    (h : History r w (gathered r m errands) t s) : Converses r t s := by
  induction h with
  | start => exact converses_gathered m errands
  | request _ _ ih => exact ih.request _
  | turn _ hturn ih => exact ih.turn hturn

end Crowd
end Service
end ScanService
