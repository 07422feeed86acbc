/-!
# Programs that ask

An `Interface` is a kind of questions, each with a type of answers.  A `Program` over it is a tree:
it is done with a value, or it asks a question and goes on with the answer.  Nothing is said about
who answers, so the same program can be run at once, interleaved with others a question at a time, or
asked about for every possible answer.

* `Program.run` answers all questions from a state.
* `Program.refine` replaces each question by a program over another interface.
* `Program.Trace` says which conversations a program can have, whoever answers; the conversations of
  two programs one after the other are those of the first followed by those of the second
  (`trace_bind`), and `run` has one of them (`exists_trace_run`), so that there always is one
  (`exists_trace`).
-/

namespace ScanService

/-- Questions, and the type of the answers to each. -/
structure Interface where
  /-- The questions. -/
  Call : Type
  /-- The answers to a question. -/
  Answer : Call → Type

/-- A computation that may ask questions on its way. -/
inductive Program (I : Interface) (α : Type) : Type where
  /-- There is nothing left to ask. -/
  | done (value : α)
  /-- Asks a question and goes on with its answer. -/
  | ask (call : I.Call) (next : I.Answer call → Program I α)

namespace Program

variable {I J : Interface} {α β γ σ : Type}

/-- Goes on with a second program when the first is done. -/
def bind : Program I α → (α → Program I β) → Program I β
  | done a, f => f a
  | ask c next, f => ask c fun r => (next r).bind f

instance : Monad (Program I) where
  pure := done
  bind := bind

/-- The program that asks one question. -/
def call (c : I.Call) : Program I (I.Answer c) := ask c done

/-- Replaces every question by a program that finds its answer. -/
def refine (f : (c : J.Call) → Program I (J.Answer c)) : Program J α → Program I α
  | done a => done a
  | ask c next => (f c).bind fun r => (next r).refine f

/-- Runs a program, a state answering its questions. -/
def run (answer : (c : I.Call) → σ → I.Answer c × σ) : Program I α → σ → α × σ
  | done a, s => (a, s)
  | ask c next, s => (next (answer c s).1).run answer (answer c s).2

/-- Runs a program for each element of a list, in order. -/
def forEach (f : α → Program I Unit) : List α → Program I Unit
  | [] => done ()
  | a :: rest => (f a).bind fun _ => forEach f rest

/-- Every question that can be asked has a property. -/
def OnlyAsks (p : I.Call → Prop) : Program I α → Prop
  | done _ => True
  | ask c next => p c ∧ ∀ r, (next r).OnlyAsks p

/-- A question and the answer it got. -/
abbrev Exchange (I : Interface) : Type := (c : I.Call) × I.Answer c

/-- A program can have a conversation and end with a value. -/
inductive Trace : Program I α → List (Exchange I) → α → Prop where
  | done (a : α) : Trace (.done a) [] a
  | ask {c : I.Call} {next : I.Answer c → Program I α} {r : I.Answer c} {rest : List (Exchange I)}
      {a : α} (h : Trace (next r) rest a) : Trace (.ask c next) (⟨c, r⟩ :: rest) a

@[simp] theorem bind_done (a : α) (f : α → Program I β) : (done a).bind f = f a := rfl

@[simp] theorem bind_ask (c : I.Call) (next : I.Answer c → Program I α) (f : α → Program I β) :
    (ask c next).bind f = ask c fun r => (next r).bind f := rfl

@[simp] theorem pure_eq_done (a : α) : (pure a : Program I α) = done a := rfl

@[simp] theorem bind_eq_bind (m : Program I α) (f : α → Program I β) : m >>= f = m.bind f := rfl

theorem bind_done_right (m : Program I α) : m.bind done = m := by
  induction m with
  | done a => rfl
  | ask c next ih => rw [bind_ask]; congr 1; funext r; exact ih r

theorem bind_assoc (m : Program I α) (f : α → Program I β) (g : β → Program I γ) :
    (m.bind f).bind g = m.bind fun a => (f a).bind g := by
  induction m with
  | done a => rfl
  | ask c next ih => simp only [bind_ask]; congr 1; funext r; exact ih r

theorem run_bind (answer : (c : I.Call) → σ → I.Answer c × σ) (m : Program I α)
    (f : α → Program I β) (s : σ) :
    (m.bind f).run answer s = (f (m.run answer s).1).run answer (m.run answer s).2 := by
  induction m generalizing s with
  | done a => rfl
  | ask c next ih => exact ih _ _

theorem onlyAsks_bind {p : I.Call → Prop} {m : Program I α} {f : α → Program I β}
    (hm : m.OnlyAsks p) (hf : ∀ a, (f a).OnlyAsks p) : (m.bind f).OnlyAsks p := by
  induction m with
  | done a => exact hf a
  | ask c next ih => exact ⟨hm.1, fun r => ih r (hm.2 r)⟩

theorem OnlyAsks.imp {p q : I.Call → Prop} {m : Program I α} (h : m.OnlyAsks p)
    (hpq : ∀ c, p c → q c) : m.OnlyAsks q := by
  induction m with
  | done a => exact True.intro
  | ask c next ih => exact ⟨hpq c h.1, fun r => ih r (h.2 r)⟩

/-! ## Conversations -/

theorem trace_done_iff {a b : α} {t : List (Exchange I)} :
    (done b).Trace t a ↔ t = [] ∧ a = b := by
  constructor
  · rintro ⟨⟩
    exact ⟨rfl, rfl⟩
  · rintro ⟨rfl, rfl⟩
    exact .done a

theorem trace_ask_iff {c : I.Call} {next : I.Answer c → Program I α} {t : List (Exchange I)}
    {a : α} : (ask c next).Trace t a ↔
      ∃ (r : I.Answer c) (rest : List (Exchange I)), t = ⟨c, r⟩ :: rest ∧ (next r).Trace rest a := by
  constructor
  · rintro ⟨⟩
    exact ⟨_, _, rfl, ‹_›⟩
  · rintro ⟨r, rest, rfl, h⟩
    exact .ask h

theorem trace_bind {m : Program I α} {f : α → Program I β} {t : List (Exchange I)} {b : β} :
    (m.bind f).Trace t b ↔ ∃ u v a, t = u ++ v ∧ m.Trace u a ∧ (f a).Trace v b := by
  constructor
  · intro h
    induction m generalizing t with
    | done a => exact ⟨[], t, a, rfl, .done a, h⟩
    | ask c next ih =>
      rw [bind_ask] at h
      cases h with
      | ask h =>
        obtain ⟨u, v, a, rfl, hu, hv⟩ := ih _ h
        exact ⟨_ :: u, v, a, rfl, .ask hu, hv⟩
  · rintro ⟨u, v, a, rfl, hu, hv⟩
    induction hu with
    | done a => exact hv
    | ask _ ih => exact .ask (ih hv)

/-- Running a program is one of its conversations. -/
theorem exists_trace_run (answer : (c : I.Call) → σ → I.Answer c × σ) (m : Program I α) (s : σ) :
    ∃ t, m.Trace t (m.run answer s).1 := by
  induction m generalizing s with
  | done a => exact ⟨[], .done a⟩
  | ask c next ih =>
    obtain ⟨t, ht⟩ := ih (answer c s).1 (answer c s).2
    exact ⟨_ :: t, .ask ht⟩

/-- Whoever answers, a program has some conversation. -/
theorem exists_trace (h : ∀ c : I.Call, Nonempty (I.Answer c)) (m : Program I α) :
    ∃ t a, m.Trace t a := by
  obtain ⟨t, ht⟩ := exists_trace_run (fun c (s : Unit) => (Classical.choice (h c), s)) m ()
  exact ⟨t, _, ht⟩

/-- The questions of a conversation are among those that can be asked. -/
theorem OnlyAsks.of_trace {p : I.Call → Prop} {m : Program I α} {t : List (Exchange I)} {a : α}
    (h : m.OnlyAsks p) (ht : m.Trace t a) : ∀ x ∈ t, p x.1 := by
  induction ht with
  | done a => intro x hx; cases hx
  | ask _ ih =>
    intro x hx
    rcases List.mem_cons.mp hx with rfl | hx
    · exact h.1
    · exact ih (h.2 _) x hx

instance : LawfulMonad (Program I) :=
  LawfulMonad.mk' (Program I) (fun m => bind_done_right m) (fun _ _ => rfl)
    (fun m f g => bind_assoc m f g)

end Program
end ScanService
