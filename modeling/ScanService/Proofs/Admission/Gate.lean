import ScanService.Proofs.Stages.Staging

/-!
# Behind the gate

At most one admission is behind the gate of admission, and only while the gate is taken
(`Gated`).  `Turn.passage` tells the turns apart by what they do about it: somebody enters, somebody
behind the gate takes a step of the chart, or neither.
-/

namespace ScanService
namespace Service
namespace Staging

variable {r : Runner} {w : Surroundings} {c c' : Staging} {i : Nat}

/-- An admission stands in a place. -/
abbrev AdmissionAt (c : Staging) (i : Nat) (url : String) (stage : AdmissionStage) : Prop :=
  c.stages[i]? = some (.admission url stage)

/-- What a turn does about the gate. -/
inductive Passage (w : Surroundings) (i : Nat) (c c' : Staging) : Prop where
  /-- Nothing: it is not the turn of an admission. -/
  | aside (hi : ∀ url stage, ¬c.AdmissionAt i url stage)
    (hs : ∀ j url stage, c'.AdmissionAt j url stage → c.AdmissionAt j url stage)
    (hg : c'.gateTaken = c.gateTaken)
  /-- An admission enters. -/
  | enter {url : String} (hi : c.AdmissionAt i url .enter)
    (hs : ∀ j url' stage', c'.AdmissionAt j url' stage' →
      (j = i ∧ url' = url ∧ stage' = .findRepository) ∨ (j ≠ i ∧ c.AdmissionAt j url' stage'))
    (hfree : c.gateTaken = false) (hg : c'.gateTaken = true) (hm : c'.store = c.store)
  /-- The admission behind the gate takes a step. -/
  | proceed {url : String} {stage stage' : AdmissionStage} {q : Store.Call} {answer : q.Answer}
    {admitted : Option Analysis} (hi : c.AdmissionAt i url stage)
    (hs : ∀ j url' stage'', c'.AdmissionAt j url' stage'' →
      (j = i ∧ url' = url ∧ stage'' = stage') ∨ (j ≠ i ∧ c.AdmissionAt j url' stage''))
    (h : stage.Step url (.store q) answer stage' admitted)
    (ha : w.Stores q c.store answer c'.store)
    (hg : c'.gateTaken = (c.gateTaken && stage'.holdsGate))

/-- Whoever is not an admission, before and after, has nothing to do with the gate. -/
theorem passage_aside {old stage : Stage} {launched : List Errand}
    (hi : c.stages[i]? = some old) (hold : ∀ url stage', old ≠ .admission url stage')
    (hstage : ∀ url stage', stage ≠ .admission url stage')
    (hl : ∀ e ∈ launched, e.isRequest = false)
    (hc : c'.stages = (c.goOn r i stage launched).stages) (hg : c'.gateTaken = c.gateTaken) :
    Passage w i c c' := by
  refine .aside (fun url stage h => ?_) (fun j url stage' h => ?_) hg
  · exact hold url stage (Option.some.inj (hi.symm.trans h))
  · rw [AdmissionAt, hc] at h
    rcases stages_goOn_of_ne_run hl (fun _ _ _ h => by cases h) h with ⟨-, hx⟩ | ⟨-, h⟩
    · exact absurd hx.symm (hstage url stage')
    · exact h

/-- **What a turn does about the gate.** -/
theorem Turn.passage {q : Call} {answer : q.Answer} (h : Turn r w i q answer c c') :
    Passage w i c c' := by
  cases h with
  | runStore hi =>
    exact passage_aside hi (fun _ _ h => by cases h) (fun _ _ h => by cases h)
      (fun _ => isRequest_of_mem_runs) rfl rfl
  | runBackend hi | status hi | plain hi =>
    exact passage_aside hi (fun _ _ h => by cases h) (fun _ _ h => by cases h)
      (fun _ he => by cases he) rfl rfl
  | enter hi hg =>
    refine .enter hi (fun j url' stage' h => ?_) hg rfl rfl
    rcases stages_goOn_of_ne_run (fun _ he => by cases he) (fun _ _ _ h => by cases h) h with
      ⟨rfl, hx⟩ | h
    · cases hx
      exact .inl ⟨rfl, rfl, rfl⟩
    · exact .inr h
  | @admission _ url stage stage' q answer m admitted hi ha h =>
    refine .proceed hi (fun j url' stage'' hj => ?_) h ha rfl
    rcases stages_goOn_of_ne_run (fun _ => isRequest_of_mem_admitted) (fun _ _ _ h => by cases h) hj
      with ⟨rfl, hx⟩ | hj
    · cases hx
      exact .inl ⟨rfl, rfl, rfl⟩
    · exact .inr hj

/-! ## Mutual exclusion -/

/-- At most one admission is behind the gate, and only while the gate is taken. -/
structure Gated (c : Staging) : Prop where
  taken : ∀ i url stage, c.AdmissionAt i url stage → stage.holdsGate = true → c.gateTaken = true
  alone : ∀ i j url url' stage stage', c.AdmissionAt i url stage → c.AdmissionAt j url' stage' →
    stage.holdsGate = true → stage'.holdsGate = true → i = j

theorem gated_idle (m : Store.Memory) : (idle m).Gated where
  taken i url stage hi := by simp [AdmissionAt, idle] at hi
  alone i j url url' stage stage' hi := by simp [AdmissionAt, idle] at hi

theorem Gated.request {e : Errand} (hc : c.Gated) :
    ({ c with stages := c.stages ++ [.begin r e] } : Staging).Gated := by
  have hold : ∀ i url stage,
      ({ c with stages := c.stages ++ [.begin r e] } : Staging).AdmissionAt i url stage →
        stage.holdsGate = true → c.AdmissionAt i url stage := by
    intro i url stage hi hh
    rcases stages_request hi with hi | hi
    · exact hi
    · cases e <;> cases hi
      cases hh
  exact
    { taken := fun i url stage hi hh => hc.taken i url stage (hold i url stage hi hh) hh
      alone := fun i j url url' stage stage' hi hj hh hh' =>
        hc.alone i j url url' stage stage' (hold i url stage hi hh) (hold j url' stage' hj hh') hh
          hh' }

theorem holdsGate_of_step {url : String} {stage stage' : AdmissionStage} {q : Store.Call}
    {answer : q.Answer} {admitted : Option Analysis}
    (h : stage.Step url (.store q) answer stage' admitted) : stage.holdsGate = true := by
  cases h <;> first | rfl | assumption

/-- **No two admissions are ever behind the gate.** -/
theorem Gated.passage (hc : c.Gated) (h : Passage w i c c') : c'.Gated := by
  cases h with
  | aside hi hs hg =>
    exact
      { taken := fun j url stage hj hh => hg.trans (hc.taken j url stage (hs j url stage hj) hh)
        alone := fun j j' url url' stage stage' hj hj' =>
          hc.alone j j' url url' stage stage' (hs j url stage hj) (hs j' url' stage' hj') }
  | enter hi hs hfree hg =>
    have hnobody : ∀ j url stage, c.AdmissionAt j url stage → stage.holdsGate = true → False := by
      intro j url stage hj hh
      have htaken := hc.taken j url stage hj hh
      rw [hfree] at htaken
      cases htaken
    refine ⟨fun _ _ _ _ _ => hg, fun j j' url url' stage stage' hj hj' hh hh' => ?_⟩
    rcases hs j url stage hj with ⟨rfl, -, -⟩ | ⟨-, hj⟩
    · rcases hs j' url' stage' hj' with ⟨rfl, -, -⟩ | ⟨-, hj'⟩
      · rfl
      · exact (hnobody j' url' stage' hj' hh').elim
    · exact (hnobody j url stage hj hh).elim
  | @proceed url stage stage' q answer admitted hi hs h ha hg =>
    have hholds := holdsGate_of_step h
    -- whoever is behind the gate now was behind it before, so it is the one whose turn it was
    have hself : ∀ j url'' stage'', c'.AdmissionAt j url'' stage'' → stage''.holdsGate = true →
        j = i ∧ stage'' = stage' := by
      intro j url'' stage'' hj hh
      rcases hs j url'' stage'' hj with ⟨rfl, -, rfl⟩ | ⟨hne, hj⟩
      · exact ⟨rfl, rfl⟩
      · exact absurd (hc.alone j i url'' url stage'' stage hj hi hh hholds) hne
    refine ⟨fun j url'' stage'' hj hh => ?_, fun j j' url₁ url₂ stage₁ stage₂ hj hj' hh hh' => ?_⟩
    · obtain ⟨-, rfl⟩ := hself j url'' stage'' hj hh
      rw [hg, hc.taken i url stage hi hholds, hh, Bool.and_true]
    · exact (hself j url₁ stage₁ hj hh).1.trans (hself j' url₂ stage₂ hj' hh').1.symm

end Staging
end Service
end ScanService
