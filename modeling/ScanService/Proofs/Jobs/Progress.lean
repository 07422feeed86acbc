import ScanService.Proofs.Jobs.Guard
import ScanService.Proofs.Jobs.Readings
import ScanService.Proofs.Ledger.Exact
import ScanService.Proofs.Replay

/-!
# Job entries only advance

The store applies whatever patch it is given.  That no entry ever goes back is due to the runs: each
of them changes its own entry only, in the order of its stages, and an entry is never ahead of what
its run takes the job to be.  The last point matters when the store fails, for then the run goes on
with a job that its entry has fallen behind.

## What is here

* `Job.Advances` — what may become of an entry: it moves forward, and stays as it is when it has
  ended.
* `Account.Move.grows` — what a move makes of all entries, from what it makes of that of its run.
* `stored_jobs_advance` — all of this at the level of crowds.
-/

namespace ScanService

open Store (JobPatch editAnalysis editJob)

/-! ## Entries and records over time -/

namespace Job

/-- What may become of an entry. -/
structure Advances (j j' : Job) : Prop where
  /-- It stays the entry of its unit. -/
  executionId : j'.executionId = j.executionId
  /-- It stays the entry of its test. -/
  securityTest : j'.securityTest = j.securityTest
  /-- It does not go back. -/
  rank_le : j.status.rank ≤ j'.status.rank
  /-- When it has ended it stays as it is. -/
  eq_of_isTerminal : j.status.isTerminal = true → j' = j

/-- The status of an entry stays, or makes a move that it may make. -/
def Moves (j j' : Job) : Prop :=
  j'.status = j.status ∨ j.status.canMoveTo j'.status = true

theorem Advances.refl (j : Job) : j.Advances j := ⟨rfl, rfl, Nat.le_refl _, fun _ => rfl⟩

theorem Advances.trans {j j' j'' : Job} (h : j.Advances j') (h' : j'.Advances j'') :
    j.Advances j'' where
  executionId := h'.executionId.trans h.executionId
  securityTest := h'.securityTest.trans h.securityTest
  rank_le := Nat.le_trans h.rank_le h'.rank_le
  eq_of_isTerminal ht := by
    obtain rfl := h.eq_of_isTerminal ht
    exact h'.eq_of_isTerminal ht

theorem Moves.rank_le {j j' : Job} (h : j.Moves j') : j.status.rank ≤ j'.status.rank := by
  rcases h with h | h
  · exact Nat.le_of_eq (congrArg _ h.symm)
  · exact Nat.le_of_lt (JobStatus.rank_lt_of_canMoveTo h)

/-- An entry has come no further than its run takes the job to have come. -/
def Trails (j job : Job) : Prop :=
  j.Matches job ∧ j.status.rank ≤ job.status.rank

theorem Trails.apply {j job : Job} (h : j.Trails job) (p : JobPatch) :
    (p.apply j).Trails (p.apply job) := by
  refine ⟨h.1, ?_⟩
  cases hp : p.status with
  | none => simpa [JobPatch.apply, hp] using h.2
  | some status => simp [JobPatch.apply, hp]

theorem Trails.isTerminal {j job : Job} (h : j.Trails job) (hlive : job.status.isTerminal = false) :
    j.status.isTerminal = false := by
  have hle := h.2
  revert hlive hle
  cases job.status <;> cases j.status <;> simp [JobStatus.isTerminal, JobStatus.rank]

/-- An entry that is not ahead advances when the job does. -/
theorem Trails.advances_apply {j job : Job} (h : j.Trails job)
    (hlive : job.status.isTerminal = false) {p : JobPatch}
    (hrise : job.status.rank ≤ (p.apply job).status.rank) : j.Advances (p.apply j) where
  executionId := rfl
  securityTest := rfl
  rank_le := by
    cases hp : p.status with
    | none => simp [JobPatch.apply, hp]
    | some status =>
      have hle := Nat.le_trans h.2 hrise
      simpa [JobPatch.apply, hp] using hle
  eq_of_isTerminal ht := by
    rw [h.isTerminal hlive] at ht
    cases ht

end Job

/-- An analysis keeps its entries in their places, and these become what `S` allows. -/
def Analysis.Grows (S : Job → Job → Prop) (a a' : Analysis) : Prop :=
  a'.rid = a.rid ∧
    ∀ (n : Nat) (j : Job), a.jobs[n]? = some j → ∃ j', a'.jobs[n]? = some j' ∧ S j j'

/-- A store keeps its analyses in their places, and these grow. -/
def Store.Memory.Grows (S : Job → Job → Prop) (m m' : Store.Memory) : Prop :=
  ∀ (n : Nat) (a : Analysis), m.analyses[n]? = some a →
    ∃ a', m'.analyses[n]? = some a' ∧ a.Grows S a'

variable {S : Job → Job → Prop}

theorem Analysis.grows_of_eq (hS : ∀ j, S j j) {a a' : Analysis} (hr : a'.rid = a.rid)
    (hj : a'.jobs = a.jobs) : a.Grows S a' :=
  ⟨hr, fun _ j h => ⟨j, hj ▸ h, hS j⟩⟩

theorem Store.Memory.grows_of_eq (hS : ∀ j, S j j) {m m' : Store.Memory}
    (h : m'.analyses = m.analyses) : m.Grows S m' :=
  fun _ a ha => ⟨a, h ▸ ha, Analysis.grows_of_eq hS rfl rfl⟩

theorem Store.Memory.Grows.trans {m m' m'' : Store.Memory} (h : m.Grows S m') (h' : m'.Grows S m'')
    (hS : ∀ {j j' j''}, S j j' → S j' j'' → S j j'') : m.Grows S m'' := by
  refine fun n a ha => ?_
  obtain ⟨a', ha', hrid, hjobs⟩ := h n a ha
  obtain ⟨a'', ha'', hrid', hjobs'⟩ := h' n a' ha'
  refine ⟨a'', ha'', hrid'.trans hrid, fun k j hj => ?_⟩
  obtain ⟨j', hj', hs⟩ := hjobs k j hj
  obtain ⟨j'', hj'', hs'⟩ := hjobs' k j' hj'
  exact ⟨j'', hj'', hS hs hs'⟩

namespace Service

open Execution (UnitContext)

/-! ## The order of stages -/

namespace RunStage

variable {r : Runner} {ctx : UnitContext} {test : SecurityTest} {known : List SecurityTest}

/-- A run whose unit has not been started can only have failed. -/
def EndsInOrder : RunStage → Prop
  | recordEnd _ none ending _ => ∃ reason, ending = .failed reason
  | _ => True

theorem Step.endsInOrder {st st' : RunStage} {c : Call} {answer : c.Answer}
    {tests : List SecurityTest} (h : st.Step r ctx test known c answer st' tests) :
    st'.EndsInOrder := by
  cases h with
  | startFailed e now => exact ⟨_, rfl⟩
  | _ => exact True.intro

/-- **A step of a run leaves the status of its job, or makes a move that it may make.** -/
theorem Step.moves {st st' : RunStage} {c : Call} {answer : c.Answer} {tests : List SecurityTest}
    (h : st.Step r ctx test known c answer st' tests) (ho : st.EndsInOrder) {job job' : Job}
    (hj : st.entry? r test = some job) (hj' : st'.entry? r test = some job') : job.Moves job' := by
  cases h with
  | image | unitCreated | unitRefused | failureRecorded | unitRecorded => cases hj
  | startRecorded answer =>
    cases hj
    cases hj'
    exact .inr rfl
  | @endRecorded id startedAt ending now answer =>
    cases hj
    cases hj'
    cases startedAt with
    | none =>
      obtain ⟨reason, rfl⟩ := ho
      exact .inr rfl
    | some startedAt => cases ending <;> exact .inr rfl
  | _ =>
    cases hj
    cases hj'
    exact .inl rfl

end RunStage

/-! ## What moves make of entries -/

namespace Account

variable {k k' : Account} {i : Nat} {a : Analysis} {lost : Prop} {f : Analysis → Analysis}
  {R : Job → Job → Prop}

/-- What a move makes of all entries, from what it makes of that of its run. -/
theorem Move.grows (h : Move lost i k k' f) (hd : k.Distinct)
    (hentries : Tracks R k.known k.owners a.jobs) (hR : ∀ {j job}, R j job → j.Matches job)
    (hS : ∀ j, S j j)
    (hchange : ∀ {j job p}, k.known i = some job → k'.known i = some (JobPatch.apply p job) →
      R j job → S j (p.apply j)) : a.Grows S (f a) := by
  cases h with
  | aside | lose | miss | follow => exact Analysis.grows_of_eq hS rfl rfl
  | record => exact ⟨rfl, fun n j hj => ⟨j, List.getElem?_append_left
      (List.getElem?_eq_some_iff.mp hj).1 ▸ hj, hS j⟩⟩
  | @change job id p hk hid =>
    refine ⟨rfl, fun n j hj => ?_⟩
    obtain ⟨hn, rfl⟩ := List.getElem?_eq_some_iff.mp hj
    obtain ⟨i', -, job', hk', hr⟩ := exists_getElem?_of_forall₂ hentries.flip hj
    obtain ⟨j', hj', rfl | ⟨hid', rfl⟩⟩ :=
      exists_getElem?_of_forall₂ (Store.forall₂_editJob id p a.jobs) hj
    · exact ⟨_, hj', hS _⟩
    · -- whoever has the identifier is the run itself
      have hown := hd i' i job' job hk' hk (by rw [← (hR hr).1, hid']; simp)
        (by rw [← (hR hr).1, hid', hid])
      rw [hown, hk, Option.some_inj] at hk'
      subst hk'
      exact ⟨_, hj', hchange hk (Function.update_self ..) hr⟩

end Account

/-! ## Turns -/

namespace Staging

variable {r : Runner} {w : Surroundings} {c c' : Staging} {i : Nat} {lost : Prop}

/-- What a turn makes of all records, from what it makes of that of a run. -/
theorem Effect.grows (h : Effect r lost i c c') (hS : ∀ j, S j j)
    (hrun : ∀ {ctx : UnitContext} {test : SecurityTest} {stage : RunStage}
      {f : Analysis → Analysis}, c.stages[i]? = some (.run ctx test stage) → stage.isEnded = false →
      Account.Move lost i (c.account r ctx.rid) (c'.account r ctx.rid) f →
      ∀ a ∈ c.store.analyses, a.rid = ctx.rid → a.Grows S (f a)) :
    c.store.Grows S c'.store := by
  -- records that are changed stay in their places
  have hedit : ∀ {rid : Uuid} {f : Analysis → Analysis},
      c'.store.analyses = editAnalysis rid f c.store.analyses →
      (∀ a ∈ c.store.analyses, a.rid = rid → a.Grows S (f a)) → c.store.Grows S c'.store := by
    intro rid f hm hf
    refine fun n a ha => ⟨if a.rid = rid then f a else a, ?_, ?_⟩
    · rw [hm, editAnalysis, List.getElem?_map, ha, Option.map_some]
    · split
      · next hrid => exact hf a (List.mem_of_getElem? ha) hrid
      · exact Analysis.grows_of_eq hS rfl rfl
  cases h with
  | aside hm => exact Store.Memory.grows_of_eq hS hm
  | run hi hlive hmove hm => exact hedit hm (hrun hi hlive hmove)
  | finalize hi hm => exact hedit hm fun a _ _ => Analysis.grows_of_eq hS rfl rfl
  | insert hi hnew hm =>
    refine fun n a ha => ⟨a, ?_, Analysis.grows_of_eq hS rfl rfl⟩
    rw [hm, List.getElem?_append_left (List.getElem?_eq_some_iff.mp ha).1, ha]

/-- All runs end in order at all times. -/
theorem endsInOrder_of_history {m : Store.Memory} {t : List Crowd.Event}
    (h : History r w (idle m) t c) {j : Nat} {ctx : UnitContext} {test : SecurityTest}
    {stage : RunStage} (hj : c.stages[j]? = some (.run ctx test stage)) : stage.EndsInOrder := by
  rw [← gathered_nil r m] at h
  exact run_of_history (P := fun _ _ stage => stage.EndsInOrder) (fun _ _ => True.intro)
    (fun h _ => h.endsInOrder) h hj

/-- What a run takes its job to be makes a move in its turn, or stays. -/
theorem Turn.known_moves {m : Store.Memory} {t : List Crowd.Event} (hc : History r w (idle m) t c)
    {q : Call} {answer : q.Answer} (h : Turn r w i q answer c c') {ctx : UnitContext}
    {test : SecurityTest} {stage : RunStage} (hi : c.stages[i]? = some (.run ctx test stage))
    {job job' : Job} (hk : (c.account r ctx.rid).known i = some job)
    (hk' : (c'.account r ctx.rid).known i = some job') : job.Moves job' := by
  obtain ⟨stage', hi', ⟨-, tests, hstep⟩ | ⟨hne, -⟩⟩ := h.run_goes_on hi
  · rw [known_of_run hi] at hk
    rw [known_of_run hi'] at hk'
    exact hstep.moves (endsInOrder_of_history hc hi) hk hk'
  · exact absurd rfl hne

/-- Every entry is related to what its run takes its job to be, unless two runs have units of one
identifier. -/
def Relates (R : Job → Job → Prop) (r : Runner) (c : Staging) : Prop :=
  ∀ a ∈ c.store.analyses, (c.account r a.rid).Distinct →
    Account.Tracks R (c.account r a.rid).known (c.account r a.rid).owners a.jobs

/-- Entries stay related if it makes no difference whether the store makes or loses the change that
a run asks for. -/
theorem Relates.turn {R : Job → Job → Prop} (hx : c.Relates R r) (hc : c.Kept r) {q : Call}
    {answer : q.Answer} (h : Turn r w i q answer c c')
    (hR : ∀ j job, R j job → j.executionId = job.executionId) (hrefl : ∀ job, R job job)
    (hrun : ∀ {ctx : UnitContext} {test : SecurityTest} {stage stage' : RunStage} {job : Job}
      {p : JobPatch}, c.stages[i]? = some (.run ctx test stage) → stage.isEnded = false →
        c'.stages[i]? = some (.run ctx test stage') → stage.entry? r test = some job →
        stage'.entry? r test = some (p.apply job) →
          ∀ j, R j job → R (p.apply j) (p.apply job) ∧ R j (p.apply job)) : c'.Relates R r := by
  refine hc.founded.forall_of_effect
    (P := fun k a => k.Distinct → Account.Tracks R k.known k.owners a.jobs) (h.effect hc.rids) hx
    (fun {ctx test stage f} hi hlive hmove b hb hrid htracks => ?_)
    (fun _ _ _ h => h) fun _ _ _ _ _ _ => .nil
  obtain ⟨stage', hi', -⟩ := h.run_goes_on hi
  have hentry : ∀ job p, (c.account r ctx.rid).known i = some job →
      (c'.account r ctx.rid).known i = some (JobPatch.apply p job) →
        ∀ j, R j job → R (p.apply j) (p.apply job) ∧ R j (p.apply job) := fun job p hk hk' =>
    hrun hi hlive hi' ((known_of_run hi).symm.trans hk) ((known_of_run hi').symm.trans hk')
  exact hmove.tracks (hrid ▸ hc.balances b hb) hR hrefl
    (fun job p hk hk' j hj => (hentry job p hk hk' j hj).1)
    (fun _ job p hk hk' j hj => (hentry job p hk hk' j hj).2) htracks

/-- What turns keep of all entries is true of them at all times, and the books are kept. -/
theorem relates_history {R : Job → Job → Prop} {m : Store.Memory} (hm : m.analyses = [])
    (hturn : ∀ {t : List Crowd.Event} {c c' : Staging} {i : Nat} {q : Call} {answer : q.Answer},
      History r w (idle m) t c → c.Kept r → Turn r w i q answer c c' → c.Relates R r →
        c'.Relates R r) {t : List Crowd.Event} (h : History r w (idle m) t c) :
    c.Kept r ∧ c.Relates R r := by
  induction h with
  | start =>
    refine ⟨kept_idle hm, fun a ha => ?_⟩
    rw [idle, hm] at ha
    cases ha
  | request _ he ih =>
    refine ⟨ih.1.request he, fun a ha => ?_⟩
    rw [account_request he]
    exact ih.2 a ha
  | turn hhist h ih => exact ⟨ih.1.turn h, hturn hhist ih.1 h ih.2⟩

/-- No entry is ahead of its run, unless two runs have units of one identifier. -/
def Trails (r : Runner) (c : Staging) : Prop :=
  ∀ a ∈ c.store.analyses, (c.account r a.rid).Distinct →
    Account.Tracks Job.Trails (c.account r a.rid).known (c.account r a.rid).owners a.jobs

/-- **The books are kept, and no entry is ahead of its run.** -/
theorem trails_history {m : Store.Memory} (hm : m.analyses = []) {t : List Crowd.Event}
    (h : History r w (idle m) t c) : c.Kept r ∧ c.Trails r := by
  refine relates_history (R := Job.Trails) hm (fun hhist hc hturn hx => ?_) h
  refine hx.turn hc hturn (fun _ _ h => h.1.1) (fun _ => ⟨⟨rfl, rfl⟩, Nat.le_refl _⟩)
    fun hi _ hi' hjob hjob' j hj => ⟨hj.apply _, hj.1, Nat.le_trans hj.2 ?_⟩
  exact (hturn.known_moves hhist hi ((known_of_run hi).trans hjob)
    ((known_of_run hi').trans hjob')).rank_le

/-- **In a turn all entries advance.** -/
theorem Turn.advances {m : Store.Memory} (hm : m.analyses = []) {t : List Crowd.Event}
    (hc : History r w.withFreshUnits (idle m) t c) {q : Call} {answer : q.Answer}
    (h : Turn r w.withFreshUnits i q answer c c') : c.store.Grows Job.Advances c'.store := by
  have hkept := trails_history hm hc
  refine (h.effect hkept.1.rids).grows Job.Advances.refl fun hi hlive hmove a ha hrid => ?_
  have hd := (unitsApart_history hc).distinct_account (r := r) a.rid
  have htrails := hkept.2 a ha hd
  rw [hrid] at hd htrails
  refine hmove.grows hd htrails (fun h => h.1) Job.Advances.refl fun hk hk' htrails => ?_
  rw [known_of_run hi] at hk
  refine htrails.advances_apply (RunStage.isTerminal_of_entry? hk hlive) ?_
  exact (h.known_moves hc hi ((known_of_run hi).trans hk) hk').rank_le

/-- **With a reliable store the status of each entry stays in a turn, or makes a move that it may
make.** -/
theorem Turn.moves {m : Store.Memory} (hm : m.analyses = []) {t : List Crowd.Event}
    (hc : History r w.reliable.withFreshUnits (idle m) t c) {q : Call} {answer : q.Answer}
    (h : Turn r w.reliable.withFreshUnits i q answer c c') :
    c.store.Grows Job.Moves c'.store := by
  have hexact := exact_history (w := w.withFreshUnits) hm hc
  refine (h.effect hexact.1.rids).grows (fun _ => .inl rfl) fun hi hlive hmove a ha hrid => ?_
  have hd := (unitsApart_history (w := w.reliable) hc).distinct_account (r := r) a.rid
  have hentries := (hexact.2 a ha).entries hd
  rw [hrid] at hd hentries
  refine hmove.grows hd hentries (fun h => h ▸ ⟨rfl, rfl⟩) (fun _ => .inl rfl) fun hk hk' he => ?_
  subst he
  exact h.known_moves hc hi hk hk'

end Staging

/-! ## Crowds -/

variable {r : Runner} {w : Surroundings} {m : Store.Memory} {s s' : Crowd}

/-- What all turns of stagings make of the store, all steps of crowds make of it. -/
theorem Crowd.Step.grows (hS : ∀ j, S j j)
    (hturn : ∀ {t : List Crowd.Event} {c c' : Staging} {i : Nat} {q : Call} {answer : q.Answer},
      Staging.History r w (.idle m) t c → Staging.Turn r w i q answer c c' →
        c.store.Grows S c'.store)
    (h : Crowd.Reachable r w (.idle m) s) (hs : Crowd.Step r w s s') :
    s.store.Grows S s'.store := by
  obtain ⟨t, c, hhist, rfl⟩ := Staging.exists_staging_of_reachable h
  rcases Crowd.step_iff.mp hs with ⟨e, he, rfl⟩ | ⟨i, q, answer, hcrowd⟩
  · exact Store.Memory.grows_of_eq hS rfl
  · obtain ⟨c', hstaged, rfl⟩ := Staging.staged_turn hcrowd
    exact hturn hhist hstaged

/-- What turns make of the store, runs make of it, if it adds up. -/
theorem Crowd.Reachable.grows (hS : ∀ j, S j j)
    (htrans : ∀ {j j' j''}, S j j' → S j' j'' → S j j'')
    (hturn : ∀ {t : List Crowd.Event} {c c' : Staging} {i : Nat} {q : Call} {answer : q.Answer},
      Staging.History r w (.idle m) t c → Staging.Turn r w i q answer c c' →
        c.store.Grows S c'.store)
    (h : Crowd.Reachable r w (.idle m) s) (h' : Crowd.Reachable r w s s') :
    s.store.Grows S s'.store := by
  induction h' with
  | refl => exact Store.Memory.grows_of_eq hS rfl
  | step h' hs ih => exact ih.trans (hs.grows hS hturn (h.trans h')) htrans

/-- **Job entries only advance.**  Start from a store without analyses, and let no two units of an
analysis have one identifier:

* whatever turns are taken, whatever the backend answers and whichever calls to the store fail, all
  entries stay in their places, and each of them advances: it stays the entry of its unit and its
  test, its status does not go back, and when it has ended it stays as it is;
* as long as the store does not fail of itself, each step leaves the status of an entry as it is, or
  it is a move that the entry may make;
* the guard never keeps a run from changing its job: whatever were done in that case, the run would
  be the same program. -/
theorem stored_jobs_advance (r : Runner) (hm : m.analyses = []) :
    (∀ (w : Surroundings) (s s' : Crowd), Crowd.Reachable r w.withFreshUnits (.idle m) s →
      Crowd.Reachable r w.withFreshUnits s s' → s.store.Grows Job.Advances s'.store) ∧
    (∀ (w : Surroundings) (s s' : Crowd), Crowd.Reachable r w.reliable.withFreshUnits (.idle m) s →
      Crowd.Step r w.reliable.withFreshUnits s s' → s.store.Grows Job.Moves s'.store) ∧
    ∀ move : Mover, move.KeepsToGuard → ∀ ctx test, r.runWith move ctx test = r.run ctx test := by
  refine ⟨fun w s s' h h' => ?_, fun w s s' h hs => ?_, fun move hmove ctx test => ?_⟩
  · induction h' with
    | refl => exact Store.Memory.grows_of_eq Job.Advances.refl rfl
    | step h' hs ih =>
      have hlast := hs.grows Job.Advances.refl (fun hc hturn => hturn.advances hm hc) (h.trans h')
      exact ih.trans hlast Job.Advances.trans
  · exact hs.grows (fun _ => .inl rfl) (fun hc hturn => hturn.moves hm hc) h
  · exact Runner.runWith_eq hmove r ctx test

/-- The beginning of the detector's run in the sample: its unit has been created. -/
def Script.beginning : List Script.Move := Script.admission ++ List.replicate 3 (.turn 1)

/-- In the sample the entry of the detector advances from its beginning to its end. -/
theorem stored_jobs_advance_sample : ∃ s s' a a' j j',
    Crowd.replay Script.sampleRunner .sample Script.beginning (.idle Script.sampleStore) = some s ∧
      Crowd.replay Script.sampleRunner .sample (List.replicate 10 (.turn 1)) s = some s' ∧
      s.store.analyses = [a] ∧ s'.store.analyses = [a'] ∧ a.jobs = [j] ∧ a'.jobs[0]? = some j' ∧
      j.status = .created ∧ j'.status = .finished ∧ j.Advances j' := by
  obtain ⟨s, s', a, a', j, j', hs, hs', ha, ha', hj, hj', hstatus, hstatus'⟩ :
      ∃ s s' a a' j j', Crowd.replay Script.sampleRunner .sample Script.beginning
          (.idle Script.sampleStore) = some s ∧
        Crowd.replay Script.sampleRunner .sample (List.replicate 10 (.turn 1)) s = some s' ∧
        s.store.analyses = [a] ∧ s'.store.analyses = [a'] ∧ a.jobs = [j] ∧ a'.jobs[0]? = some j' ∧
        j.status = .created ∧ j'.status = .finished :=
    ⟨_, _, _, _, _, _, rfl, rfl, rfl, rfl, rfl, rfl, rfl, rfl⟩
  have hfresh : ∀ units c answer, Surroundings.IsFresh units c answer →
      Surroundings.arbitrary.withFreshUnits.backend units c answer :=
    fun _ _ _ h => ⟨True.intro, h⟩
  have hgrows := (stored_jobs_advance (m := Script.sampleStore) Script.sampleRunner rfl).1 .arbitrary
    s s' (Crowd.reachable_of_replay hfresh hs) (Crowd.reachable_of_replay hfresh hs')
  obtain ⟨b, hb, -, hjobs⟩ := hgrows 0 a (by rw [ha]; rfl)
  obtain rfl : a' = b := by simpa [ha'] using hb
  obtain ⟨j₁, hj₁, hadvances⟩ := hjobs 0 j (by rw [hj]; rfl)
  obtain rfl : j' = j₁ := by simpa [hj'] using hj₁
  exact ⟨s, s', a, a', j, j', hs, hs', ha, ha', hj, hj', hstatus, hstatus', hadvances⟩

end Service
end ScanService
