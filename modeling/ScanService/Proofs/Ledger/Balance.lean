import Mathlib.Data.List.Forall2
import Mathlib.Data.List.Pairwise
import Mathlib.Data.List.Perm.Subperm
import ScanService.Proofs.Ledger.Account
import ScanService.Proofs.Store.Answers

/-!
# Balanced accounts

The record of an analysis and the account of its runs must agree.  `Account.Balances` says in what:
each run is a test that is to run, each entry is that of one run, and an entry that is terminal is
that of a run that has ended.  `Account.Move` lists what the turns of its runs do to the two, and
`Move.balances` says that they go on agreeing.

The last point needs care.  The store changes the first entry with an identifier, so if the backend
gives one identifier to two units, a run may change the entry of another.  But then the later of the
two entries stays `created` for ever, and the analysis is never complete.

## What is here

* `Account.Move.balances` — **the record and the account go on agreeing, whatever a run does.**
* `Account.Balances.ended_of_isComplete` — **when an analysis is complete, all its runs have
  ended.**
-/

namespace ScanService

open Store (JobPatch AnalysisPatch editJob updateFirst)

/-! ## Changes of one entry -/

/-- Each element on the right stands beside one on the left. -/
theorem exists_mem_of_forall₂ {α β : Type} {R : α → β → Prop} {xs : List α} {ys : List β} {y : β}
    (h : List.Forall₂ R xs ys) (hy : y ∈ ys) : ∃ x ∈ xs, R x y := by
  induction h with
  | nil => cases hy
  | @cons x y' xs ys hxy _ ih =>
    rcases List.mem_cons.mp hy with rfl | hy
    · exact ⟨x, List.mem_cons_self, hxy⟩
    · obtain ⟨x', hx', hr⟩ := ih hy
      exact ⟨x', List.mem_cons_of_mem _ hx', hr⟩

/-- Each element on the left stands beside the one in its place on the right. -/
theorem exists_getElem?_of_forall₂ {α β : Type} {R : α → β → Prop} {xs : List α} {ys : List β}
    (h : List.Forall₂ R xs ys) {n : Nat} {x : α} (hx : xs[n]? = some x) :
    ∃ y, ys[n]? = some y ∧ R x y := by
  induction h generalizing n with
  | nil => cases hx
  | @cons x' y xs ys hxy _ ih =>
    cases n with
    | zero =>
      cases hx
      exact ⟨y, rfl, hxy⟩
    | succ n => exact ih hx

/-- What stands side by side twice stands side by side. -/
theorem forall₂_comp {α β γ : Type} {R : α → β → Prop} {S : β → γ → Prop} {T : α → γ → Prop}
    (H : ∀ x y z, R x y → S y z → T x z) {xs : List α} {ys : List β} {zs : List γ}
    (h : List.Forall₂ R xs ys) (h' : List.Forall₂ S ys zs) : List.Forall₂ T xs zs := by
  induction h generalizing zs with
  | nil =>
    cases h'
    exact .nil
  | cons hxy _ ih =>
    cases h' with
    | cons hyz hrest => exact .cons (H _ _ _ hxy hyz) (ih hrest)

namespace Store

theorem editJob_cons (id : String) (p : JobPatch) (j : Job) (jobs : List Job) :
    editJob id p (j :: jobs) =
      if j.executionId = some id then p.apply j :: jobs else j :: editJob id p jobs := by
  rw [editJob, updateFirst]
  by_cases h : j.executionId = some id
  · rw [if_pos (by simpa using h), if_pos h, Option.getD_some]
  · rw [if_neg (by simpa using h), if_neg h, editJob]
    cases updateFirst (fun j => j.executionId == some id) p.apply jobs <;> rfl

/-- Each entry stays, or has the identifier and is changed. -/
theorem forall₂_editJob (id : String) (p : JobPatch) (jobs : List Job) :
    List.Forall₂ (fun j j' => j' = j ∨ j.executionId = some id ∧ j' = p.apply j) jobs
      (editJob id p jobs) := by
  induction jobs with
  | nil => exact .nil
  | cons j rest ih =>
    rw [editJob_cons]
    split
    · next hid => exact .cons (.inr ⟨hid, rfl⟩) (List.forall₂_same.mpr fun _ _ => .inl rfl)
    · exact .cons (.inl rfl) ih

end Store

namespace Job

/-- Of two entries with one identifier the later one is `created`. -/
def Yields (j j' : Job) : Prop :=
  j'.executionId ≠ none → j.executionId = j'.executionId → j'.status = .created

theorem pairwise_yields_editJob {id : String} {p : JobPatch} {jobs : List Job}
    (h : jobs.Pairwise Yields) : (editJob id p jobs).Pairwise Yields := by
  induction h with
  | nil => exact .nil
  | @cons j rest hj hrest ih =>
    rw [Store.editJob_cons]
    split
    · exact .cons hj hrest
    · next hid =>
      refine .cons (fun j' hj' hsome he => ?_) ih
      obtain ⟨j₀, hj₀, rfl | ⟨hid', rfl⟩⟩ :=
        exists_mem_of_forall₂ (Store.forall₂_editJob id p rest) hj'
      · exact hj _ hj₀ hsome he
      · -- what was changed has the identifier, which the first entry has not
        exact absurd (he.trans hid') hid

/-- Two jobs have one unit, or both have none, and one test. -/
def Matches (j job : Job) : Prop :=
  j.executionId = job.executionId ∧ j.securityTest = job.securityTest

/-- An entry may be behind what its run takes it to be, but not ahead of it. -/
def Lags (j job : Job) : Prop :=
  j.Matches job ∧ (j.status.isTerminal = true → job.status.isTerminal = true)

theorem Lags.apply {j job : Job} (h : j.Lags job) (p : JobPatch) :
    (p.apply j).Lags (p.apply job) := by
  refine ⟨h.1, ?_⟩
  cases hp : p.status with
  | none => simpa [JobPatch.apply, hp] using h.2
  | some status => simp [JobPatch.apply, hp]

end Job

/-! ## Balanced accounts -/

namespace Service
namespace Account

variable {k k' : Account} {i : Nat} {a : Analysis} {job : Job}

/-- The run in one place takes its job to be another. -/
def learn (i : Nat) (job : Job) (k : Account) : Account :=
  { k with known := Function.update k.known i (some job) }

/-- No two runs have units of one identifier. -/
def Distinct (k : Account) : Prop :=
  ∀ i i' job job', k.known i = some job → k.known i' = some job' → job.executionId ≠ none →
    job.executionId = job'.executionId → i = i'

/-- The entries are those of the owners, and related to what these take them to be. -/
def Tracks (R : Job → Job → Prop) (known : Nat → Option Job) : List Nat → List Job → Prop :=
  List.Forall₂ fun i j => ∃ job, known i = some job ∧ R j job

/-- The record of an analysis agrees with the account of its runs. -/
structure Balances (k : Account) (a : Analysis) : Prop where
  /-- The tests that are to run are those of the runs. -/
  tests : a.securityTests = k.tests
  /-- No run has two entries. -/
  nodup : k.owners.Nodup
  /-- Each entry is that of its owner. -/
  entries : Tracks Job.Matches k.known k.owners a.jobs
  /-- Entries that are never changed stay `created`. -/
  yields : a.jobs.Pairwise Job.Yields
  /-- No entry is ahead of its run, unless two runs have units of one identifier. -/
  lags : k.Distinct → Tracks Job.Lags k.known k.owners a.jobs

/-- What else is recorded of an analysis does not matter. -/
theorem Balances.congr {a' : Analysis} (h : k.Balances a) (ht : a'.securityTests = a.securityTests)
    (hj : a'.jobs = a.jobs) : k.Balances a' where
  tests := ht.trans h.tests
  nodup := h.nodup
  entries := hj ▸ h.entries
  yields := hj ▸ h.yields
  lags hd := hj ▸ h.lags hd

/-- What the turn of a run makes of the account, and of the record; a run fails to record or to
change its entry only if the store loses it. -/
inductive Move (lost : Prop) (i : Nat) (k : Account) : Account → (Analysis → Analysis) → Prop where
  /-- Nothing. -/
  | aside : Move lost i k k id
  /-- The run schedules and launches some more. -/
  | follow (runs : List (Nat × SecurityTest)) :
    Move lost i k { k with runs := k.runs ++ runs }
      (AnalysisPatch.apply { append := runs.map (·.2) })
  /-- The run records an entry. -/
  | record {job : Job} (h : k.known i = none)
    (hfresh : job.executionId ≠ none → job.status = .created) :
    Move lost i k { k.learn i job with owners := k.owners ++ [i] }
      (fun a => { a with jobs := a.jobs ++ [job] })
  /-- The run fails to record an entry. -/
  | lose {job : Job} (hl : lost) (h : k.known i = none) : Move lost i k (k.learn i job) id
  /-- The run changes its entry. -/
  | change {job : Job} {id : String} {p : JobPatch} (h : k.known i = some job)
    (hid : job.executionId = some id) :
    Move lost i k (k.learn i (p.apply job)) (fun a => { a with jobs := editJob id p a.jobs })
  /-- The run fails to change its entry. -/
  | miss {job : Job} {p : JobPatch} (hl : lost) (h : k.known i = some job) :
    Move lost i k (k.learn i (p.apply job)) id

/-! ### What a move leaves alone -/

variable {lost : Prop} {f : Analysis → Analysis}

theorem Move.rid_apply (h : Move lost i k k' f) (a : Analysis) :
    (f a).rid = a.rid := by
  cases h <;> rfl

theorem Move.url_apply (h : Move lost i k k' f) (a : Analysis) :
    (f a).url = a.url := by
  cases h <;> rfl

theorem Move.status_apply (h : Move lost i k k' f) (a : Analysis) :
    (f a).status = a.status := by
  cases h <;> rfl

/-- What is known of a run stays known, as far as its unit and its test are concerned. -/
theorem Move.known (h : Move lost i k k' f) {i' : Nat}
    (hk : k.known i' = some job) : ∃ job', k'.known i' = some job' ∧ job.Matches job' := by
  cases h with
  | aside | follow => exact ⟨job, hk, rfl, rfl⟩
  | record h | lose _ h =>
    have hne : i' ≠ i := by
      rintro rfl
      rw [hk] at h
      cases h
    exact ⟨job, by simp [learn, hne, hk], rfl, rfl⟩
  | change h | miss _ h =>
    by_cases hi : i' = i
    · subst hi
      obtain rfl : job = _ := Option.some.inj (hk.symm.trans h)
      exact ⟨_, Function.update_self .., rfl, rfl⟩
    · exact ⟨job, by simp [learn, hi, hk], rfl, rfl⟩

theorem Move.distinct (h : Move lost i k k' f) (hd : k'.Distinct) :
    k.Distinct := by
  intro i₁ i₂ job₁ job₂ h₁ h₂ hsome he
  obtain ⟨job₁', h₁', hid₁, -⟩ := h.known h₁
  obtain ⟨job₂', h₂', hid₂, -⟩ := h.known h₂
  exact hd i₁ i₂ job₁' job₂' h₁' h₂' (hid₁ ▸ hsome) (hid₁ ▸ hid₂ ▸ he)

/-! ### Entries and their owners -/

variable {R : Job → Job → Prop} {known : Nat → Option Job} {owners : List Nat} {jobs : List Job}

theorem Tracks.imp {S : Job → Job → Prop} (h : Tracks R known owners jobs)
    (hRS : ∀ j job, R j job → S j job) : Tracks S known owners jobs :=
  List.Forall₂.imp (fun _ _ ⟨job, hk, hr⟩ => ⟨job, hk, hRS _ _ hr⟩) h

/-- What a run that owns no entry learns does not matter. -/
theorem Tracks.update_of_not_mem (h : Tracks R known owners jobs) (hi : i ∉ owners) :
    Tracks R (Function.update known i (some job)) owners jobs := by
  have hmem : List.Forall₂ (fun i' j => i' ∈ owners ∧ ∃ job, known i' = some job ∧ R j job)
      owners jobs := (List.forall₂_and_left _ _).mpr ⟨fun _ h => h, h⟩
  refine hmem.imp fun i' j ⟨hi', job', hk, hr⟩ => ⟨job', ?_, hr⟩
  have hne : i' ≠ i := fun he => hi (he ▸ hi')
  rw [Function.update_of_ne hne, hk]

theorem Tracks.owner_known (h : Tracks R known owners jobs) (hi : i ∈ owners) :
    ∃ job, known i = some job := by
  obtain ⟨-, -, job, hk, -⟩ := exists_mem_of_forall₂ h.flip hi
  exact ⟨job, hk⟩

theorem Tracks.not_mem_owners (h : Tracks R known owners jobs) (hk : known i = none) :
    i ∉ owners := by
  intro hi
  obtain ⟨job, hjob⟩ := h.owner_known hi
  rw [hk] at hjob
  cases hjob

/-- An entry that is recorded is that of a new owner. -/
theorem Tracks.record (h : Tracks R known owners jobs) (hk : known i = none) {j : Job}
    (hr : R j job) : Tracks R (Function.update known i (some job)) (owners ++ [i]) (jobs ++ [j]) :=
  List.rel_append (h.update_of_not_mem (h.not_mem_owners hk)) (.cons ⟨job, by simp, hr⟩ .nil)

/-- The owner of an entry learns what it is changed to. -/
theorem Tracks.change (h : Tracks R known owners jobs) (hn : owners.Nodup) {id : String}
    {p : JobPatch} (hk : known i = some job) (hid : job.executionId = some id)
    (hunique : ∀ i' job', known i' = some job' → job'.executionId = some id → i' = i)
    (hR : ∀ j job, R j job → j.executionId = job.executionId)
    (hp : ∀ j, R j job → R (p.apply j) (p.apply job)) :
    Tracks R (Function.update known i (some (p.apply job))) owners (editJob id p jobs) := by
  induction h with
  | nil => exact .nil
  | @cons i₀ j₀ owners jobs hj₀ hrest ih =>
    rw [List.nodup_cons] at hn
    obtain ⟨job₀, hk₀, hr₀⟩ := hj₀
    rw [Store.editJob_cons]
    split
    · next hid₀ =>
      obtain rfl : i₀ = i := hunique i₀ job₀ hk₀ ((hR _ _ hr₀).symm.trans hid₀)
      obtain rfl : job₀ = job := Option.some.inj (hk₀.symm.trans hk)
      exact .cons ⟨_, by simp, hp _ hr₀⟩ (update_of_not_mem hrest hn.1)
    · next hid₀ =>
      have hne : i₀ ≠ i := by
        rintro rfl
        obtain rfl : job₀ = job := Option.some.inj (hk₀.symm.trans hk)
        exact hid₀ ((hR _ _ hr₀).trans hid)
      exact .cons ⟨job₀, by simp [hne, hk₀], hr₀⟩ (ih hn.2)

/-- The owner of an entry learns something that does not show in the entry. -/
theorem Tracks.learn (h : Tracks R known owners jobs) (hk : known i = some job) {job' : Job}
    (hown : ∀ j, R j job → R j job') :
    Tracks R (Function.update known i (some job')) owners jobs := by
  refine List.Forall₂.imp (fun i₀ j ⟨job₀, hk₀, hr⟩ => ?_) h
  by_cases hi : i₀ = i
  · subst hi
    obtain rfl : job₀ = job := Option.some.inj (hk₀.symm.trans hk)
    exact ⟨job', Function.update_self .., hown j hr⟩
  · exact ⟨job₀, by rw [Function.update_of_ne hi, hk₀], hr⟩

/-- **Entries stay related to what their owners take them to be**, unless two runs have units of one
identifier: it is enough that an entry is when it is recorded, that it goes on being when it is
changed, and that it does not matter when the store loses a change. -/
theorem Move.tracks (h : Move lost i k k' f) (hb : k.Balances a)
    (hR : ∀ j job, R j job → j.executionId = job.executionId) (hrefl : ∀ job, R job job)
    (hchange : ∀ job p, k.known i = some job → k'.known i = some (JobPatch.apply p job) →
      ∀ j, R j job → R (p.apply j) (p.apply job))
    (hmiss : lost → ∀ job p, k.known i = some job → k'.known i = some (JobPatch.apply p job) →
      ∀ j, R j job → R j (p.apply job))
    (htracks : k.Distinct → Tracks R k.known k.owners a.jobs) (hd : k'.Distinct) :
    Tracks R k'.known k'.owners (f a).jobs := by
  have hback := h.distinct hd
  have htracks := htracks hback
  cases h with
  | aside | follow => exact htracks
  | @record job hk => exact htracks.record hk (hrefl job)
  | lose _ hk => exact htracks.update_of_not_mem (hb.entries.not_mem_owners hk)
  | @change job id p hk hid =>
    refine htracks.change hb.nodup hk hid (fun i' job' hk' hid' => ?_) hR
      (hchange job p hk (Function.update_self ..))
    exact hback i' i job' job hk' hk (by simp [hid']) (hid'.trans hid.symm)
  | @miss job p hl hk => exact htracks.learn hk (hmiss hl job p hk (Function.update_self ..))

/-- No run records a second entry. -/
theorem Move.nodup_owners (h : Move lost i k k' f) (hn : k.owners.Nodup)
    (htracks : Tracks R k.known k.owners jobs) : k'.owners.Nodup := by
  cases h with
  | record hk =>
    show (k.owners ++ [i]).Nodup
    rw [← List.concat_eq_append]
    exact hn.concat (htracks.not_mem_owners hk)
  | aside | follow | lose | change | miss => exact hn

/-! ### Accounts stay balanced -/

/-- **The record and the account go on agreeing, whatever a run does** that has not ended. -/
theorem Move.balances (h : Move lost i k k' f)
    (hlive : ∀ job, k.known i = some job → job.status.isTerminal = false) (hb : k.Balances a) :
    k'.Balances (f a) := by
  have hlags := h.tracks hb (fun j job h => h.1.1) (fun job => ⟨⟨rfl, rfl⟩, id⟩)
    (fun job p _ _ j h => h.apply p)
    (fun _ job p hk _ j h => ⟨h.1, fun ht => absurd (h.2 ht) (by simp [hlive job hk])⟩) hb.lags
  have hnodup := h.nodup_owners hb.nodup hb.entries
  obtain ⟨htests, -, hentries, hyields, -⟩ := hb
  cases h with
  | aside => exact ⟨htests, hnodup, hentries, hyields, hlags⟩
  | follow runs =>
    refine ⟨?_, hnodup, hentries, hyields, hlags⟩
    simp [AnalysisPatch.apply, htests, Account.tests]
  | @record job hk hfresh =>
    refine ⟨htests, hnodup, hentries.record hk ⟨rfl, rfl⟩, ?_, hlags⟩
    refine List.pairwise_append.mpr ⟨hyields, List.pairwise_singleton _ _, fun j _ j' hj' => ?_⟩
    obtain rfl := List.mem_singleton.mp hj'
    exact fun hsome _ => hfresh hsome
  | @lose job _ hk =>
    exact ⟨htests, hnodup, hentries.update_of_not_mem (hentries.not_mem_owners hk), hyields, hlags⟩
  | @change job id p hk hid =>
    refine ⟨htests, hnodup, ?_, Job.pairwise_yields_editJob hyields, hlags⟩
    -- whosever entry was changed, it is still the entry of its unit
    have hlearn : Tracks Job.Matches (k.learn i (p.apply job)).known k.owners a.jobs :=
      hentries.learn hk fun j h => h
    refine forall₂_comp ?_ hlearn (Store.forall₂_editJob id p a.jobs)
    rintro i j j' ⟨job', hk', hm⟩ (rfl | ⟨-, rfl⟩) <;> exact ⟨job', hk', hm⟩
  | @miss job p _ hk => exact ⟨htests, hnodup, hentries.learn hk fun j h => h, hyields, hlags⟩

/-! ### Complete analyses -/

theorem Balances.owner_known (hb : k.Balances a) (hi : i ∈ k.owners) :
    ∃ job, k.known i = some job :=
  hb.entries.owner_known hi

theorem Balances.length_owners (hb : k.Balances a) : k.owners.length = a.jobs.length :=
  hb.entries.length_eq

/-- When an analysis is complete, every run has an entry, and there are exactly as many entries of
each name as tests. -/
theorem Balances.perm_of_isComplete (hb : k.Balances a) (hs : k.Sane) (hc : a.isComplete = true) :
    k.owners.Perm k.places ∧ a.pendingNames.Perm a.startedNames := by
  have howners : ∀ i ∈ k.owners, i ∈ k.places := fun i hi => hs.mem_places (hb.owner_known hi)
  have hsub : List.Subperm a.pendingNames a.startedNames :=
    List.subperm_ext_iff.mpr (Analysis.isComplete_iff.mp hc).1
  have hpending : a.pendingNames.length = k.places.length := by
    rw [Analysis.pendingNames, hb.tests, Account.tests, places]
    simp
  have hstarted : a.startedNames.length = k.owners.length := by
    rw [Analysis.startedNames, List.length_map, hb.length_owners]
  have hle : k.owners.length ≤ k.places.length := (hb.nodup.subperm howners).length_le
  have hge : k.places.length ≤ k.owners.length := by
    rw [← hpending, ← hstarted]
    exact hsub.length_le
  exact ⟨(hb.nodup.subperm howners).perm_of_length_le hge,
    hsub.perm_of_length_le (by omega)⟩

/-- The units of two runs do not have one identifier. -/
def Apart (known : Nat → Option Job) (i i' : Nat) : Prop :=
  ∀ job job', known i = some job → known i' = some job' → job.executionId ≠ none →
    job.executionId ≠ job'.executionId

theorem Apart.symm {i' : Nat} (h : Apart known i i') : Apart known i' i :=
  fun job' job hk' hk hsome he => h job job' hk hk' (he ▸ hsome) he.symm

/-- Two owners have units of one identifier only if the later entry is `created`. -/
theorem Tracks.pairwise_owners (h : Tracks Job.Matches known owners jobs)
    (hyields : jobs.Pairwise Job.Yields) (hterminal : ∀ j ∈ jobs, j.status.isTerminal = true) :
    owners.Pairwise (Apart known) := by
  induction h with
  | nil => exact .nil
  | @cons i j owners jobs hj hrest ih =>
    rw [List.pairwise_cons] at hyields
    refine .cons (fun i' hi' job job' hk hk' hsome he => ?_)
      (ih hyields.2 fun j hj => hterminal j (List.mem_cons_of_mem _ hj))
    obtain ⟨j', hj', job₁, hk₁, hm₁⟩ := exists_mem_of_forall₂ hrest.flip hi'
    obtain ⟨job₀, hk₀, hm₀⟩ := hj
    obtain rfl : job₀ = job := Option.some.inj (hk₀.symm.trans hk)
    obtain rfl : job₁ = job' := Option.some.inj (hk₁.symm.trans hk')
    have hcreated : j'.status = .created :=
      hyields.1 j' hj' (by rw [hm₁.1, ← he]; exact hsome) (by rw [hm₀.1, hm₁.1, he])
    have hended := hterminal j' (List.mem_cons_of_mem _ hj')
    rw [hcreated] at hended
    cases hended

theorem Balances.distinct_of_isComplete (hb : k.Balances a) (hs : k.Sane)
    (hc : a.isComplete = true) : k.Distinct := by
  have hperm := (hb.perm_of_isComplete hs hc).1
  have hterminal := (Analysis.isComplete_iff.mp hc).2
  have hsymm : Std.Symm (Apart k.known) := ⟨fun _ _ h => h.symm⟩
  have hapart := (hb.entries.pairwise_owners hb.yields hterminal).forall
  intro i i' job job' hk hk' hsome he
  by_contra hne
  have hi := hperm.mem_iff.mpr (hs.mem_places ⟨job, hk⟩)
  have hi' := hperm.mem_iff.mpr (hs.mem_places ⟨job', hk'⟩)
  exact hapart hi hi' hne job job' hk hk' hsome he

/-- **When an analysis is complete, all its runs have ended.** -/
theorem Balances.ended_of_isComplete (hb : k.Balances a) (hs : k.Sane) (hc : a.isComplete = true)
    (hi : i ∈ k.places) : ∃ job, k.known i = some job ∧ job.status.isTerminal = true := by
  have hd := hb.distinct_of_isComplete hs hc
  have hi := (hb.perm_of_isComplete hs hc).1.mem_iff.mpr hi
  obtain ⟨j, hj, job, hk, -, hlags⟩ := exists_mem_of_forall₂ (hb.lags hd).flip hi
  exact ⟨job, hk, hlags ((Analysis.isComplete_iff.mp hc).2 j hj)⟩

end Account
end Service
end ScanService
