import ReviewStream.Proofs.Pool.Accounting

/-!
# Who runs a job

Some facts need the identity of the workers after all: a worker that runs a job goes on with it
until its job is over, whatever happens to the others.

* `Pool.Runs`: a worker runs a job.
* **`Pool.Runs.step`**: nothing but its own end interrupts a job.
* `Outline.Step.open_spec`: what a section does to a pool that nobody shuts down.
-/

namespace ReviewStream

variable {J : Type}

namespace Worker

lemma wake_of_isRunning {w : Worker J} (h : w.isRunning = true) : w.wake = w := by
  obtain ⟨id, phase⟩ := w
  cases phase <;> first | rfl | cases h

lemma mem_wakeFirst {w : Worker J} (hrunning : w.isRunning = true) :
    ∀ {ws : List (Worker J)}, w ∈ ws → w ∈ wakeFirst ws
  | [], hw => hw
  | v :: ws, hw => by
      rw [wakeFirst]
      rcases List.mem_cons.mp hw with rfl | hw
      · split_ifs
        · rw [wake_of_isRunning hrunning]
          exact List.mem_cons_self
        · exact List.mem_cons_self
      · split_ifs
        · exact List.mem_cons_of_mem _ hw
        · exact List.mem_cons_of_mem _ (mem_wakeFirst hrunning hw)

end Worker

namespace Pool

variable {p q : Pool J} {id v : Nat} {w : Worker J}

/-- A worker runs a job. -/
def Runs (p : Pool J) (id : Nat) : Prop := ∃ job, (⟨id, .running job⟩ : Worker J) ∈ p.workers

lemma Runs.mem_ids (h : p.Runs v) : v ∈ p.ids := by
  obtain ⟨job, hjob⟩ := h
  exact List.mem_map_of_mem hjob

/-- A worker that does not run a job is none of those that do. -/
lemma Runs.ne_of_worker? (h : p.Runs v) (hp : p.Numbered) (hw : p.worker? id = some w)
    (hidle : w.isRunning = false) : v ≠ id := by
  rintro rfl
  obtain ⟨job, hjob⟩ := h
  rcases List.mem_cons.mp ((workers_perm hp hw).mem_iff.mp hjob) with rfl | hothers
  · cases hidle
  · simp [dismiss] at hothers

/-! ## Operations on the workers -/

lemma Runs.spawn (h : p.Runs v) : p.spawn.Runs v := by
  obtain ⟨job, hjob⟩ := h
  exact ⟨job, List.mem_append_left _ hjob⟩

lemma Runs.spawnUpTo : ∀ (n : Nat) {p : Pool J}, p.Runs v → (spawnUpTo n p).Runs v
  | 0, _, h => h
  | n + 1, p, h => by
      rw [Pool.spawnUpTo]
      split_ifs
      · exact Runs.spawnUpTo n h.spawn
      · exact h

lemma Runs.wakeAll (h : p.Runs v) : p.wakeAll.Runs v := by
  obtain ⟨job, hjob⟩ := h
  exact ⟨job, List.mem_map.mpr ⟨_, hjob, rfl⟩⟩

lemma Runs.wakeOne (h : p.Runs v) : p.wakeOne.Runs v := by
  obtain ⟨job, hjob⟩ := h
  exact ⟨job, Worker.mem_wakeFirst rfl hjob⟩

lemma Runs.setPhase (h : p.Runs v) (hne : v ≠ id) (phase : Phase J) :
    (p.setPhase id phase).Runs v := by
  obtain ⟨job, hjob⟩ := h
  exact ⟨job, List.mem_map.mpr ⟨_, hjob, if_neg hne⟩⟩

lemma Runs.dismiss (h : p.Runs v) (hne : v ≠ id) : (p.dismiss id).Runs v := by
  obtain ⟨job, hjob⟩ := h
  exact ⟨job, List.mem_filter.mpr ⟨hjob, by simpa using hne⟩⟩

lemma Runs.park (h : p.Runs v) (hne : v ≠ id) : (p.park id).Runs v := by
  obtain ⟨job, hjob⟩ := h.dismiss hne
  exact ⟨job, List.mem_append_left _ hjob⟩

lemma Runs.advance (h : p.Runs v) (hne : v ≠ id) : (p.advance id).1.Runs v := by
  rw [Pool.advance]
  split
  · exact h.dismiss hne
  next job rest _ =>
    have hrest : Runs { p with queue := rest } v := h
    exact hrest.setPhase hne (.running job)
  · exact h.park hne

/-- A worker that takes a job runs it. -/
lemma runs_of_advance {job : J} (hid : id ∈ p.ids)
    (h : .started v job ∈ (p.advance id).2) : v = id ∧ (p.advance id).1.Runs id := by
  rw [Pool.advance] at h ⊢
  split at h
  · exact absurd h List.not_mem_nil
  next job' rest _ =>
    obtain ⟨rfl, rfl⟩ : v = id ∧ job = job' := by simpa using h
    obtain ⟨w, hw, hwid⟩ := List.mem_map.mp hid
    exact ⟨rfl, job, List.mem_map.mpr ⟨w, hw, by simp [hwid]⟩⟩
  · exact absurd h List.not_mem_nil

/-! ## Sections -/

lemma Runs.submit {job : J} (h : p.Runs v) (hq : p.submit job = .ok q) : q.Runs v := by
  have hqueue : Runs { p with queue := p.queue ++ [job] } v := h
  rw [Pool.submit] at hq
  split_ifs at hq
  dsimp only at hq
  split_ifs at hq <;> cases hq
  · exact hqueue.spawn
  · exact hqueue.wakeOne

lemma Runs.setCore {core : Nat} (h : p.Runs v) (hq : p.setCore core = .ok q) : q.Runs v := by
  have hcore : Runs { p with core } v := h
  rw [Pool.setCore] at hq
  split_ifs at hq <;> cases hq
  · exact hcore.spawnUpTo _
  · exact hcore.wakeAll
  · exact hcore

lemma Runs.setMax {max : Nat} (h : p.Runs v) (hq : p.setMax max = .ok q) : q.Runs v := by
  have hmax : Runs { p with max } v := h
  rw [Pool.setMax] at hq
  split_ifs at hq
  dsimp only at hq
  split_ifs at hq <;> cases hq
  · exact hmax.wakeAll
  · exact hmax

lemma Runs.settled {accepted : List (Occurrence J)} {r : Except PoolError (Pool J)}
    (h : p.Runs v) (hr : ∀ s, r = .ok s → s.Runs v) : (p.settled accepted r).1.Runs v := by
  cases r with
  | ok s => exact hr s rfl
  | error e => exact h

/-- **Nothing but its own end interrupts a job.** -/
theorem Runs.step {a : Action J} {r : Pool J × List (Occurrence J)} (h : p.Runs v)
    (hp : p.Numbered) (hstep : p.step a = some r) (hgoes : ∀ ending, a ≠ .finish v ending) :
    r.1.Runs v := by
  cases a with
  | submit job =>
      obtain rfl := Option.some.inj hstep
      exact h.settled fun s hs => h.submit hs
  | setCore core =>
      obtain rfl := Option.some.inj hstep
      exact h.settled fun s hs => h.setCore hs
  | setMax max =>
      obtain rfl := Option.some.inj hstep
      exact h.settled fun s hs => h.setMax hs
  | setKeepAlive keepAlive =>
      obtain rfl := Option.some.inj hstep
      have hkeep : Runs { p with keepAlive } v := h
      rw [Pool.setKeepAlive]
      dsimp only
      split_ifs
      · exact hkeep.wakeAll
      · exact hkeep
  | shutdown =>
      obtain rfl := Option.some.inj hstep
      exact Runs.wakeAll (p := { p with stage := _ }) h
  | shutdownNow =>
      obtain rfl := Option.some.inj hstep
      exact Runs.wakeAll (p := { p with stage := .stopped, queue := [] }) h
  | expire id =>
      simp only [Pool.step] at hstep
      split at hstep <;> cases hstep
      next hw => exact h.setPhase (h.ne_of_worker? hp hw rfl) .expired
  | look id =>
      simp only [Pool.step] at hstep
      split at hstep
      next hw =>
        obtain rfl := Option.some.inj hstep
        exact h.advance (h.ne_of_worker? hp hw rfl)
      next hw =>
        have hne := h.ne_of_worker? hp hw rfl
        split_ifs at hstep <;> obtain rfl := Option.some.inj hstep
        · exact h.dismiss hne
        · exact h.advance hne
      next => cases hstep
  | finish id ending =>
      have hne : v ≠ id := fun hid => hgoes ending (by rw [hid])
      simp only [Pool.step] at hstep
      split at hstep <;> cases hstep
      exact (h.setPhase hne .waking).advance hne

/-- A worker that looks for a job does not run one. -/
lemma not_runs_of_look {r : Pool J × List (Occurrence J)} (hp : p.Numbered)
    (hstep : p.step (.look id) = some r) : ¬ p.Runs id := by
  intro h
  simp only [Pool.step] at hstep
  split at hstep
  next hw => exact h.ne_of_worker? hp hw rfl rfl
  next hw => exact h.ne_of_worker? hp hw rfl rfl
  next => cases hstep

/-- What has been started runs. -/
lemma runs_of_started {a : Action J} {r : Pool J × List (Occurrence J)} {job : J}
    (hstep : p.step a = some r) (h : .started v job ∈ r.2) : r.1.Runs v := by
  -- Only a worker that looks for a job finds one.
  have hadvance : ∀ {i : Nat} {p : Pool J}, i ∈ p.ids → .started v job ∈ (p.advance i).2 →
      (p.advance i).1.Runs v := by
    intro i p hi h
    obtain ⟨rfl, hruns⟩ := runs_of_advance hi h
    exact hruns
  have hsettled : ∀ {accepted : List (Occurrence J)} {result : Except PoolError (Pool J)},
      .started v job ∉ accepted → .started v job ∉ (p.settled accepted result).2 := by
    intro accepted result haccepted
    cases result with
    | ok q => exact haccepted
    | error e => simp [settled]
  cases a with
  | submit job' =>
      obtain rfl := Option.some.inj hstep
      exact absurd h (hsettled (by simp))
  | setCore core | setMax max =>
      obtain rfl := Option.some.inj hstep
      exact absurd h (hsettled (by simp))
  | setKeepAlive keepAlive | shutdown | shutdownNow =>
      obtain rfl := Option.some.inj hstep
      simp at h
  | expire i =>
      simp only [Pool.step] at hstep
      split at hstep <;> cases hstep
      exact absurd h List.not_mem_nil
  | look i =>
      simp only [Pool.step] at hstep
      split at hstep
      next hw =>
        obtain rfl := Option.some.inj hstep
        exact hadvance (mem_ids_of_worker? hw) h
      next hw =>
        split_ifs at hstep <;> obtain rfl := Option.some.inj hstep
        · exact absurd h List.not_mem_nil
        · exact hadvance (mem_ids_of_worker? hw) h
      next => cases hstep
  | finish i ending =>
      simp only [Pool.step] at hstep
      split at hstep <;> cases hstep
      next hw =>
        refine hadvance ?_ (by simpa using h)
        rw [ids_setPhase]
        exact mem_ids_of_worker? hw

/-- The job that a section is asked to queue. -/
def Action.submitted : Action J → List J
  | .submit job => [job]
  | _ => []

end Pool

/-! ## In outline -/

namespace Outline

open Pool

variable {a : Action J} {id : Nat} {o rest next : Outline J} {happened : List (Occurrence J)}

@[simp] lemma largest_plus (o : Outline J) (phase : Phase J) :
    (o.plus phase).largest = o.largest := by
  cases phase <;> rfl

/-- A worker that looks for a job stays or leaves, and nothing else changes. -/
lemma Advance.frame (h : Advance id rest next happened) :
    next.stage = rest.stage ∧ next.core = rest.core ∧ next.largest = rest.largest
      ∧ next.size ≤ rest.size + 1 := by
  cases h with
  | leave _ => exact ⟨rfl, rfl, rfl, Nat.le_succ _⟩
  | start _ _ _ =>
      refine ⟨stage_plus _ _, core_plus _ _, largest_plus _ _, Nat.le_of_eq ?_⟩
      rw [size_plus]
      rfl
  | park _ _ _ =>
      exact ⟨stage_plus _ _, core_plus _ _, largest_plus _ _, Nat.le_of_eq (size_plus _ _)⟩

/-- What a section starts is found by a worker that looks for a job, and by no other. -/
lemma Step.started_spec (h : o.Step a next happened) :
    (∀ v job, .started v job ∉ happened)
      ∨ (∃ id job, a = .look id ∧ happened = [.started id job])
      ∨ ∃ id old ending job,
        a = .finish id ending ∧ happened = [.finished id old ending, .started id job] := by
  cases h with
  | @look id _ _ _ _ hadvance =>
      cases hadvance with
      | @start job _ _ _ _ => exact .inr (.inl ⟨id, job, rfl, rfl⟩)
      | leave _ | park _ _ _ => exact .inl (by simp)
  | @finish id old ending _ _ _ _ hadvance =>
      cases hadvance with
      | @start job _ _ _ _ => exact .inr (.inr ⟨id, old, ending, job, rfl, rfl⟩)
      | leave _ | park _ _ _ => exact .inl (by simp)
  | _ => exact .inl (by simp)

/-- **What a section does to a pool that nobody shuts down**: it takes what it is asked to take, and
gives nothing back. -/
theorem Step.open_spec (h : o.Step a next happened) (hrun : o.stage = .running)
    (hshutdown : a ≠ .shutdown) (hshutdownNow : a ≠ .shutdownNow) :
    next.stage = .running ∧ acceptedJobs happened = a.submitted ∧ droppedJobs happened = [] := by
  cases h with
  | reject hstage => exact absurd hrun hstage
  | shutdown => exact absurd rfl hshutdown
  | shutdownNow => exact absurd rfl hshutdownNow
  | expire h =>
      subst h
      exact ⟨hrun, rfl, rfl⟩
  | retire _ _ hstage => exact ⟨hstage, rfl, rfl⟩
  | look h hadvance =>
      obtain ⟨haccepted, hdropped, -⟩ := hadvance.queue_eq
      rw [h, stage_plus] at hrun
      exact ⟨hadvance.frame.1.trans hrun, haccepted, hdropped⟩
  | finish h hadvance =>
      obtain ⟨haccepted, hdropped, -⟩ := hadvance.queue_eq
      rw [h, stage_plus] at hrun
      exact ⟨hadvance.frame.1.trans hrun, haccepted, hdropped⟩
  | _ => exact ⟨hrun, rfl, rfl⟩

lemma hire_size_le_largest (n : Nat) (hsize : o.size ≤ o.largest) :
    (o.hire n).size ≤ (o.hire n).largest ∧ o.largest ≤ (o.hire n).largest := by
  rw [size_hire, hire_largest]
  split_ifs <;> omega

/-- No pool has more workers than it is known to have had. -/
theorem Step.size_le_largest (h : o.Step a next happened) (hsize : o.size ≤ o.largest) :
    next.size ≤ next.largest ∧ o.largest ≤ next.largest := by
  cases h with
  | @submitHire job _ _ =>
      exact hire_size_le_largest (o := { o with queue := o.queue ++ [job] }) 1 hsize
  | @growCore core _ _ _ => exact hire_size_le_largest (o := { o with core }) _ hsize
  | submitWake _ _ _ => exact ⟨(size_wakeOne _).trans_le hsize, Nat.le_refl _⟩
  | shrinkCore _ _ | lowerMax _ _ _ | shortenKeepAlive _ | shutdown | shutdownNow =>
      exact ⟨(size_wakeAll _).trans_le hsize, Nat.le_refl _⟩
  | expire h =>
      subst h
      simpa using hsize
  | retire h _ _ =>
      subst h
      simp at hsize ⊢
      omega
  | look h hadvance | finish h hadvance =>
      obtain ⟨-, -, hlargest, hnext⟩ := hadvance.frame
      rw [h, size_plus, largest_plus] at hsize
      rw [h, largest_plus, hlargest]
      omega
  | _ => exact ⟨hsize, Nat.le_refl _⟩

/-- A second worker is started only in a pool whose core is larger than one. -/
theorem Step.largest_le_one (h : o.Step a next happened) (hcore : o.core ≤ 1)
    (hlargest : o.largest ≤ 1) (ha : ∀ core, a = .setCore core → core ≤ 1) :
    next.core ≤ 1 ∧ next.largest ≤ 1 := by
  cases h with
  | @submitHire job _ hsize =>
      have hnone : o.size = 0 := by omega
      have hqueued : ({ o with queue := o.queue ++ [job] } : Outline J).size = 0 := hnone
      refine ⟨hcore, ?_⟩
      rw [hire_largest, hqueued, if_neg Nat.one_ne_zero]
      exact Nat.max_le.mpr ⟨hlargest, Nat.le_refl 1⟩
  | @growCore core _ _ _ =>
      have hone := ha core rfl
      have hgrown : ({ o with core } : Outline J).size = o.size := rfl
      refine ⟨hone, ?_⟩
      rw [hire_largest, hgrown]
      split_ifs <;> simp only [Nat.max_le] <;> omega
  | @shrinkCore core _ _ | @keepCore core _ _ _ => exact ⟨ha core rfl, hlargest⟩
  | expire h =>
      subst h
      simpa using ⟨hcore, hlargest⟩
  | retire h _ _ =>
      subst h
      simpa using ⟨hcore, hlargest⟩
  | look h hadvance | finish h hadvance =>
      rw [h, core_plus] at hcore
      rw [h, largest_plus] at hlargest
      obtain ⟨-, hcore', hlargest', -⟩ := hadvance.frame
      exact ⟨hcore' ▸ hcore, hlargest' ▸ hlargest⟩
  | _ => exact ⟨hcore, hlargest⟩

end Outline

end ReviewStream
