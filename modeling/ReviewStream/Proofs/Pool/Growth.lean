import ReviewStream.Proofs.Pool.Undisturbed

/-!
# How a pool grows

A pool hires when a job comes in and there are fewer workers than its core size, busy or not, and
when the core size is raised while jobs are waiting.  Workers leave only when they have been idle
for too long, when there are more of them than the maximum, or when the pool is shut down.  So as
long as none of this happens the number of workers follows from the number of jobs, and neither the
order in which the workers take turns nor what they find matters.

* `Pool.Awake`: nobody's keep-alive time has run out.
* `Pool.Growing`: a pool that nobody leaves.
* **`Pool.Growing.step`**: what a job that comes in and a turn of a worker do to its size.
* **`Pool.Growing.raise`**: what raising the core size does to it.
* **`Pool.size_eq_of_submits`**: the size after any run of jobs and turns, and after a resize.
-/

namespace ReviewStream

variable {J : Type}

/-! ## Nobody has been idle for too long -/

namespace Worker

lemma phase_wake_ne_expired {w : Worker J} (h : w.phase ≠ .expired) : w.wake.phase ≠ .expired := by
  obtain ⟨id, phase⟩ := w
  cases phase <;> first | exact h | nofun

lemma mem_or_exists_of_mem_wakeFirst {w : Worker J} :
    ∀ {ws : List (Worker J)}, w ∈ wakeFirst ws → w ∈ ws ∨ ∃ v ∈ ws, w = v.wake
  | [], hw => absurd hw List.not_mem_nil
  | v :: ws, hw => by
      rw [wakeFirst] at hw
      split_ifs at hw
      · rcases List.mem_cons.mp hw with rfl | hw
        · exact .inr ⟨v, List.mem_cons_self, rfl⟩
        · exact .inl (List.mem_cons_of_mem _ hw)
      · rcases List.mem_cons.mp hw with rfl | hw
        · exact .inl List.mem_cons_self
        · rcases mem_or_exists_of_mem_wakeFirst hw with hw | ⟨u, hu, rfl⟩
          · exact .inl (List.mem_cons_of_mem _ hw)
          · exact .inr ⟨u, List.mem_cons_of_mem _ hu, rfl⟩

end Worker

namespace Pool

variable {p q : Pool J} {id : Nat} {w : Worker J} {a : Action J} {actions : List (Action J)}
  {r : Pool J × List (Occurrence J)}

/-- Nobody's keep-alive time has run out. -/
def Awake (p : Pool J) : Prop := ∀ w ∈ p.workers, w.phase ≠ .expired

lemma Awake.spawn (h : p.Awake) : p.spawn.Awake := by
  intro w hw
  rcases List.mem_append.mp hw with hw | hw
  · exact h w hw
  · rw [List.mem_singleton.mp hw]
    nofun

lemma Awake.spawnUpTo : ∀ (n : Nat) {p : Pool J}, p.Awake → (spawnUpTo n p).Awake
  | 0, _, h => h
  | n + 1, p, h => by
      rw [Pool.spawnUpTo]
      split_ifs
      · exact Awake.spawnUpTo n h.spawn
      · exact h

lemma Awake.wakeAll (h : p.Awake) : p.wakeAll.Awake := by
  intro w hw
  obtain ⟨v, hv, rfl⟩ := List.mem_map.mp hw
  exact Worker.phase_wake_ne_expired (h v hv)

lemma Awake.wakeOne (h : p.Awake) : p.wakeOne.Awake := by
  intro w hw
  rcases Worker.mem_or_exists_of_mem_wakeFirst hw with hw | ⟨v, hv, rfl⟩
  · exact h w hw
  · exact Worker.phase_wake_ne_expired (h v hv)

lemma Awake.setPhase {phase : Phase J} (h : p.Awake) (id : Nat) (hphase : phase ≠ .expired) :
    (p.setPhase id phase).Awake := by
  intro w hw
  obtain ⟨v, hv, rfl⟩ := List.mem_map.mp hw
  split_ifs
  · exact hphase
  · exact h v hv

lemma Awake.dismiss (h : p.Awake) (id : Nat) : (p.dismiss id).Awake :=
  fun w hw => h w (List.mem_of_mem_filter hw)

lemma Awake.park (h : p.Awake) (id : Nat) : (p.park id).Awake := by
  intro w hw
  rcases List.mem_append.mp hw with hw | hw
  · exact h.dismiss id w hw
  · rw [List.mem_singleton.mp hw]
    nofun

lemma Awake.advance (h : p.Awake) (id : Nat) : (p.advance id).1.Awake := by
  rw [Pool.advance]
  split
  · exact h.dismiss id
  next job rest _ =>
    exact Awake.setPhase (p := { p with queue := rest }) h id (by simp)
  · exact h.park id

lemma Awake.settled {accepted : List (Occurrence J)} {result : Except PoolError (Pool J)}
    (h : p.Awake) (hresult : ∀ s, result = .ok s → s.Awake) :
    (p.settled accepted result).1.Awake := by
  cases result with
  | ok s => exact hresult s rfl
  | error e => exact h

lemma Awake.submit {job : J} (h : p.Awake) (hq : p.submit job = .ok q) : q.Awake := by
  have hqueue : Awake { p with queue := p.queue ++ [job] } := h
  rw [Pool.submit] at hq
  split_ifs at hq
  dsimp only at hq
  split_ifs at hq <;> cases hq
  · exact hqueue.spawn
  · exact hqueue.wakeOne

lemma Awake.setCore {core : Nat} (h : p.Awake) (hq : p.setCore core = .ok q) : q.Awake := by
  have hcore : Awake { p with core } := h
  rw [Pool.setCore] at hq
  split_ifs at hq <;> cases hq
  · exact hcore.spawnUpTo _
  · exact hcore.wakeAll
  · exact hcore

lemma Awake.setMax {max : Nat} (h : p.Awake) (hq : p.setMax max = .ok q) : q.Awake := by
  have hmax : Awake { p with max } := h
  rw [Pool.setMax] at hq
  split_ifs at hq
  dsimp only at hq
  split_ifs at hq <;> cases hq
  · exact hmax.wakeAll
  · exact hmax

/-- A worker that looks for a job has been woken or started, and so it takes what it finds. -/
lemma Awake.look (h : p.Awake) (hstep : p.step (.look id) = some r) :
    r = p.advance id ∧ ∃ w, p.worker? id = some w := by
  simp only [step] at hstep
  split at hstep
  next hw => exact ⟨(Option.some.inj hstep).symm, _, hw⟩
  next hw => exact absurd rfl (h _ (mem_of_worker? hw))
  next => cases hstep

/-- **Time runs out in no other section** than the one that is there for it. -/
theorem Awake.step (h : p.Awake) (hstep : p.step a = some r) (hexpire : ∀ id, a ≠ .expire id) :
    r.1.Awake := by
  cases a with
  | submit job =>
      obtain rfl := Option.some.inj hstep
      exact h.settled fun s hs => h.submit hs
  | setCore core =>
      obtain rfl := Option.some.inj hstep
      exact h.settled fun s hs => h.setCore hs
  | setMax max =>
      obtain rfl := Option.some.inj hstep
      exact h.settled fun s hs => h.setMax hs
  | setKeepAlive keepAlive =>
      obtain rfl := Option.some.inj hstep
      have hkeep : Awake { p with keepAlive } := h
      rw [Pool.setKeepAlive]
      dsimp only
      split_ifs
      · exact hkeep.wakeAll
      · exact hkeep
  | shutdown =>
      obtain rfl := Option.some.inj hstep
      exact Awake.wakeAll (p := { p with stage := _ }) h
  | shutdownNow =>
      obtain rfl := Option.some.inj hstep
      exact Awake.wakeAll (p := { p with stage := .stopped, queue := [] }) h
  | expire id => exact absurd rfl (hexpire id)
  | look id =>
      obtain ⟨rfl, -⟩ := h.look hstep
      exact h.advance id
  | finish id ending =>
      simp only [Pool.step] at hstep
      split at hstep <;> cases hstep
      have hwaking : (p.setPhase id .waking).Awake := h.setPhase id (by simp)
      exact hwaking.advance id

end Pool

/-! ## A pool that nobody leaves -/

namespace Outline

open Pool

variable {id : Nat} {rest next : Outline J} {happened : List (Occurrence J)}

/-- A worker for which there is room in a running pool stays. -/
lemma Advance.size_eq (h : Advance id rest next happened) (hrun : rest.stage = .running)
    (hroom : rest.size + 1 ≤ rest.max) : next.size = rest.size + 1 := by
  cases h with
  | leave hleave =>
      rcases hleave with hstop | hfull | ⟨-, hshut⟩
      · rw [hrun] at hstop
        cases hstop
      · omega
      · rw [hrun] at hshut
        cases hshut
  | start _ _ _ => exact size_plus _ _
  | park _ _ _ => exact size_plus _ _

end Outline

namespace Pool

variable {p q : Pool J} {id : Nat} {w : Worker J} {a : Action J} {actions : List (Action J)}
  {r : Pool J × List (Occurrence J)}

/-- A section in which nothing but jobs and turns of the workers happens: nobody's time runs out, no
bound is moved and nothing is shut down. -/
def Action.isPlain : Action J → Bool
  | .submit _ | .setKeepAlive _ | .look _ | .finish _ _ => true
  | .setCore _ | .setMax _ | .shutdown | .shutdownNow | .expire _ => false

/-- A running pool whose workers all have a place in its core, and from which none has left. -/
structure Growing (p : Pool J) : Prop where
  numbered : p.Numbered
  awake : p.Awake
  running : p.stage = .running
  size_pos : 0 < p.size
  size_le_core : p.size ≤ p.core
  core_le_max : p.core ≤ p.max
  largest_eq : p.largest = p.size

lemma growing_ofSize (size keepAlive : Nat) : (ofSize size keepAlive : Pool J).Growing where
  numbered := numbered_ofSize size keepAlive
  awake := Awake.spawn (fun _ hw => absurd hw List.not_mem_nil)
  running := rfl
  size_pos := Nat.one_pos
  size_le_core := Nat.le_max_right size 1
  core_le_max := Nat.le_refl _
  largest_eq := rfl

/-- A worker that looks for a job stays. -/
lemma Growing.advance (h : p.Growing) (hw : p.worker? id = some w) :
    (p.advance id).1.size = p.size ∧ (p.advance id).1.largest = p.largest := by
  have hadvance := outline_advance h.numbered hw
  have hsize : p.size = (p.dismiss id).outline.size + 1 := by
    rw [size_outline]
    exact size_eq_dismiss_succ h.numbered hw
  have hroom : (p.dismiss id).outline.size + 1 ≤ (p.dismiss id).outline.max :=
    hsize ▸ Nat.le_trans h.size_le_core h.core_le_max
  obtain ⟨-, -, hlargest, -⟩ := hadvance.frame
  have hstays := hadvance.size_eq h.running hroom
  rw [size_outline, ← hsize] at hstays
  exact ⟨hstays, hlargest⟩

/-- A worker whose job is over is one that looks for a job. -/
lemma Growing.setPhase_waking (h : p.Growing) (id : Nat) : (p.setPhase id .waking).Growing where
  numbered := h.numbered.setPhase id .waking
  awake := h.awake.setPhase id nofun
  running := h.running
  size_pos := by simpa [setPhase, size] using h.size_pos
  size_le_core := by simpa [setPhase, size] using h.size_le_core
  core_le_max := h.core_le_max
  largest_eq := by simpa [setPhase, size] using h.largest_eq

/-- The size after a section: a job brings a worker as long as the core has room. -/
lemma Growing.size_spec (h : p.Growing) (hplain : a.isPlain = true) (hstep : p.step a = some r) :
    r.1.size = min p.core (p.size + a.submitted.length) ∧ r.1.largest = r.1.size := by
  have hfull : p.size = min p.core (p.size + 0) := (Nat.min_eq_right h.size_le_core).symm
  have hsection := outline_step h.numbered hstep
  cases a with
  | setCore core | setMax max | shutdown | shutdownNow | expire id => cases hplain
  | submit job =>
      have hjob : (Action.submit job).submitted.length = 1 := rfl
      rw [hjob, ← size_outline r.1, ← outline_largest r.1]
      have hpos := h.size_pos
      have hcore := h.size_le_core
      have hlargest := h.largest_eq
      generalize hnext : r.1.outline = next at hsection
      generalize r.2 = happened at hsection
      cases hsection with
      | reject hstage => exact absurd h.running hstage
      | submitHire _ hsize =>
          rw [Outline.size_hire, Outline.hire_largest, if_neg Nat.one_ne_zero]
          have hqueued : ({ p.outline with queue := p.outline.queue ++ [job] } : Outline J).size
              = p.size := size_outline p
          rw [hqueued]
          rw [size_outline, outline_core] at hsize
          simp only [outline_largest]
          omega
      | submitWake _ hsize _ =>
          rw [Outline.size_wakeOne, Outline.wakeOne_largest]
          have hqueued : ({ p.outline with queue := p.outline.queue ++ [job] } : Outline J).size
              = p.size := size_outline p
          rw [hqueued]
          rw [size_outline, outline_core] at hsize
          simp only [outline_largest]
          omega
  | setKeepAlive keepAlive =>
      have hnone : (Action.setKeepAlive keepAlive : Action J).submitted.length = 0 := rfl
      have hsize : r.1.size = p.size ∧ r.1.largest = p.largest := by
        rw [← size_outline r.1, ← outline_largest r.1, ← size_outline p, ← outline_largest p]
        generalize r.1.outline = next at hsection
        generalize r.2 = happened at hsection
        cases hsection with
        | shortenKeepAlive _ => exact ⟨Outline.size_wakeAll _, rfl⟩
        | prolongKeepAlive _ => exact ⟨rfl, rfl⟩
      rw [hnone, hsize.1, hsize.2]
      exact ⟨hfull, h.largest_eq⟩
  | look id =>
      obtain ⟨rfl, w, hw⟩ := h.awake.look hstep
      obtain ⟨hsize, hlargest⟩ := h.advance hw
      rw [hsize, hlargest]
      exact ⟨hfull, h.largest_eq⟩
  | finish id ending =>
      simp only [Pool.step] at hstep
      split at hstep <;> cases hstep
      next i job hw =>
        have hwaking := h.setPhase_waking id
        obtain ⟨hsize, hlargest⟩ := hwaking.advance (worker?_setPhase hw .waking)
        have hsame : (p.setPhase id .waking).size = p.size := by simp [setPhase, size]
        dsimp only
        rw [hsize, hlargest, hsame]
        exact ⟨hfull, h.largest_eq⟩

/-- **Jobs and turns keep a pool growing**: every job brings a worker as long as the core has room,
and nobody leaves. -/
theorem Growing.step (h : p.Growing) (hplain : a.isPlain = true) (hstep : p.step a = some r) :
    r.1.Growing ∧ r.1.core = p.core ∧ r.1.max = p.max
      ∧ r.1.size = min p.core (p.size + a.submitted.length) := by
  have hbound : a.movesBound = false := by
    cases a <;> first | rfl | cases hplain
  have hexpire : ∀ id, a ≠ .expire id := by
    rintro id rfl
    cases hplain
  have hshutdown : a ≠ .shutdown := by
    rintro rfl
    cases hplain
  have hshutdownNow : a ≠ .shutdownNow := by
    rintro rfl
    cases hplain
  obtain ⟨hcore, hmax⟩ := bounds_of_step hbound hstep
  obtain ⟨hrunning, -⟩ :=
    (outline_step h.numbered hstep).open_spec h.running hshutdown hshutdownNow
  obtain ⟨hsize, hlargest⟩ := h.size_spec hplain hstep
  have hpos := h.size_pos
  have hroom := h.size_le_core
  refine ⟨?_, hcore, hmax, hsize⟩
  constructor
  case numbered => exact h.numbered.step hstep
  case awake => exact h.awake.step hstep hexpire
  case running => exact hrunning
  case size_pos => omega
  case size_le_core => omega
  case core_le_max =>
    rw [hcore, hmax]
    exact h.core_le_max
  case largest_eq => exact hlargest

/-- Runs of jobs and turns: the order of the sections does not matter. -/
lemma Growing.run (h : p.Growing) (hplain : ∀ a ∈ actions, a.isPlain = true)
    (hrun : p.run actions = some r) :
    r.1.Growing ∧ r.1.core = p.core ∧ r.1.max = p.max
      ∧ r.1.size = min p.core (p.size + (actions.flatMap (·.submitted)).length) := by
  induction actions generalizing p r with
  | nil =>
      obtain rfl := Option.some.inj hrun
      exact ⟨h, rfl, rfl, (Nat.min_eq_right h.size_le_core).symm⟩
  | cons a rest ih =>
      obtain ⟨q, now, later, hfirst, hlast, -⟩ := isRun.exists_of_cons hrun
      obtain ⟨hnext, hcore, hmax, hsize⟩ := h.step (hplain a List.mem_cons_self) hfirst
      obtain ⟨hend, hcore', hmax', hsize'⟩ :=
        ih (r := (r.1, later)) hnext (fun b hb => hplain b (List.mem_cons_of_mem _ hb)) hlast
      refine ⟨hend, hcore'.trans hcore, hmax'.trans hmax, ?_⟩
      rw [hsize', hcore, hsize, List.flatMap_cons, List.length_append]
      omega

/-! ## Raising the bounds -/

/-- Raising the maximum does nothing to the workers. -/
lemma Growing.setMax {max : Nat} (h : p.Growing) (hmax : p.core ≤ max) :
    ∃ q, p.step (.setMax max) = some (q, []) ∧ q.Growing ∧ q.core = p.core ∧ q.max = max
      ∧ q.size = p.size ∧ q.queue = p.queue := by
  have hpos := Nat.lt_of_lt_of_le h.size_pos (Nat.le_trans h.size_le_core hmax)
  obtain ⟨-, q, hstep, hqcore, hqmax⟩ | ⟨hlate, -⟩ := step_setMax (p := p) hpos
  · have hsection := outline_step h.numbered hstep
    have hkept : q.size = p.size ∧ q.queue = p.queue ∧ q.stage = p.stage
        ∧ q.largest = p.largest := by
      rw [← size_outline q, ← outline_queue q, ← outline_stage q, ← outline_largest q]
      dsimp only at hsection
      generalize q.outline = next at hsection
      cases hsection with
      | lowerMax _ _ _ => exact ⟨(Outline.size_wakeAll _).trans (size_outline p), rfl, rfl, rfl⟩
      | keepMax _ _ _ => exact ⟨size_outline p, rfl, rfl, rfl⟩
    obtain ⟨hsize, hqueue, hstage, hlargest⟩ := hkept
    refine ⟨q, hstep, ?_, hqcore, hqmax, hsize, hqueue⟩
    constructor
    case numbered => exact h.numbered.step hstep
    case awake => exact h.awake.step hstep nofun
    case running => exact hstage.trans h.running
    case size_pos => exact hsize ▸ h.size_pos
    case size_le_core =>
      rw [hsize, hqcore]
      exact h.size_le_core
    case core_le_max =>
      rw [hqcore, hqmax]
      exact hmax
    case largest_eq => rw [hlargest, hsize, h.largest_eq]
  · omega

/-- **Raising the core size** hires for the jobs that are waiting, one worker for each of them, up
to the difference. -/
theorem Growing.raise {core : Nat} (h : p.Growing) (hmore : p.core < core) (hmax : core ≤ p.max) :
    ∃ q, p.step (.setCore core) = some (q, []) ∧ q.Growing ∧ q.core = core ∧ q.max = p.max
      ∧ q.size = p.size + min (core - p.core) p.queue.length := by
  obtain ⟨-, q, hstep, hqcore, hqmax⟩ | ⟨hlate, -⟩ := step_setCore (p := p) core
  · have hsection := outline_step h.numbered hstep
    have hpos := h.size_pos
    have hroom := h.size_le_core
    have hgrown : q.size = p.size + min (core - p.core) p.queue.length ∧ q.stage = p.stage
        ∧ q.largest = q.size := by
      rw [← size_outline q, ← outline_stage q, ← outline_largest q]
      dsimp only at hsection
      generalize q.outline = next at hsection
      cases hsection with
      | growCore _ _ _ =>
          have hsame : ({ p.outline with core } : Outline J).size = p.size := size_outline p
          have hlargest := h.largest_eq
          rw [Outline.size_hire, Outline.hire_largest, hsame, size_outline]
          simp only [outline_queue, outline_core, outline_largest]
          refine ⟨by omega, rfl, ?_⟩
          split_ifs <;> omega
      | shrinkCore _ hless =>
          rw [outline_core] at hless
          omega
      | keepCore _ _ hkept =>
          rcases hkept with hkept | hkept
          · rw [outline_core] at hkept
            omega
          · exact absurd h.running hkept
    obtain ⟨hsize, hstage, hlargest⟩ := hgrown
    refine ⟨q, hstep, ?_, hqcore, hqmax, hsize⟩
    constructor
    case numbered => exact h.numbered.step hstep
    case awake => exact h.awake.step hstep nofun
    case running => exact hstage.trans h.running
    case size_pos => omega
    case size_le_core => omega
    case core_le_max => rwa [hqcore, hqmax]
    case largest_eq => exact hlargest
  · omega

/-- A resize of a growing pool to a larger size, between whose sections the workers take turns: it
hires for the jobs that are waiting when the core size is raised. -/
lemma Growing.resize_run {target : Nat} {before after : List (Action J)}
    {m r : Pool J × List (Occurrence J)} (h : p.Growing) (hmore : p.core < target)
    (hplain : ∀ a ∈ before ++ after, a.isPlain = true)
    (hquiet : ∀ a ∈ before ++ after, a.submitted = [])
    (hfirst : p.run (.setMax target :: before) = some m)
    (hlast : m.1.run (.setCore target :: after) = some r) :
    r.1.Growing ∧ r.1.size = p.size + min (target - p.core) m.1.queue.length := by
  have hnone {actions : List (Action J)} (hactions : ∀ a ∈ actions, a ∈ before ++ after) :
      (actions.flatMap (·.submitted)).length = 0 := by
    rw [List.flatMap_eq_nil_iff.mpr fun a ha => hquiet a (hactions a ha)]
    rfl
  obtain ⟨opened, now, turns, hopen, hturns, -⟩ := isRun.exists_of_cons hfirst
  obtain ⟨q, hstep, hq, hqcore, hqmax, hqsize, -⟩ := h.setMax hmore.le
  obtain ⟨rfl, -⟩ := Prod.mk.inj (Option.some.inj (hopen.symm.trans hstep))
  have hbefore : ∀ a ∈ before, a ∈ before ++ after := fun a ha => List.mem_append_left _ ha
  obtain ⟨hm, hmcore, hmmax, hmsize⟩ := hq.run (fun a ha => hplain a (hbefore a ha)) hturns
  dsimp only at hm hmcore hmmax hmsize
  rw [hnone hbefore, hqcore, hqsize, Nat.add_zero, Nat.min_eq_right h.size_le_core] at hmsize
  obtain ⟨raised, now, rest, hraise, hrest, -⟩ := isRun.exists_of_cons hlast
  have hmore' : m.1.core < target := by omega
  obtain ⟨s, hstep, hs, -, -, hssize⟩ := hm.raise hmore' (by omega)
  obtain ⟨rfl, -⟩ := Prod.mk.inj (Option.some.inj (hraise.symm.trans hstep))
  have hafter : ∀ a ∈ after, a ∈ before ++ after := fun a ha => List.mem_append_right _ ha
  obtain ⟨hr, -, -, hrsize⟩ := hs.run (fun a ha => hplain a (hafter a ha)) hrest
  rw [hnone hafter, Nat.add_zero, Nat.min_eq_right hs.size_le_core, hssize, hmsize, hmcore,
    hqcore] at hrsize
  exact ⟨hr, hrsize⟩

/-! ## Any schedule -/

/-- **Growth does not depend on the schedule.**  Jobs are submitted to a new pool, and its workers
look for jobs and are done with them, or hold them for ever, in any order; nobody is idle for too
long, no bound is moved and nothing is shut down.  Then every job has brought a worker until the
core was full: there is one more than there were jobs, but no more than the size of the pool, and
there have never been more.

If the pool is resized to a larger size then, while the workers go on, the resize raises the maximum
first and then the core size, and brings a worker for each job that is waiting at that moment, up to
the difference of the sizes. -/
theorem size_eq_of_submits {size keepAlive : Nat} {happened : List (Occurrence J)}
    (hplain : ∀ a ∈ actions, a.isPlain = true)
    (h : (ofSize size keepAlive).run actions = some (p, happened)) :
    let first := Nat.max size 1
    let jobs := (actions.flatMap (·.submitted)).length
    p.size = min first (jobs + 1) ∧ p.largest = min first (jobs + 1)
      ∧ ∀ target, first < target →
          (∃ q, p.resize target = (.ok (), q) ∧ q.largest = q.size
            ∧ q.size = min target (p.size + min (target - first) p.queue.length))
          ∧ resizePlan p.core (Nat.max target 1)
            = ([.setMax target, .setCore target] : List (Action J))
          ∧ ∀ before after m r earlier later,
              (∀ a ∈ before ++ after, a.isPlain = true) →
              (∀ a ∈ before ++ after, a.submitted = []) →
              p.run (.setMax target :: before) = some (m, earlier) →
              m.run (.setCore target :: after) = some (r, later) →
              r.largest = r.size
                ∧ r.size = min target (p.size + min (target - first) m.queue.length) := by
  intro first jobs
  have hnew : (ofSize size keepAlive : Pool J).Growing := growing_ofSize size keepAlive
  obtain ⟨hp, hcore, -, hsize⟩ := hnew.run hplain h
  replace hp : p.Growing := hp
  replace hcore : p.core = first := hcore
  replace hsize : p.size = min first (jobs + 1) := by
    rw [hsize, Nat.add_comm jobs 1]
    rfl
  have hfits : p.size ≤ first := hcore ▸ hp.size_le_core
  refine ⟨hsize, hp.largest_eq.trans hsize, fun target hmore => ?_⟩
  have hmore' : p.core < target := hcore ▸ hmore
  -- The resize never hires beyond the new core size.
  have hroom (waiting : Nat) : min target (p.size + min (target - first) waiting)
      = p.size + min (target - p.core) waiting := by
    rw [hcore]
    refine Nat.min_eq_right ?_
    calc p.size + min (target - first) waiting
        ≤ first + (target - first) := Nat.add_le_add hfits (Nat.min_le_left _ _)
      _ = target := Nat.add_sub_cancel' hmore.le
  have htarget : Nat.max target 1 = target := Nat.max_eq_left (Nat.one_le_of_lt hmore)
  have hplan : resizePlan p.core (Nat.max target 1)
      = ([.setMax target, .setCore target] : List (Action J)) := by
    rw [htarget, resizePlan, if_pos hmore']
  refine ⟨?_, hplan, fun before after m r earlier later hplain hquiet hfirst hlast => ?_⟩
  · obtain ⟨m, hsetMax, hm, hmcore, hmmax, hmsize, hmqueue⟩ := hp.setMax hmore'.le
    obtain ⟨q, hsetCore, hq, -, -, hqsize⟩ :=
      hm.raise (show m.core < target from hmcore ▸ hmore') hmmax.ge
    refine ⟨q, ?_, hq.largest_eq, ?_⟩
    · rw [resize, hplan, carryOut_cons hsetMax, carryOut_cons hsetCore, carryOut]
    · rw [hroom, hqsize, hmsize, hmcore, hmqueue]
  · obtain ⟨hr, hrsize⟩ := hp.resize_run hmore' hplain hquiet hfirst hlast
    exact ⟨hr.largest_eq, hrsize.trans (hroom _).symm⟩

/-- A job crashes, a worker parks and is woken, and two jobs wait in a pool of two workers.  The
pool is resized to four, and one of the jobs is taken before the core size is raised. -/
theorem size_eq_of_submits_with_crash :
    let actions : List (Action Nat) :=
      [.submit 10, .look 1, .submit 20, .look 2, .finish 1 .crashed, .submit 30, .submit 40]
    let before : List (Action Nat) := [.look 1]
    let after : List (Action Nat) := [.look 3]
    ∃ p m r happened earlier later, (∀ a ∈ actions, a.isPlain = true)
      ∧ (ofSize 2 60000).run actions = some (p, happened) ∧ p.size = 2 ∧ p.largest = 2
      ∧ p.run (.setMax 4 :: before) = some (m, earlier) ∧ m.queue = [40]
      ∧ m.run (.setCore 4 :: after) = some (r, later) ∧ r.size = 3 ∧ r.largest = 3 := by
  intro actions before after
  have hplain : ∀ a ∈ actions, a.isPlain = true := by decide
  obtain ⟨⟨p, happened⟩, hp⟩ : ∃ turn, (ofSize 2 60000).run actions = some turn := ⟨_, rfl⟩
  obtain ⟨hsize, hlargest, hraised⟩ := size_eq_of_submits hplain hp
  obtain ⟨⟨m, earlier⟩, hm, hqueue⟩ :
      ∃ turn, p.run (.setMax 4 :: before) = some turn ∧ turn.1.queue = [40] := by
    cases hp
    exact ⟨_, rfl, rfl⟩
  obtain ⟨⟨r, later⟩, hr⟩ : ∃ turn, m.run (.setCore 4 :: after) = some turn := by
    cases hp
    cases hm
    exact ⟨_, rfl⟩
  obtain ⟨-, -, hresized⟩ := hraised 4 (by decide)
  obtain ⟨hrlargest, hrsize⟩ :=
    hresized before after m r earlier later (by decide) (by decide) hm hr
  rw [hsize, hqueue] at hrsize
  exact ⟨p, m, r, happened, earlier, later, hplain, hp, hsize, hlargest, hm, hqueue, hr, hrsize,
    hrlargest.trans hrsize⟩

end Pool

end ReviewStream
