import ReviewStream.Proofs.Pool.Running
import ReviewStream.Proofs.Pool.Wakeups

/-!
# How large a pool gets

The bounds of a pool may be moved while its workers come and go, and there may be more workers than
the bounds allow until the surplus ones look for a job.  What holds at every moment nevertheless
rests on two guards: a worker is started only below `core`, or when there is none, and a job is
started only where there are no more workers than `max`.

* `Pool.peakCore`: the highest core size over a run.
* `Pool.Sized`: the bounds that hold at every moment.
* **`Outline.Step.size_spec`**: a section that hires leaves no more workers than `core`, or one.
* **`Outline.Step.active_le_max`**: a section that starts a job leaves no more jobs running than
  `max`.
* **`Pool.active_le_max_of_started`**: all of this after any run, and after a shrink.
-/

namespace ReviewStream

variable {J : Type}

namespace Outline

open Pool

variable {id : Nat} {a : Action J} {o rest next : Outline J} {happened : List (Occurrence J)}

/-! ## What one section does to the sizes -/

/-- What a section that hires comes to. -/
lemma hire_spec {n bound : Nat} (hfits : n = 0 ∨ o.size + n ≤ Nat.max 1 bound) :
    (o.hire n).size ≤ o.size ∧ (o.hire n).largest = o.largest
      ∨ o.size < (o.hire n).size ∧ (o.hire n).size ≤ Nat.max 1 bound
        ∧ (o.hire n).largest = Max.max o.largest (o.hire n).size := by
  rw [size_hire, hire_largest]
  rcases hfits with rfl | hfits
  · exact .inl ⟨Nat.le_refl _, rfl⟩
  · by_cases hnone : n = 0
    · subst hnone
      exact .inl ⟨Nat.le_refl _, rfl⟩
    · rw [if_neg hnone]
      exact .inr ⟨by omega, hfits, rfl⟩

/-- **What a section does to the number of workers.**  It hires nobody, or it hires and leaves no
more workers than `core`, or one. -/
theorem Step.size_spec (h : o.Step a next happened) :
    next.size ≤ o.size ∧ next.largest = o.largest
      ∨ o.size < next.size ∧ next.size ≤ Nat.max 1 next.core
        ∧ next.largest = Max.max o.largest next.size := by
  cases h with
  | @submitHire job _ hsize =>
      refine hire_spec (o := { o with queue := o.queue ++ [job] }) (.inr ?_)
      change o.size + 1 ≤ Nat.max 1 o.core
      rcases hsize with hsize | hsize
      · exact Nat.le_trans hsize (Nat.le_max_right _ _)
      · rw [hsize]
        exact Nat.le_max_left _ _
  | @growCore core _ _ _ =>
      refine hire_spec (o := { o with core }) ?_
      change _ = 0 ∨ o.size + _ ≤ Nat.max 1 core
      rcases Nat.lt_or_ge o.size core with hroom | hfull
      · refine .inr (Nat.le_trans ?_ (Nat.le_max_right _ _))
        omega
      · exact .inl (by omega)
  | submitWake _ _ _ => exact .inl ⟨(size_wakeOne _).le, rfl⟩
  | shrinkCore _ _ | lowerMax _ _ _ | shortenKeepAlive _ | shutdown | shutdownNow =>
      exact .inl ⟨(size_wakeAll _).le, rfl⟩
  | expire h =>
      subst h
      exact .inl ⟨by rw [size_plus, size_plus], by rw [largest_plus, largest_plus]⟩
  | retire h _ _ =>
      subst h
      exact .inl ⟨by rw [size_plus]; exact Nat.le_succ _, (largest_plus _ _).symm⟩
  | look h hadvance | finish h hadvance =>
      obtain ⟨-, -, hlargest, hsize⟩ := hadvance.frame
      rw [h, size_plus, largest_plus]
      exact .inl ⟨hsize, hlargest⟩
  | _ => exact .inl ⟨Nat.le_refl _, rfl⟩

/-- No section makes the largest size greater than `core` allows. -/
lemma Step.largest_le (h : o.Step a next happened) {bound : Nat}
    (hlargest : o.largest ≤ Nat.max 1 bound) (hcore : next.core ≤ bound) :
    next.largest ≤ Nat.max 1 bound := by
  rcases h.size_spec with ⟨-, hsame⟩ | ⟨-, hsize, hnew⟩
  · exact hsame ▸ hlargest
  · have hwider : Nat.max 1 next.core ≤ Nat.max 1 bound :=
      Nat.max_le.mpr ⟨Nat.le_max_left _ _, Nat.le_trans hcore (Nat.le_max_right _ _)⟩
    rw [hnew]
    exact Nat.max_le.mpr ⟨hlargest, Nat.le_trans hsize hwider⟩

lemma Advance.active_le_max {v : Nat} {job : J} (h : Advance id rest next happened)
    (hstarted : .started v job ∈ happened) :
    next.running.card ≤ next.max ∧ next.max = rest.max := by
  cases h with
  | start _ hsize _ =>
      -- The worker that starts the job has a place, and with it all that run one.
      have hrunning : rest.running.card ≤ rest.size := by
        rw [size]
        omega
      refine ⟨?_, rfl⟩
      simp only [plus, Multiset.card_cons]
      omega
  | leave _ | park _ _ _ => simp at hstarted

/-- **A job is started only where it is not one too many.** -/
theorem Step.active_le_max {v : Nat} {job : J} (h : o.Step a next happened)
    (hstarted : .started v job ∈ happened) :
    next.running.card ≤ next.max ∧ next.max = o.max := by
  cases h with
  | look h hadvance =>
      rw [h, max_plus]
      exact hadvance.active_le_max hstarted
  | finish h hadvance =>
      rw [h, max_plus]
      exact hadvance.active_le_max (by simpa using hstarted)
  | _ => simp at hstarted

lemma Advance.max_eq (h : Advance id rest next happened) : next.max = rest.max := by
  cases h with
  | leave _ | start _ _ _ => rfl
  | park _ _ _ => exact max_plus _ _

/-- The upper bound is moved by those alone who set it. -/
lemma Step.max_le {bound : Nat} (h : o.Step a next happened) (hmax : o.max ≤ bound)
    (ha : ∀ max, a = .setMax max → max ≤ bound) : next.max ≤ bound := by
  cases h with
  | @lowerMax max _ _ _ | @keepMax max _ _ _ => exact ha max rfl
  | expire h =>
      subst h
      rwa [max_plus] at hmax ⊢
  | retire h _ _ =>
      subst h
      rwa [max_plus] at hmax
  | look h hadvance | finish h hadvance =>
      rw [h, max_plus] at hmax
      exact hadvance.max_eq ▸ hmax
  | _ => exact hmax

/-- A bound that is not refused holds. -/
lemma Step.max_eq {max : Nat} (h : o.Step (.setMax max) next []) : next.max = max := by
  cases h <;> rfl

end Outline

namespace Pool

variable {p q : Pool J} {a : Action J} {actions : List (Action J)} {id : Nat}
  {r : Pool J × List (Occurrence J)}

/-! ## Workers that are started -/

lemma nextId_spawnUpTo : ∀ (n : Nat) (p : Pool J),
    (spawnUpTo n p).nextId + p.size = p.nextId + (spawnUpTo n p).size
  | 0, _ => rfl
  | n + 1, p => by
      rw [spawnUpTo]
      split_ifs
      · have hspawn := nextId_spawnUpTo n p.spawn
        have hnext : p.spawn.nextId = p.nextId + 1 := rfl
        have hsize : p.spawn.size = p.size + 1 := by simp [spawn, size]
        omega
      · rfl

lemma nextId_advance (p : Pool J) (id : Nat) : (p.advance id).1.nextId = p.nextId := by
  rw [advance]
  split <;> rfl

lemma nextId_settled {accepted : List (Occurrence J)} {result : Except PoolError (Pool J)}
    (h : ∀ s, result = .ok s → s.nextId + p.size = p.nextId + s.size) :
    (p.settled accepted result).1.nextId + p.size
      = p.nextId + (p.settled accepted result).1.size := by
  cases result with
  | ok s => exact h s rfl
  | error e => rfl

lemma nextId_submit {job : J} (h : p.submit job = .ok q) :
    q.nextId + p.size = p.nextId + q.size := by
  rw [submit] at h
  split_ifs at h
  dsimp only at h
  split_ifs at h <;> cases h
  · simp only [spawn, size, List.length_append, List.length_singleton]
    omega
  · have hids := congrArg List.length (Worker.map_id_wakeFirst p.workers)
    rw [List.length_map, List.length_map] at hids
    exact congrArg (p.nextId + ·) hids.symm

lemma nextId_setCore {core : Nat} (h : p.setCore core = .ok q) :
    q.nextId + p.size = p.nextId + q.size := by
  rw [setCore] at h
  split_ifs at h <;> cases h
  · exact nextId_spawnUpTo _ { p with core }
  · simp [wakeAll, size]
  · rfl

lemma nextId_setMax {max : Nat} (h : p.setMax max = .ok q) :
    q.nextId + p.size = p.nextId + q.size := by
  rw [setMax] at h
  split_ifs at h
  dsimp only at h
  split_ifs at h <;> cases h
  · simp [wakeAll, size]
  · rfl

/-- A worker that is started is one worker more: no section lets one go and starts another. -/
lemma nextId_of_step (h : p.step a = some r) :
    r.1.nextId = p.nextId ∨ r.1.nextId + p.size = p.nextId + r.1.size := by
  cases a with
  | submit job =>
      obtain rfl := Option.some.inj h
      exact .inr (nextId_settled fun s hs => nextId_submit hs)
  | setCore core =>
      obtain rfl := Option.some.inj h
      exact .inr (nextId_settled fun s hs => nextId_setCore hs)
  | setMax max =>
      obtain rfl := Option.some.inj h
      exact .inr (nextId_settled fun s hs => nextId_setMax hs)
  | setKeepAlive keepAlive =>
      obtain rfl := Option.some.inj h
      rw [setKeepAlive]
      dsimp only
      split_ifs <;> exact .inl rfl
  | shutdown | shutdownNow =>
      obtain rfl := Option.some.inj h
      exact .inl rfl
  | expire id =>
      simp only [step] at h
      split at h <;> cases h
      exact .inl rfl
  | look id =>
      simp only [step] at h
      split at h
      · obtain rfl := Option.some.inj h
        exact .inl (nextId_advance p id)
      · split_ifs at h <;> obtain rfl := Option.some.inj h
        · exact .inl rfl
        · exact .inl (nextId_advance p id)
      · cases h
  | finish id ending =>
      simp only [step] at h
      split at h <;> cases h
      exact .inl (nextId_advance _ id)

/-- Whoever starts a worker leaves no more of them than `core`, or one. -/
lemma size_le_of_nextId_lt (hp : p.Numbered) (h : p.step a = some r)
    (hnew : p.nextId < r.1.nextId) : p.size < r.1.size ∧ r.1.size ≤ Nat.max 1 r.1.core := by
  have hgrown : p.size < r.1.size := by
    rcases nextId_of_step h with hsame | hcount
    · exact absurd hsame (Nat.ne_of_gt hnew)
    · omega
  have hsection := (outline_step hp h).size_spec
  simp only [size_outline, outline_core] at hsection
  rcases hsection with ⟨hle, -⟩ | ⟨-, hsize, -⟩
  · exact absurd hgrown (Nat.not_lt_of_le hle)
  · exact ⟨hgrown, hsize⟩

/-! ## Refusals -/

/-- A worker that looks for a job is never refused anything. -/
lemma refused_notMem_advance (p : Pool J) (id : Nat) (e : PoolError) :
    .refused e ∉ (p.advance id).2 := by
  rw [advance]
  split <;> simp

lemma settled_of_refused {accepted : List (Occurrence J)} {result : Except PoolError (Pool J)}
    {e : PoolError} (haccepted : .refused e ∉ accepted)
    (h : .refused e ∈ (p.settled accepted result).2) : (p.settled accepted result).1 = p := by
  cases result with
  | ok s => exact absurd h haccepted
  | error e => rfl

/-- **What is refused changes nothing.** -/
theorem eq_of_refused {e : PoolError} (h : p.step a = some r) (he : .refused e ∈ r.2) :
    r.1 = p := by
  cases a with
  | submit job =>
      obtain rfl := Option.some.inj h
      exact settled_of_refused (by simp) he
  | setCore core | setMax max =>
      obtain rfl := Option.some.inj h
      exact settled_of_refused (by simp) he
  | setKeepAlive keepAlive | shutdown | shutdownNow =>
      obtain rfl := Option.some.inj h
      simp at he
  | expire id =>
      simp only [step] at h
      split at h <;> cases h
      simp at he
  | look id =>
      simp only [step] at h
      split at h
      · obtain rfl := Option.some.inj h
        exact absurd he (refused_notMem_advance p id e)
      · split_ifs at h <;> obtain rfl := Option.some.inj h
        · simp at he
        · exact absurd he (refused_notMem_advance p id e)
      · cases h
  | finish id ending =>
      simp only [step] at h
      split at h <;> cases h
      exact absurd he (by simpa using refused_notMem_advance _ id e)

/-! ## Any run -/

/-- The highest core size that a pool has had by the end of a run. -/
def peakCore (p : Pool J) : List (Action J) → Nat
  | [] => p.core
  | a :: rest =>
    match p.step a with
    | some (q, _) => Nat.max p.core (q.peakCore rest)
    | none => p.core

lemma core_le_peakCore (p : Pool J) (actions : List (Action J)) :
    p.core ≤ p.peakCore actions := by
  cases actions with
  | nil => exact Nat.le_refl _
  | cons a rest =>
      rw [peakCore]
      split
      · exact Nat.le_max_left _ _
      · exact Nat.le_refl _

/-- There have never been more workers than the highest core size, or one. -/
lemma largest_le_of_run {bound : Nat} (hp : p.Numbered) (hlargest : p.largest ≤ Nat.max 1 bound)
    (hpeak : p.peakCore actions ≤ bound) (h : p.run actions = some r) :
    r.1.largest ≤ Nat.max 1 bound := by
  induction actions generalizing p r with
  | nil =>
      obtain rfl := Option.some.inj h
      exact hlargest
  | cons a rest ih =>
      obtain ⟨q, now, later, hfirst, hlast, -⟩ := isRun.exists_of_cons h
      rw [peakCore, hfirst] at hpeak
      have hrest : q.peakCore rest ≤ bound := Nat.le_trans (Nat.le_max_right _ _) hpeak
      have hcore : q.core ≤ bound := Nat.le_trans (core_le_peakCore _ _) hrest
      have hnext := (outline_step hp hfirst).largest_le hlargest hcore
      exact ih (r := (r.1, later)) (hp.step hfirst) hnext hrest hlast

/-- Runs keep the largest size above the number of workers, and never lower it. -/
lemma largest_of_run (hp : p.Numbered) (hsize : p.size ≤ p.largest)
    (h : p.run actions = some r) : r.1.size ≤ r.1.largest ∧ p.largest ≤ r.1.largest := by
  have hkept := isRun.invariant
    (I := fun q => q.Numbered ∧ q.size ≤ q.largest ∧ p.largest ≤ q.largest)
    (fun q a r now _ hq hstep => by
      obtain ⟨hnumbered, hsize, hlargest⟩ := hq
      have hsection := (outline_step hnumbered hstep).size_le_largest (by simpa using hsize)
      rw [size_outline] at hsection
      exact ⟨hnumbered.step hstep, hsection.1, Nat.le_trans hlargest hsection.2⟩)
    ⟨hp, hsize, Nat.le_refl _⟩ h
  exact hkept.2

/-- The bounds that hold at every moment, `peak` being the highest core size so far. -/
structure Sized (p : Pool J) (peak : Nat) : Prop where
  max_pos : 0 < p.max
  core_le_max : p.core ≤ p.max
  active_le_size : p.active ≤ p.size
  size_le_largest : p.size ≤ p.largest
  largest_le_peak : p.largest ≤ Nat.max 1 peak

/-- Every run keeps the bounds. -/
lemma sized_of_run {size keepAlive : Nat}
    (h : (ofSize size keepAlive).run actions = some r) :
    r.1.Sized ((ofSize size keepAlive : Pool J).peakCore actions) := by
  have hp : (ofSize size keepAlive : Pool J).Numbered := numbered_ofSize size keepAlive
  obtain ⟨-, hsupplied⟩ := supplied_of_run hp (supplied_ofSize size keepAlive) h
  constructor
  case max_pos => exact hsupplied.max_pos
  case core_le_max => exact hsupplied.core_le_max
  case active_le_size => exact List.countP_le_length
  case size_le_largest => exact (largest_of_run hp (Nat.le_refl 1) h).1
  case largest_le_peak =>
    exact largest_le_of_run hp (Nat.le_max_left 1 _) (Nat.le_refl _) h

/-- A section that starts a job leaves no more jobs running than there may be workers. -/
lemma active_le_max_of_step {job : J} (hp : p.Numbered) (h : p.step a = some r)
    (hstarted : .started id job ∈ r.2) : r.1.active ≤ r.1.max ∧ r.1.max = p.max := by
  have hsection := (outline_step hp h).active_le_max hstarted
  rwa [outline_running, card_running] at hsection

/-- Nobody raises the upper bound but by setting it. -/
lemma max_le_of_run {bound : Nat} (hp : p.Numbered) (hmax : p.max ≤ bound)
    (hkept : ∀ max, .setMax max ∈ actions → max ≤ bound) (h : p.run actions = some r) :
    r.1.max ≤ bound := by
  have hlast := isRun.invariant (I := fun q => q.Numbered ∧ q.max ≤ bound)
    (fun q a r now ha hq hstep => ⟨hq.1.step hstep,
      (outline_step hq.1 hstep).max_le hq.2 fun max heq => hkept max (heq ▸ ha)⟩)
    ⟨hp, hmax⟩ h
  exact hlast.2

/-- **A pool keeps to its bounds.**  After any run, in which a resize counts as the sections that it
is made of:

* Both bounds are in order, no more jobs run than there are workers, and there have never been more
  workers than the highest core size so far, or one.
* The largest number of workers only grows, and whoever starts a worker leaves no more of them than
  the core size, or one.
* Whoever starts a job leaves no more jobs running than the upper bound that holds then.
* What is refused changes nothing.
* After a shrink no job is started that is more than the new bound, until the bound is raised. -/
theorem active_le_max_of_started {size keepAlive : Nat} {happened : List (Occurrence J)}
    (h : (ofSize size keepAlive).run actions = some (p, happened)) :
    p.Sized ((ofSize size keepAlive : Pool J).peakCore actions)
      ∧ (∀ later q more, p.run later = some (q, more) → p.largest ≤ q.largest)
      ∧ (∀ a q more, p.step a = some (q, more) →
          (p.nextId < q.nextId → q.size ≤ Nat.max 1 q.core)
            ∧ (∀ id job, .started id job ∈ more → q.active ≤ q.max ∧ q.max = p.max)
            ∧ ∀ e, .refused e ∈ more → q = p)
      ∧ ∀ max q, p.step (.setMax max) = some (q, []) →
          ∀ later r more, (∀ other, .setMax other ∈ later → other ≤ max) →
            q.run later = some (r, more) →
            ∀ a s last, r.step a = some (s, last) →
              ∀ id job, .started id job ∈ last → s.active ≤ max := by
  have hp : p.Numbered := (numbered_ofSize size keepAlive).run h
  have hsized := sized_of_run h
  refine ⟨hsized, fun later q more hlater => ?_, fun a q more hstep => ⟨fun hnew => ?_, ?_, ?_⟩,
    fun max q hset later r more hkept hlater a s last hstep id job hstarted => ?_⟩
  · exact (largest_of_run hp hsized.size_le_largest hlater).2
  · exact (size_le_of_nextId_lt hp hstep hnew).2
  · exact fun id job hstarted => active_le_max_of_step hp hstep hstarted
  · exact fun e he => eq_of_refused hstep he
  · have hq : q.Numbered := hp.step hset
    have hnew : q.max = max := (outline_step hp hset).max_eq
    have hmax : r.max ≤ max := max_le_of_run hq hnew.le hkept hlater
    obtain ⟨hactive, hsame⟩ := active_le_max_of_step (hq.run hlater) hstep hstarted
    calc s.active ≤ s.max := hactive
      _ = r.max := hsame
      _ ≤ max := hmax

/-- Two jobs are running when the pool shrinks to one worker: the first worker that is done leaves,
and the other one goes on to the next job.  Bounds that would cross are refused. -/
theorem active_le_max_of_started_after_shrink :
    let actions : List (Action Nat) :=
      [.submit 10, .look 1, .look 2, .submit 20, .submit 30, .setCore 3, .setCore 1]
    let p : Pool Nat :=
      { queue := [20, 30], core := 1, max := 2, keepAlive := 60000,
        workers := [⟨1, .running 10⟩, ⟨2, .waking⟩], largest := 2, nextId := 3, stage := .running }
    let later : List (Action Nat) := [.look 2]
    let r : Pool Nat := { p with max := 1, workers := [⟨1, .running 10⟩] }
    let s : Pool Nat :=
      { r with queue := [30], workers := [⟨1, .running 20⟩] }
    ∃ happened more,
      (ofSize 2 60000).run actions = some (p, happened)
        ∧ .refused (.invalidBounds 3 2) ∈ happened
        ∧ (ofSize 2 60000 : Pool Nat).peakCore actions = 2 ∧ p.Sized 2
        ∧ p.step (.setMax 1) = some ({ p with max := 1 }, [])
        ∧ Pool.run { p with max := 1 } later = some (r, more)
        ∧ r.step (.finish 1 .returned) = some (s, [.finished 1 10 .returned, .started 1 20])
        ∧ s.active ≤ 1 := by
  intro actions p later r s
  have hrun : (ofSize 2 60000).run actions
      = some (p, [.accepted 10, .started 1 10, .accepted 20, .accepted 30,
        .refused (.invalidBounds 3 2)]) := rfl
  have hset : p.step (.setMax 1) = some ({ p with max := 1 }, []) := rfl
  have hlater : Pool.run { p with max := 1 } later = some (r, []) := rfl
  have hfinish : r.step (.finish 1 .returned)
      = some (s, [.finished 1 10 .returned, .started 1 20]) := rfl
  obtain ⟨hsized, -, -, hshrink⟩ := active_le_max_of_started hrun
  refine ⟨_, _, hrun, by simp, rfl, hsized, hset, hlater, hfinish, ?_⟩
  exact hshrink 1 _ hset later r _ (by simp [later]) hlater _ s _ hfinish 1 20 (by simp)

end Pool

end ReviewStream
