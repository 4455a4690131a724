import ReviewStream.Proofs.Pool.Sections

/-!
# No job is stranded

A job that is put into the queue starts a worker or wakes one, but the worker that has been woken
may find that there is no place for it any more, and a parked one may leave in the same moment.
What makes up for this is a count: as long as somebody is parked, there is for every job in the
queue a worker that is about to look for one.

* `Outline.Supplied`: the count, and the facts about bounds that it rests on.
* `Outline.Supplied.step`: every section keeps it.
* **`Pool.all_running_of_queue_ne_nil`**: a pool at rest has jobs in its queue only if every worker
  runs one.
-/

namespace ReviewStream

variable {J : Type}

namespace Outline

open Pool

variable {id : Nat} {a : Action J} {phase : Phase J} {o rest next : Outline J}
  {happened : List (Occurrence J)}

/-! ## Supplied pools -/

/-- The queue is looked after. -/
structure Supplied (o : Outline J) : Prop where
  max_pos : 0 < o.max
  core_le_max : o.core ≤ o.max
  queue_eq_nil : o.stage = .stopped → o.queue = []
  size_pos : o.queue ≠ [] → 0 < o.size
  /-- Nobody is parked while there are too many workers: who looks for a job then leaves. -/
  parked_eq_zero : o.max < o.size → o.parked = 0
  length_queue_le : 0 < o.parked → o.queue.length ≤ o.looking

/-- Once all have been woken, nobody is parked who could miss a job. -/
lemma supplied_wakeAll (hmax : 0 < o.max) (hcore : o.core ≤ o.max)
    (hqueue : o.stage = .stopped → o.queue = []) (hsize : o.queue ≠ [] → 0 < o.size) :
    o.wakeAll.Supplied where
  max_pos := hmax
  core_le_max := hcore
  queue_eq_nil := hqueue
  size_pos := by simpa using hsize
  parked_eq_zero := fun _ => rfl
  length_queue_le := fun h => absurd h (Nat.lt_irrefl 0)

/-- A worker that turns to looking for a job supplies the queue with one more, whatever the worker
was at before. -/
lemma Supplied.plus_waking (h : (rest.plus phase).Supplied) : (rest.plus .waking).Supplied where
  max_pos := by simpa using h.max_pos
  core_le_max := by simpa using h.core_le_max
  queue_eq_nil := by simpa using h.queue_eq_nil
  size_pos := by simp
  parked_eq_zero := by
    have hparked := h.parked_eq_zero
    simp only [max_plus, size_plus] at hparked ⊢
    intro hsize
    cases phase with
    | parked => exact absurd (hparked hsize) (Nat.succ_ne_zero _)
    | _ => exact hparked hsize
  length_queue_le := by
    have hlooking := h.length_queue_le
    simp only [queue_plus] at hlooking ⊢
    intro hpos
    cases phase with
    | parked => exact Nat.le_succ_of_le (hlooking (Nat.succ_pos _))
    | running job => exact Nat.le_succ_of_le (hlooking hpos)
    | _ => exact hlooking hpos

/-- A worker may leave if there is nothing to do, and also if there is no place for it: then nobody
is parked who would have to be woken in its stead. -/
lemma Supplied.of_plus_waking (h : (rest.plus .waking).Supplied)
    (hidle : rest.max < rest.size + 1 ∨ rest.queue = []) : rest.Supplied where
  max_pos := by simpa using h.max_pos
  core_le_max := by simpa using h.core_le_max
  queue_eq_nil := by simpa using h.queue_eq_nil
  size_pos := by
    have hmax := h.max_pos
    rw [max_plus] at hmax
    intro hne
    have hfull := hidle.resolve_right hne
    omega
  parked_eq_zero := by
    have hparked := h.parked_eq_zero
    rw [max_plus, size_plus] at hparked
    intro hsize
    exact hparked (Nat.lt_succ_of_lt hsize)
  length_queue_le := by
    have hparked := h.parked_eq_zero
    rw [max_plus, size_plus] at hparked
    intro hpos
    rcases hidle with hfull | hnil
    · have hnone : rest.parked = 0 := hparked hfull
      exact absurd hpos (Nat.not_lt_of_le hnone.le)
    · simp [hnil]

/-- **A wake-up is not lost.**  A worker that looks for a job takes one, or it parks because there
is none, or it leaves because there is none or because nobody is parked in its place. -/
theorem Supplied.advance (h : (rest.plus .waking).Supplied)
    (hadvance : Advance id rest next happened) : next.Supplied := by
  have hmax := h.max_pos
  have hcore := h.core_le_max
  have hstop := h.queue_eq_nil
  have hlooking := h.length_queue_le
  simp only [max_plus, core_plus, queue_plus, stage_plus] at hmax hcore hstop hlooking
  cases hadvance with
  | leave hleave =>
      refine h.of_plus_waking ?_
      rcases hleave with hstopped | hfull | ⟨hnil, -⟩
      · exact .inr (hstop hstopped)
      · exact .inl hfull
      · exact .inr hnil
  | @start job queue hstage hsize hqueue =>
      refine ⟨hmax, hcore, fun hstopped => absurd hstopped hstage, ?_, ?_, fun hpos => ?_⟩
      · simp
      · simp only [max_plus, size_plus]
        intro hlt
        exact absurd hsize (Nat.not_le_of_lt hlt)
      · -- The job and the worker that starts it leave the count together.
        have hlength := hlooking hpos
        rw [hqueue] at hlength
        exact Nat.le_of_succ_le_succ hlength
  | park hstage hsize hqueue =>
      refine ⟨hmax, hcore, hstop, ?_, fun hlt => ?_, fun _ => ?_⟩
      · simp
      · simp only [max_plus, size_plus] at hlt
        omega
      · simp [hqueue]

/-- A job may be queued for the workers that are there, if one that is parked is woken. -/
lemma Supplied.queueAndWake {job : J} (h : o.Supplied) (hstage : o.stage ≠ .stopped)
    (hsome : 0 < o.size) :
    ({ o with queue := o.queue ++ [job] } : Outline J).wakeOne.Supplied where
  max_pos := h.max_pos
  core_le_max := h.core_le_max
  queue_eq_nil := fun hstopped => absurd hstopped hstage
  size_pos := by
    intro _
    rw [size_wakeOne]
    exact hsome
  parked_eq_zero := by
    intro hlt
    rw [size_wakeOne] at hlt
    have hnone : o.parked = 0 := h.parked_eq_zero hlt
    rw [wakeOne_parked, hnone]
  length_queue_le := by
    -- Somebody is still parked, so the new job has woken somebody else.
    intro hpos
    have hmore : 0 < o.parked - 1 := hpos
    have hlength := h.length_queue_le (by omega)
    have hwoken : min o.parked 1 = 1 := by omega
    rw [wakeOne_queue, wakeOne_looking, List.length_append, hwoken]
    exact Nat.add_le_add_right hlength 1

/-- Workers may be started up to a core size.  They stop there, so it is not they who make too
many. -/
lemma Supplied.hireUpTo {core n : Nat} (h : o.Supplied) (hfits : core ≤ o.max)
    (hn : n = 0 ∨ o.size + n ≤ core) : (({ o with core } : Outline J).hire n).Supplied where
  max_pos := h.max_pos
  core_le_max := hfits
  queue_eq_nil := h.queue_eq_nil
  size_pos := by
    intro hne
    rw [size_hire]
    exact Nat.lt_of_lt_of_le (h.size_pos hne) (Nat.le_add_right _ _)
  parked_eq_zero := by
    intro hlt
    rw [size_hire] at hlt
    change o.max < o.size + n at hlt
    exact h.parked_eq_zero (by omega)
  length_queue_le := by
    intro hpos
    exact Nat.le_trans (h.length_queue_le hpos) (Nat.le_add_right _ _)

/-- **Every section keeps the queue supplied.** -/
theorem Supplied.step (h : o.Supplied) (hstep : o.Step a next happened) : next.Supplied := by
  have ⟨hmax, hcore, hstop, hsize, hparked, hlooking⟩ := h
  cases hstep with
  | reject _ => exact h
  | refuseCore _ => exact h
  | refuseMax _ => exact h
  | submitHire hrun hnew =>
      refine ⟨hmax, hcore, fun hstopped => ?_, fun _ => ?_, fun hlt => ?_, fun hpos => ?_⟩
      · exact absurd (hrun.symm.trans hstopped) nofun
      · rw [size_hire]
        exact Nat.succ_pos _
      · rw [size_hire] at hlt
        have hroom : o.size < o.max := by omega
        exact absurd hlt (Nat.not_lt_of_le hroom)
      · have hlength := hlooking hpos
        rw [hire_queue, hire_looking, List.length_append]
        exact Nat.add_le_add_right hlength 1
  | submitWake hrun hold hsome =>
      exact h.queueAndWake (fun hstopped => nomatch hrun.symm.trans hstopped) hsome
  | growCore hfits _ _ => exact h.hireUpTo hfits (by omega)
  | shrinkCore hfits _ => exact supplied_wakeAll hmax hfits hstop hsize
  | keepCore hfits _ _ => exact ⟨hmax, hfits, hstop, hsize, hparked, hlooking⟩
  | lowerMax hpos hfits _ => exact supplied_wakeAll hpos hfits hstop hsize
  | keepMax hpos hfits hroom =>
      exact ⟨hpos, hfits, hstop, hsize, fun hlt => absurd hroom (Nat.not_le_of_lt hlt), hlooking⟩
  | shortenKeepAlive _ => exact supplied_wakeAll hmax hcore hstop hsize
  | prolongKeepAlive _ => exact ⟨hmax, hcore, hstop, hsize, hparked, hlooking⟩
  | shutdown =>
      refine supplied_wakeAll hmax hcore (fun hstopped => hstop ?_) hsize
      cases hstage : o.stage <;> simp_all
  | shutdownNow => exact supplied_wakeAll hmax hcore (fun _ => rfl) (fun hne => absurd rfl hne)
  | expire hrest =>
      subst hrest
      exact h.plus_waking
  | retire hrest hqueue hstage =>
      subst hrest
      exact h.plus_waking.of_plus_waking (.inr hqueue)
  | look hrest hadvance =>
      subst hrest
      exact h.advance hadvance
  | finish hrest hadvance =>
      subst hrest
      exact h.plus_waking.advance hadvance

/-! ## Workers that leave -/

/-- A worker that leaves takes no job along, and nobody waits in vain for it to hand on a
wake-up. -/
lemma Supplied.leave (h : (rest.plus .waking).Supplied) (hadvance : Advance id rest next happened)
    (hsize : next.size ≤ rest.size) :
    next.queue = rest.queue ∧ (next.queue = [] ∨ next.parked = 0) := by
  have hstop := h.queue_eq_nil
  have hparked := h.parked_eq_zero
  simp only [queue_plus, stage_plus, max_plus, size_plus] at hstop hparked
  cases hadvance with
  | leave hleave =>
      refine ⟨rfl, ?_⟩
      rcases hleave with hstopped | hfull | ⟨hnil, -⟩
      · exact .inl (hstop hstopped)
      · exact .inr (hparked hfull)
      · exact .inl hnil
  | start _ _ _ =>
      rw [size_plus] at hsize
      exact absurd hsize (Nat.not_succ_le_self _)
  | park _ _ _ =>
      rw [size_plus] at hsize
      exact absurd hsize (Nat.not_succ_le_self _)

/-- **A worker that leaves is not missed.** -/
theorem Supplied.of_size_lt (h : o.Supplied) (hstep : o.Step a next happened)
    (hsize : next.size < o.size) :
    next.queue = o.queue ∧ (next.queue = [] ∨ next.parked = 0) := by
  cases hstep with
  | retire hrest hqueue _ =>
      subst hrest
      exact ⟨rfl, .inl hqueue⟩
  | look hrest hadvance =>
      subst hrest
      rw [size_plus] at hsize
      exact h.leave hadvance (Nat.le_of_lt_succ hsize)
  | finish hrest hadvance =>
      subst hrest
      rw [size_plus] at hsize
      rw [queue_plus]
      exact h.plus_waking.leave hadvance (Nat.le_of_lt_succ hsize)
  | expire hrest =>
      subst hrest
      simp at hsize
  | submitHire | growCore =>
      rw [size_hire] at hsize
      exact absurd hsize (Nat.not_lt_of_le (Nat.le_add_right _ _))
  | submitWake =>
      rw [size_wakeOne] at hsize
      exact absurd hsize (Nat.lt_irrefl _)
  | shrinkCore | lowerMax | shortenKeepAlive | shutdown | shutdownNow =>
      rw [size_wakeAll] at hsize
      exact absurd hsize (Nat.lt_irrefl _)
  | _ => exact absurd hsize (Nat.lt_irrefl _)

end Outline

/-! ## Any run -/

namespace Pool

variable {p q : Pool J} {happened more : List (Occurrence J)}

/-- Every worker runs a job or is parked. -/
def AtRest (p : Pool J) : Prop := ∀ w ∈ p.workers, w.isRunning = true ∨ w.isParked = true

lemma supplied_ofSize (size keepAlive : Nat) :
    (ofSize size keepAlive : Pool J).outline.Supplied where
  max_pos := Nat.le_max_right size 1
  core_le_max := Nat.le_refl _
  queue_eq_nil := fun _ => rfl
  size_pos := fun hne => absurd rfl hne
  parked_eq_zero := fun _ => rfl
  length_queue_le := fun _ => Nat.zero_le _

/-- Every run keeps the queue supplied. -/
lemma supplied_of_run {actions : List (Action J)} {r : Pool J × List (Occurrence J)}
    (hp : p.Numbered) (hsupplied : p.outline.Supplied) (h : p.run actions = some r) :
    r.1.Numbered ∧ r.1.outline.Supplied :=
  isRun.invariant (I := fun p => p.Numbered ∧ p.outline.Supplied)
    (fun _ _ _ _ _ hp hstep => ⟨hp.1.step hstep, hp.2.step (outline_step hp.1 hstep)⟩)
    ⟨hp, hsupplied⟩ h

/-- At rest nobody looks for a job. -/
lemma AtRest.looking_eq_zero (h : p.AtRest) : p.looking = 0 := by
  refine List.countP_eq_zero.mpr fun w hw hlooking => ?_
  have hrest := h w hw
  obtain ⟨id, phase⟩ := w
  cases phase <;> simp_all [Worker.isRunning, Worker.isParked, Worker.isLooking]

/-- **No job is stranded.**  After any run of a pool, jobs are queued only if there is a worker, and
as long as one is parked, at least as many workers as there are jobs in the queue are about to look
for one.  So at rest jobs are queued only if every worker runs one.  And a worker that leaves, at
the end of its time or because there are too many, leaves no job behind that a parked worker ought
to have been woken for. -/
theorem all_running_of_queue_ne_nil {size keepAlive : Nat} {actions : List (Action J)}
    {p : Pool J} {happened : List (Occurrence J)}
    (h : (ofSize size keepAlive).run actions = some (p, happened)) :
    (p.queue ≠ [] → 0 < p.size)
      ∧ (0 < p.parked → p.queue.length ≤ p.looking)
      ∧ (p.AtRest → p.queue ≠ [] → ∀ w ∈ p.workers, w.isRunning = true)
      ∧ ∀ a q more, p.step a = some (q, more) → q.size < p.size →
          q.queue = p.queue ∧ (q.queue = [] ∨ q.parked = 0 ∧ 0 < q.size) := by
  obtain ⟨hp, hsupplied⟩ :=
    supplied_of_run (numbered_ofSize size keepAlive) (supplied_ofSize size keepAlive) h
  have hlength : 0 < p.parked → p.queue.length ≤ p.looking := hsupplied.length_queue_le
  refine ⟨by simpa using hsupplied.size_pos, hlength, fun hrest hne w hw => ?_,
    fun a q more hstep hsize => ?_⟩
  · refine (hrest w hw).resolve_right fun hparked => hne ?_
    have hpos : 0 < p.parked := List.countP_pos_iff.mpr ⟨w, hw, hparked⟩
    have hnone := hlength hpos
    rw [hrest.looking_eq_zero] at hnone
    exact List.eq_nil_of_length_eq_zero (Nat.le_zero.mp hnone)
  · have hout := outline_step hp hstep
    have hleft := hsupplied.of_size_lt hout (by simpa using hsize)
    have hsome : q.queue ≠ [] → 0 < q.size := by simpa using (hsupplied.step hout).size_pos
    refine ⟨hleft.1, hleft.2.elim .inl fun hnone => ?_⟩
    by_cases hnil : q.queue = []
    · exact .inl hnil
    · exact .inr ⟨hnone, hsome hnil⟩

/-- A worker that has just been woken leaves because the bounds have been lowered; the other one
runs a job, so both jobs in the queue are right to wait. -/
theorem all_running_after_shrinking :
    let actions : List (Action Nat) :=
      [.submit 10, .look 1, .look 2, .submit 20, .submit 30, .setCore 1, .setMax 1]
    let happened : List (Occurrence Nat) :=
      [.accepted 10, .started 1 10, .accepted 20, .accepted 30]
    let p : Pool Nat :=
      { queue := [20, 30], core := 1, max := 1, keepAlive := 60000,
        workers := [⟨1, .running 10⟩, ⟨2, .waking⟩], largest := 2, nextId := 3, stage := .running }
    let q : Pool Nat := { p with workers := [⟨1, .running 10⟩] }
    (ofSize 2 60000).run actions = some (p, happened)
      ∧ p.step (.look 2) = some (q, []) ∧ (q.queue = [] ∨ q.parked = 0 ∧ 0 < q.size)
      ∧ (ofSize 2 60000).run (actions ++ [.look 2]) = some (q, happened)
      ∧ q.AtRest ∧ q.queue ≠ [] ∧ ∀ w ∈ q.workers, w.isRunning = true := by
  intro actions happened p q
  have hrun : (ofSize 2 60000).run actions = some (p, happened) := rfl
  have hleave : p.step (.look 2) = some (q, []) := rfl
  have hlater : (ofSize 2 60000).run (actions ++ [.look 2]) = some (q, happened) := rfl
  have hrest : q.AtRest := by simp [AtRest, q, Worker.isRunning]
  have hne : q.queue ≠ [] := List.cons_ne_nil _ _
  refine ⟨hrun, hleave, ?_, hlater, hrest, hne, ?_⟩
  · exact ((all_running_of_queue_ne_nil hrun).2.2.2 _ q _ hleave (by decide)).2
  · exact (all_running_of_queue_ne_nil hlater).2.2.1 hrest hne

end Pool

end ReviewStream
