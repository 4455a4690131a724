import ReviewStream.Proofs.Pool.Moves

/-!
# Working off a pool

Once a pool is shut down nobody parks any more: a worker that finds nothing to do leaves.  So as
long as there are workers one of them has something to do, and with every turn less is left of it.

* `Pool.Halted`: nothing is started any more.
* `Outline.load`: how much is left to do.
* **`Outline.Move.load_le`**: after a shutdown it never grows, and every turn of a worker lowers it.
* **`Pool.exists_busy`**: as long as there are workers one of them has something to do.
-/

namespace ReviewStream

variable {J : Type}

/-- Whether a section is a turn of a worker. -/
def Pool.Action.isTurn : Pool.Action J → Bool
  | .look _ | .finish .. => true
  | _ => false

/-- Whether a section is a turn of a worker. -/
def Pool.Move.isTurn : Pool.Move J → Bool
  | .served a => a.isTurn
  | .submitStarved .. | .setCoreStarved .. => false

namespace Outline

open Pool

variable {id : Nat} {a : Action J} {m : Pool.Move J} {o rest next : Outline J}
  {happened : List (Occurrence J)}

/-- What is left to do: every job has to be started and to end, and every worker has to leave. -/
def load (o : Outline J) : Nat := 2 * o.queue.length + 2 * o.looking + o.running.card

/-! ## Nobody parks -/

/-- Workers are parked only in a pool that is not shut down. -/
def Unparked (o : Outline J) : Prop := o.stage ≠ .running → o.parked = 0

lemma Unparked.advance (h : (rest.plus .waking).Unparked)
    (hadvance : Advance id rest next happened) : next.Unparked := by
  cases hadvance with
  | leave _ => exact h
  | start _ _ _ => exact h
  | park hrun _ _ =>
      intro hstage
      rw [stage_plus] at hstage
      exact absurd hrun hstage

lemma Unparked.step (h : o.Unparked) (hstep : o.Step a next happened) : next.Unparked := by
  cases hstep with
  | submitHire hrun _ | submitWake hrun _ _ | growCore _ _ hrun =>
      exact fun hstage => absurd hrun hstage
  | shrinkCore _ _ | lowerMax _ _ _ | shortenKeepAlive _ | shutdown | shutdownNow =>
      exact fun _ => rfl
  | expire hrest =>
      subst hrest
      intro hstage
      rw [stage_plus] at hstage
      exact absurd (h (by rwa [stage_plus])) (Nat.succ_ne_zero _)
  | retire hrest _ hrun =>
      exact fun hstage => absurd hrun hstage
  | look hrest hadvance =>
      subst hrest
      exact h.advance hadvance
  | finish hrest hadvance =>
      subst hrest
      exact Unparked.advance h hadvance
  | _ => exact h

lemma Unparked.move (h : o.Unparked) (hmove : o.Move m next happened) : next.Unparked := by
  cases hmove with
  | served hstep => exact h.step hstep
  | refuseJob hrun _ | wakeForJob hrun _ | growLess hrun _ _ =>
      exact fun hstage => absurd hrun hstage

/-! ## Less and less is left to do -/

lemma load_wakeAll (hparked : o.parked = 0) : o.wakeAll.load = o.load := by
  simp [load, hparked]

lemma load_plus_waking (rest : Outline J) : (rest.plus .waking).load = rest.load + 2 := by
  simp only [load, plus]
  omega

lemma load_plus_running (rest : Outline J) (job : J) :
    (rest.plus (.running job)).load = rest.load + 1 := by
  simp only [load, plus, Multiset.card_cons]
  omega

/-- A worker that takes a job has one step fewer to do than the job and the worker had. -/
lemma Advance.load_le (h : Advance id rest next happened) (hstage : rest.stage ≠ .running) :
    next.load ≤ rest.load := by
  cases h with
  | leave _ => exact Nat.le_refl _
  | start _ _ hqueue =>
      rw [load_plus_running]
      simp only [load, hqueue, List.length_cons]
      omega
  | park hrun _ _ => exact absurd hrun hstage

/-- After a shutdown no section adds to what is left to do, and every turn of a worker does some of
it. -/
lemma Step.load_le (h : o.Step a next happened) (hstage : o.stage ≠ .running)
    (hparked : o.parked = 0) : next.load ≤ o.load ∧ (a.isTurn = true → next.load < o.load) := by
  cases h with
  | submitHire hrun _ | submitWake hrun _ _ | growCore _ _ hrun => exact absurd hrun hstage
  | shrinkCore _ _ | lowerMax _ _ _ | shortenKeepAlive _ | shutdown =>
      exact ⟨(load_wakeAll hparked).le, nofun⟩
  | shutdownNow =>
      refine ⟨?_, nofun⟩
      rw [load_wakeAll (o := { o with stage := .stopped, queue := [] }) hparked]
      simp [load]
  | expire hrest =>
      subst hrest
      exact absurd hparked (Nat.succ_ne_zero _)
  | retire hrest _ hrun =>
      subst hrest
      rw [stage_plus] at hstage
      exact absurd hrun hstage
  | look hrest hadvance =>
      subst hrest
      rw [stage_plus] at hstage
      have hload := hadvance.load_le hstage
      rw [load_plus_waking]
      omega
  | finish hrest hadvance =>
      subst hrest
      rw [stage_plus] at hstage
      have hload := hadvance.load_le hstage
      rw [load_plus_running]
      omega
  | _ => exact ⟨Nat.le_refl _, nofun⟩

/-- **After a shutdown less and less is left to do.** -/
theorem Move.load_le (h : o.Move m next happened) (hstage : o.stage ≠ .running)
    (hparked : o.parked = 0) : next.load ≤ o.load ∧ (m.isTurn = true → next.load < o.load) := by
  cases h with
  | served h => exact h.load_le hstage hparked
  | refuseJob hrun _ | wakeForJob hrun _ | growLess hrun _ _ => exact absurd hrun hstage

/-- What is not a turn of a worker starts nothing. -/
lemma Move.startedJobs_eq_nil (h : o.Move m next happened) (hturn : m.isTurn = false) :
    startedJobs happened = [] := by
  cases h with
  | served h => cases h <;> first | rfl | cases hturn
  | _ => rfl

/-- Jobs are given back by the section that does so, and by no other. -/
lemma Move.eq_of_dropped {jobs : List J} (h : o.Move m next happened)
    (hdropped : .dropped jobs ∈ happened) : m = .served .shutdownNow := by
  cases h with
  | served h =>
      cases h with
      | shutdownNow => rfl
      | look _ hadvance => exact absurd hdropped hadvance.dropped_notMem
      | finish _ hadvance => exact absurd hdropped (by simpa using hadvance.dropped_notMem)
      | _ => simp at hdropped
  | _ => simp at hdropped

/-- After a shutdown nothing is accepted. -/
lemma Move.acceptedJobs_eq_nil (h : o.Move m next happened) (hstage : o.stage ≠ .running) :
    acceptedJobs happened = [] := by
  cases h with
  | served h =>
      cases h with
      | submitHire hrun _ | submitWake hrun _ _ => exact absurd hrun hstage
      | look _ hadvance => exact hadvance.queue_eq.1
      | finish _ hadvance => exact hadvance.queue_eq.1
      | _ => rfl
  | refuseJob hrun _ | wakeForJob hrun _ | growLess hrun _ _ => exact absurd hrun hstage

end Outline

namespace Pool

variable {p : Pool J} {m : Move J} {w : Worker J} {r : Pool J × List (Occurrence J)}
  {past : List (Occurrence J)}

/-! ## Pools in which nothing is started -/

/-- Nothing is started any more: the pool is stopped, or its last worker has left. -/
def Halted (p : Pool J) : Prop := p.stage = .stopped ∨ p.isTerminated = true

lemma Halted.stage_ne (h : p.Halted) : p.stage ≠ .running := by
  rcases h with hstop | hterminated
  · simp [hstop]
  · exact ((isTerminated_iff p).mp hterminated).1

lemma Halted.queue_eq_nil (h : p.Halted) (hp : p.Balanced past) : p.queue = [] := by
  rcases h with hstop | hterminated
  · exact hp.supplied.queue_eq_nil hstop
  · exact (hp.of_isTerminated hterminated).1

/-- **Where nothing is started any more, it stays so**, and all that still happens to jobs is that
those that are running end. -/
theorem Halted.move (h : p.Halted) (hp : p.Balanced past) (hmove : p.move m = some r) :
    r.1.Halted ∧ acceptedJobs r.2 = [] ∧ startedJobs r.2 = [] ∧ droppedJobs r.2 = []
      ∧ p.running = ↑(endedJobs r.2) + r.1.running := by
  have hp' := hp.accounted.numbered
  have hout := outline_move hp' hmove
  have hkept : r.1.Halted ∧ startedJobs r.2 = [] := by
    rcases h with hstop | hterminated
    · obtain ⟨hnone, hstop⟩ := hout.of_stopped hstop
      exact ⟨.inl hstop, hnone⟩
    · obtain ⟨hterminated, -, hnone⟩ := isTerminated_of_move hp' hmove hterminated
      exact ⟨.inr hterminated, hnone⟩
  obtain ⟨hhalted, hstarted⟩ := hkept
  have haccepted := hout.acceptedJobs_eq_nil h.stage_ne
  have hqueue := hout.queue_append_accepted
  have hrunning := hout.running_add_started
  simp only [outline_queue, h.queue_eq_nil hp, haccepted, hstarted, List.nil_append] at hqueue
  simp only [outline_running, hstarted, Multiset.coe_nil, Multiset.add_zero] at hrunning
  exact ⟨hhalted, haccepted, hstarted, (List.append_eq_nil_iff.mp hqueue.symm).1, hrunning⟩

/-! ## Somebody has something to do -/

lemma worker?_of_mem (hp : p.Numbered) (h : w ∈ p.workers) : p.worker? w.id = some w := by
  cases hfound : p.worker? w.id with
  | none =>
      have hother := List.find?_eq_none.mp hfound w h
      simp at hother
  | some v =>
      have hsame : v = w :=
        List.inj_on_of_nodup_map hp.nodup (mem_of_worker? hfound) h (id_of_worker? hfound)
      rw [hsame]

/-- **As long as there are workers one of them has something to do.** -/
theorem exists_busy (hp : p.Numbered) (hparked : p.parked = 0) (hsize : p.size ≠ 0) :
    ∃ id, (p.step (.look id)).isSome
      ∨ ∃ job, p.worker? id = some ⟨id, .running job⟩
          ∧ ∀ ending, (p.step (.finish id ending)).isSome := by
  obtain ⟨w, hw⟩ := List.exists_mem_of_length_pos (Nat.pos_of_ne_zero hsize)
  have hfound := worker?_of_mem hp hw
  obtain ⟨id, phase⟩ := w
  refine ⟨id, ?_⟩
  cases phase with
  | waking =>
      refine .inl ?_
      simp only [step, hfound]
      rfl
  | expired =>
      refine .inl ?_
      simp only [step, hfound]
      split_ifs <;> rfl
  | parked =>
      have hnone := List.countP_eq_zero.mp hparked _ hw
      exact absurd rfl hnone
  | running job =>
      refine .inr ⟨job, hfound, fun ending => ?_⟩
      simp only [step, hfound]
      rfl

end Pool

end ReviewStream
