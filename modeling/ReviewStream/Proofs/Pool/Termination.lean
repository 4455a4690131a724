import ReviewStream.Pool.Await
import ReviewStream.Proofs.Pool.Moves

/-!
# The end of a pool

A pool that is shut down ends when its last worker leaves, and nothing is left behind then: a worker
leaves only if the queue is empty or others stay.  Those who wait for the end look at the pool under
its lock when they return, so what they say is true at that moment; that the pool is terminated
stays true.

* `Pool.Watched.step_cases`: what a step is.
* **`Pool.Watched.isTerminated_of_run`**: a terminated pool stays so.
* **`Pool.Watched.complete_of_isTerminated`**: the end of a pool is complete and final.
-/

namespace ReviewStream.Pool

variable {J : Type}

/-! ## Resizing -/

/-- A resize is a run of the sections that it gets through with. -/
lemma exists_run_eq_carryOut : ∀ (plan : List (Action J)) (p : Pool J),
    ∃ actions happened, p.run actions = some ((p.carryOut plan).2, happened)
  | [], p => ⟨[], [], rfl⟩
  | a :: rest, p => by
      rw [carryOut]
      split
      next => exact ⟨[], [], rfl⟩
      next q happened _ hstep =>
        obtain ⟨actions, later, hlater⟩ := exists_run_eq_carryOut rest q
        refine ⟨a :: actions, happened ++ later, ?_⟩
        simp only [run, hstep, hlater, Option.bind_eq_bind, Option.bind_some, Option.pure_def]
      next => exact exists_run_eq_carryOut rest p

/-- A resize brings no terminated pool to life. -/
lemma isTerminated_resize {p : Pool J} (hp : p.Numbered) (h : p.isTerminated = true) (size : Nat) :
    (p.resize size).2.isTerminated = true ∧ (p.resize size).2.nextId = p.nextId := by
  obtain ⟨actions, happened, hrun⟩ :=
    exists_run_eq_carryOut (resizePlan p.core (Nat.max size 1)) p
  have hkept := isRun.invariant
    (I := fun q => q.Numbered ∧ q.isTerminated = true ∧ q.nextId = p.nextId)
    (fun q a r now _ hq hstep => by
      obtain ⟨hnumbered, hterminated, hnext⟩ := hq
      have hmove : q.move (.served a) = some (r, now) := hstep
      obtain ⟨hterminated, hsame, -⟩ := isTerminated_of_move hnumbered hmove hterminated
      exact ⟨hnumbered.step hstep, hterminated, hsame.trans hnext⟩)
    ⟨hp, h, rfl⟩ hrun
  exact hkept.2

namespace Watched

variable {s t : Watched J} {act : Act J} {acts : List (Act J)} {call : Nat} {answer : Bool}
  {past happened more : List (Occurrence J)}

/-! ## Steps -/

/-- A step is a section, or somebody comes to wait, or a call that waits goes on. -/
lemma step_cases (h : s.step act = some (t, more)) :
    (∃ m, act = .work m ∧ s.pool.move m = some (t.pool, more)
        ∧ (t.waits = s.waits ∨ t.waits = s.waits.map Wait.wake))
      ∨ (act = .await ∧ t = { s with waits := s.waits ++ [.looking] } ∧ more = [])
      ∨ ∃ call wait next, s.waits[call]? = some wait
        ∧ t = { s with waits := s.waits.set call next } ∧ more = []
        ∧ (act = .look call ∧ wait.look? s.pool.isTerminated = some next
          ∨ act = .expire call ∧ wait.expire? = some next) := by
  -- A call that goes on changes nothing but how far it has come.
  have hgoOn : ∀ {call : Nat} {next? : Wait → Option Wait},
      (s.goOn call next?).map (fun s => (s, ([] : List (Occurrence J)))) = some (t, more) →
      ∃ wait next, s.waits[call]? = some wait ∧ next? wait = some next
        ∧ t = { s with waits := s.waits.set call next } ∧ more = [] := by
    intro call next? h
    obtain ⟨u, hu, heq⟩ := Option.map_eq_some_iff.mp h
    obtain ⟨rfl, rfl⟩ := Prod.mk.inj heq
    simp only [goOn, Option.bind_eq_bind, Option.pure_def, Option.bind_eq_some_iff,
      Option.some.injEq] at hu
    obtain ⟨wait, hwait, next, hnext, rfl⟩ := hu
    exact ⟨wait, next, hwait, hnext, rfl, rfl⟩
  cases act with
  | work m =>
      obtain ⟨r, hr, heq⟩ := Option.map_eq_some_iff.mp h
      obtain ⟨rfl, rfl⟩ := Prod.mk.inj heq
      refine .inl ⟨m, rfl, hr, ?_⟩
      dsimp only
      split_ifs
      · exact .inr rfl
      · exact .inl rfl
  | await =>
      obtain ⟨rfl, rfl⟩ := Prod.mk.inj (Option.some.inj h)
      exact .inr (.inl ⟨rfl, rfl, rfl⟩)
  | look call =>
      obtain ⟨wait, next, hwait, hnext, ht, hmore⟩ := hgoOn h
      exact .inr (.inr ⟨call, wait, next, hwait, ht, hmore, .inl ⟨rfl, hnext⟩⟩)
  | expire call =>
      obtain ⟨wait, next, hwait, hnext, ht, hmore⟩ := hgoOn h
      exact .inr (.inr ⟨call, wait, next, hwait, ht, hmore, .inr ⟨rfl, hnext⟩⟩)

/-- To the pool a step is a section, or nothing. -/
lemma pool_of_step (h : s.step act = some (t, more)) :
    (∃ m, act = .work m ∧ s.pool.move m = some (t.pool, more))
      ∨ (∀ m, act ≠ .work m) ∧ t.pool = s.pool ∧ more = [] := by
  rcases step_cases h with ⟨m, hact, hmove, -⟩ | ⟨rfl, rfl, rfl⟩
    | ⟨call, wait, next, -, rfl, rfl, ⟨rfl, -⟩ | ⟨rfl, -⟩⟩
  · exact .inl ⟨m, hact, hmove⟩
  all_goals exact .inr ⟨nofun, rfl, rfl⟩

/-- A run is a sequence of steps. -/
lemma isRun : IsRun (Watched.step (J := J)) run [] (· ++ ·) :=
  .ofLists (fun _ => rfl) fun _ _ _ => rfl

/-! ## What a step does -/

/-- A call that looks at the pool and returns says whether it is terminated. -/
lemma eq_of_look {terminated : Bool} {wait : Wait}
    (h : wait.look? terminated = some (.returned answer)) : answer = terminated := by
  cases wait with
  | looking => cases terminated <;> simp_all [Wait.look?]
  | late => simpa [Wait.look?, eq_comm] using h
  | waiting | returned _ => cases h

/-- No call returns by being woken. -/
lemma eq_of_wake {wait : Wait} (h : wait.wake = .returned answer) : wait = .returned answer := by
  cases wait <;> simp_all [Wait.wake]

/-- **What a call returns is true at that moment**: it looks at the pool, whatever else is going
on. -/
theorem eq_isTerminated_of_returned (h : s.step act = some (t, more))
    (hbefore : s.waits[call]? ≠ some (.returned answer))
    (hafter : t.waits[call]? = some (.returned answer)) :
    t.pool = s.pool ∧ answer = s.pool.isTerminated := by
  rcases step_cases h with ⟨m, -, -, hwaits | hwaits⟩ | ⟨-, rfl, -⟩
    | ⟨other, wait, next, hwait, rfl, -, hnext⟩
  · rw [hwaits] at hafter
    exact absurd hafter hbefore
  · rw [hwaits, List.getElem?_map, Option.map_eq_some_iff] at hafter
    obtain ⟨wait, hwait, hwoken⟩ := hafter
    exact absurd (hwait.trans (congrArg some (eq_of_wake hwoken))) hbefore
  · rw [List.getElem?_append] at hafter
    split_ifs at hafter
    · exact absurd hafter hbefore
    · simp [List.getElem?_singleton] at hafter
  · rw [List.getElem?_set] at hafter
    split_ifs at hafter with heq
    · obtain rfl : next = .returned answer := Option.some.inj hafter
      refine ⟨rfl, ?_⟩
      rcases hnext with ⟨-, hlook⟩ | ⟨-, hexpire⟩
      · exact eq_of_look hlook
      · cases wait <;> cases hexpire
    · exact absurd hafter hbefore

/-- **A terminated pool stays so**, whatever anybody does. -/
theorem isTerminated_of_run (hs : s.pool.Numbered) (hterminated : s.pool.isTerminated = true)
    (h : s.run acts = some (t, more)) :
    t.pool.isTerminated = true ∧ t.pool.nextId = s.pool.nextId ∧ startedJobs more = [] := by
  have hkept := isRun.induction
    (I := fun u _ past => u.pool.Numbered ∧ u.pool.isTerminated = true
      ∧ u.pool.nextId = s.pool.nextId ∧ startedJobs past = [])
    (fun u acts past act v later _ hu hstep => by
      obtain ⟨hnumbered, hterminated, hnext, hnone⟩ := hu
      rcases pool_of_step hstep with ⟨m, -, hmove⟩ | ⟨-, hpool, rfl⟩
      · obtain ⟨hterminated, hsame, hlater⟩ := isTerminated_of_move hnumbered hmove hterminated
        refine ⟨hnumbered.move hmove, hterminated, hsame.trans hnext, ?_⟩
        rw [startedJobs_append, hnone, hlater]
        rfl
      · rw [hpool, List.append_nil]
        exact ⟨hnumbered, hterminated, hnext, hnone⟩)
    ⟨hs, hterminated, rfl, rfl⟩ h
  exact hkept.2

/-- The end of a pool only comes nearer. -/
lemma rank_le_of_run (hs : s.pool.Numbered) (h : s.run acts = some (t, more)) :
    s.pool.stage.rank ≤ t.pool.stage.rank := by
  have hkept := isRun.invariant
    (I := fun u => u.pool.Numbered ∧ s.pool.stage.rank ≤ u.pool.stage.rank)
    (fun u act v later _ hu hstep => by
      obtain ⟨hnumbered, hrank⟩ := hu
      rcases pool_of_step hstep with ⟨m, -, hmove⟩ | ⟨-, hpool, -⟩
      · exact ⟨hnumbered.move hmove, Nat.le_trans hrank (outline_move hnumbered hmove).rank_le⟩
      · rw [hpool]
        exact ⟨hnumbered, hrank⟩)
    ⟨hs, Nat.le_refl _⟩ h
  exact hkept.2

/-! ## Any run -/

/-- What a pool is, what has been done to it and what those say who waited for its end agree with
each other. -/
structure Consistent (s : Watched J) (acts : List (Act J)) (past : List (Occurrence J)) : Prop where
  balanced : s.pool.Balanced past
  shutdown_iff : s.pool.isShutdown = true ↔
    .work (.served .shutdown) ∈ acts ∨ .work (.served .shutdownNow) ∈ acts
  terminated_of_returned : .returned true ∈ s.waits → s.pool.isTerminated = true

lemma consistent_ofSize (size keepAlive : Nat) :
    (ofPool (ofSize size keepAlive : Pool J)).Consistent [] [] where
  balanced := balanced_ofSize size keepAlive
  shutdown_iff := by simp [ofPool, ofSize, spawn, isShutdown]
  terminated_of_returned := by simp [ofPool]

/-- Every step keeps them in agreement. -/
lemma Consistent.step (hs : s.Consistent acts past) (h : s.step act = some (t, more)) :
    t.Consistent (acts ++ [act]) (past ++ more) where
  balanced := by
    rcases pool_of_step h with ⟨m, -, hmove⟩ | ⟨-, hpool, rfl⟩
    · exact hs.balanced.move hmove
    · rw [hpool, List.append_nil]
      exact hs.balanced
  shutdown_iff := by
    have hbefore := hs.shutdown_iff
    rw [isShutdown_eq_true_iff] at hbefore ⊢
    simp only [List.mem_append, List.mem_singleton]
    rcases pool_of_step h with ⟨m, rfl, hmove⟩ | ⟨hother, hpool, -⟩
    · have hstage := (outline_move hs.balanced.accounted.numbered hmove).stage_ne_running_iff
      simp only [outline_stage] at hstage
      rw [hstage, hbefore, Act.work.injEq, Act.work.injEq, eq_comm (b := m), eq_comm (b := m)]
      exact or_or_or_comm
    · rw [hpool, hbefore]
      simp [Ne.symm (hother _)]
  terminated_of_returned := by
    intro hreturned
    obtain ⟨call, hcall⟩ := List.mem_iff_getElem?.mp hreturned
    by_cases hbefore : s.waits[call]? = some (.returned true)
    · have hterminated := hs.terminated_of_returned (List.mem_of_getElem? hbefore)
      have hrun : s.run [act] = some (t, more) := isRun.singleton_eq_some h
      exact (isTerminated_of_run hs.balanced.accounted.numbered hterminated hrun).1
    · obtain ⟨hpool, hanswer⟩ := eq_isTerminated_of_returned h hbefore hcall
      rw [hpool]
      exact hanswer.symm

/-- Every run keeps them in agreement. -/
lemma consistent_of_run {size keepAlive : Nat}
    (h : (ofPool (ofSize size keepAlive)).run acts = some (s, happened)) :
    s.Consistent acts happened :=
  isRun.induction (I := Consistent) (fun _ _ _ _ _ _ _ hs hstep => hs.step hstep)
    (consistent_ofSize size keepAlive) h

/-- The end of a pool: nothing is left behind, and nothing begins any more. -/
structure Concluded (s : Watched J) (past : List (Occurrence J)) : Prop where
  queue_eq_nil : s.pool.queue = []
  active_eq_zero : s.pool.active = 0
  /-- What was accepted was started or given back. -/
  accepted_eq : acceptedJobs past = startedJobs past ++ droppedJobs past
  /-- What was started has ended. -/
  started_perm : (startedJobs past).Perm (endedJobs past)
  /-- No worker is started later on, and no job. -/
  stays : ∀ later t more, s.run later = some (t, more) →
    t.pool.isTerminated = true ∧ t.pool.nextId = s.pool.nextId ∧ startedJobs more = []
  resize : ∀ size,
    (s.pool.resize size).2.isTerminated = true ∧ (s.pool.resize size).2.nextId = s.pool.nextId

lemma Consistent.concluded (hs : s.Consistent acts past) (h : s.pool.isTerminated = true) :
    s.Concluded past := by
  have hnumbered := hs.balanced.accounted.numbered
  obtain ⟨hqueue, hactive, haccepted, hstarted⟩ := hs.balanced.of_isTerminated h
  constructor
  case queue_eq_nil => exact hqueue
  case active_eq_zero => exact hactive
  case accepted_eq => exact haccepted
  case started_perm => exact hstarted
  case stays =>
    intro later t more hlater
    exact isTerminated_of_run hnumbered h hlater
  case resize =>
    intro size
    exact isTerminated_resize hnumbered h size

/-- A pool that is shut down takes no job, and does not even ask for a thread. -/
lemma step_submit_of_isShutdown (h : s.pool.isShutdown = true) (job : J) :
    s.pool.submit job = .error .rejected
      ∧ s.step (.work (.served (.submit job))) = some (s, [.refused .rejected])
      ∧ ∀ reason, s.step (.work (.submitStarved job reason)) = none := by
  have hsubmit : s.pool.submit job = .error .rejected := if_pos h
  have hstage := (isShutdown_eq_true_iff s.pool).mp h
  refine ⟨hsubmit, ?_, fun reason => ?_⟩
  · simp [step, move, Pool.step, hsubmit, settled]
  · have hnone : s.pool.move (.submitStarved job reason) = none := if_pos (.inl hstage)
    simp [step, hnone]

/-- **The end of a pool is complete and final.**  After any run, in which the system may refuse any
thread and a resize counts as the sections that it is made of:

* The pool only moves on from running to shut down to stopped, and it is shut down if and only if
  somebody has done so.
* If it is terminated, then its queue is empty, no job runs, all jobs that were accepted have been
  given back or have been started and have ended, and nobody ever starts a worker or a job again.
* If it is shut down, a job that is submitted is rejected, and nothing else happens.
* Whoever waited for the end and returns says whether the pool is terminated at that moment; who
  once said that it is, was right for good. -/
theorem complete_of_isTerminated {size keepAlive : Nat}
    (h : (ofPool (ofSize size keepAlive)).run acts = some (s, happened)) :
    (∀ later t more, s.run later = some (t, more) → s.pool.stage.rank ≤ t.pool.stage.rank)
      ∧ (s.pool.isShutdown = true ↔
          .work (.served .shutdown) ∈ acts ∨ .work (.served .shutdownNow) ∈ acts)
      ∧ (s.pool.isTerminated = true → s.Concluded happened)
      ∧ (s.pool.isShutdown = true → ∀ job,
          s.pool.submit job = .error .rejected
            ∧ s.step (.work (.served (.submit job))) = some (s, [.refused .rejected])
            ∧ ∀ reason, s.step (.work (.submitStarved job reason)) = none)
      ∧ (∀ act t more (call : Nat) answer, s.step act = some (t, more) →
          s.waits[call]? ≠ some (.returned answer) → t.waits[call]? = some (.returned answer) →
            t.pool = s.pool ∧ answer = s.pool.isTerminated)
      ∧ (.returned true ∈ s.waits → s.pool.isTerminated = true) := by
  have hs : s.Consistent acts happened := consistent_of_run h
  refine ⟨fun later t more hlater => ?_, hs.shutdown_iff, hs.concluded, ?_,
    fun act t more call answer hstep hbefore hafter => ?_, hs.terminated_of_returned⟩
  · exact rank_le_of_run hs.balanced.accounted.numbered hlater
  · exact step_submit_of_isShutdown
  · exact eq_isTerminated_of_returned hstep hbefore hafter

/-- The first call gives up waiting for a pool whose only worker has a job to do.  The second one is
woken when the worker leaves; the job in the queue has been given back by then. -/
theorem complete_of_isTerminated_of_two_calls :
    let acts : List (Act Nat) :=
      [.work (.submitStarved 10 "no threads"), .work (.served (.look 1)),
        .work (.submitStarved 20 "no threads"), .await, .look 0,
        .work (.served .shutdown), .work (.served (.submit 30)), .expire 0, .look 0,
        .await, .look 1, .work (.served .shutdownNow), .work (.served (.finish 1 .crashed)),
        .look 1]
    let happened : List (Occurrence Nat) :=
      [.accepted 10, .started 1 10, .accepted 20, .refused .rejected, .dropped [20],
        .finished 1 10 .crashed]
    let s : Watched Nat :=
      { pool := { queue := [], core := 2, max := 2, keepAlive := 0, workers := [], largest := 1,
                  nextId := 2, stage := .stopped }
        waits := [.returned false, .returned true] }
    (ofPool (ofSize 2 0)).run acts = some (s, happened)
      ∧ s.pool.isTerminated = true ∧ s.Concluded happened
      ∧ s.step (.work (.served (.submit 40))) = some (s, [.refused .rejected]) := by
  intro acts happened s
  have hrun : (ofPool (ofSize 2 0)).run acts = some (s, happened) := rfl
  obtain ⟨-, -, hconcluded, hrejected, -, hreturned⟩ := complete_of_isTerminated hrun
  have hterminated : s.pool.isTerminated = true := hreturned (by simp [s])
  exact ⟨hrun, hterminated, hconcluded hterminated, (hrejected rfl 40).2.1⟩

end Watched

end ReviewStream.Pool
